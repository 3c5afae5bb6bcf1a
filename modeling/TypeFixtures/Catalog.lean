import TypeFixtures.Descriptor
import TypeFixtures.Diagnostic
import TypeFixtures.Text.Blank
import TypeFixtures.Text.LowerCase

/-!
# Type catalogs

A catalog is an ordered list of descriptors.  It is valid when every identifier can stand unquoted
in a statement, every type is written out, and no two identifiers have the same lower case.  The
check reports the fault of the first descriptor that has one.
-/

namespace TypeFixtures

/-- Descriptors in the order of the tables made from them. -/
abbrev Catalog := List Descriptor

/-- Why a catalog is rejected. -/
inductive CatalogFault where
  | emptyIdentifier (position : Nat)
  | invalidIdentifier (ident : String)
  | emptyType (ident : String)
  | duplicateTable (ident first : String)
  deriving DecidableEq, Repr

namespace CatalogFault

/-- The fault's text, with the kind of the fault in front. -/
def message : CatalogFault → String
  | emptyIdentifier position =>
      "empty table identifier: " ++
        Diagnostic.close ("descriptor #" ++ toString position ++ " has no table name")
  | invalidIdentifier ident =>
      "invalid table identifier: " ++
        Diagnostic.close
          ("'" ++ ident ++ "' may only contain ASCII letters, digits and underscores")
  | emptyType ident =>
      "empty type expression: " ++ Diagnostic.close ("descriptor '" ++ ident ++ "' has no type")
  | duplicateTable ident first =>
      "duplicate table: " ++
        Diagnostic.close
          ("'" ++ ident ++ "' lowercases to the same table name as '" ++ first ++ "'")

end CatalogFault

/-- The characters of an identifier: ASCII letters, digits and the underscore. -/
def isIdentifierChar (c : Char) : Bool :=
  c.isAlphanum || c == '_'

/-- Whether a text can stand unquoted as an identifier. -/
def isIdentifier (s : String) : Bool :=
  !s.toList.isEmpty && s.toList.all isIdentifierChar

namespace Descriptor

/-- What is wrong with a descriptor at a position, whatever stands beside it. -/
def fault? (position : Nat) (d : Descriptor) : Option CatalogFault :=
  if Text.isBlankText d.ident then some (.emptyIdentifier position)
  else if !isIdentifier d.ident then some (.invalidIdentifier d.ident)
  else if Text.isBlankText d.sqlType then some (.emptyType d.ident)
  else none

end Descriptor

namespace Catalog

/-- Check the descriptors from a position on.  `seen` holds the identifiers before it, each under
its lower case. -/
def validateFrom (seen : List (String × String)) (position : Nat) :
    List Descriptor → Except CatalogFault Unit
  | [] => .ok ()
  | d :: rest =>
      match d.fault? position with
      | some fault => .error fault
      | none =>
          match seen.lookup (Text.lower d.ident) with
          | some first => .error (.duplicateTable d.ident first)
          | none => validateFrom ((Text.lower d.ident, d.ident) :: seen) (position + 1) rest

/-- Check a whole catalog. -/
def validate (catalog : Catalog) : Except CatalogFault Unit :=
  validateFrom [] 0 catalog

end Catalog

end TypeFixtures
