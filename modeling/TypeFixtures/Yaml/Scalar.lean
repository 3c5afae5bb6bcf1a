import TypeFixtures.Decimal.Binary

/-!
# Plain scalars

What a scalar without quotes and without a tag stands for: null, a truth value, a number or, if it
is none of these, a text.
-/

namespace TypeFixtures.Yaml

/-- A number with a point, an exponent or a special name. -/
inductive Real where
  | notANumber
  | infinite (negative : Bool)
  | finite (negative : Bool) (magnitude : Binary)
  deriving DecidableEq, Repr

/-- What a scalar stands for.  Whole numbers are kept apart by their width and by whether a minus
sign was written. -/
inductive Scalar where
  | null
  | bool (value : Bool)
  | unsigned (value : Nat)
  | signed (value : Int)
  | wideUnsigned (value : Nat)
  | wideSigned (value : Int)
  | real (value : Real)
  | text (value : List Char)
  deriving DecidableEq, Repr

namespace Scalar

/-- The value of a digit in a base up to sixteen. -/
def digit? (base : Nat) (c : Char) : Option Nat :=
  let value :=
    if c.isDigit then c.toNat - '0'.toNat
    else if 'a' ≤ c ∧ c ≤ 'f' then c.toNat - 'a'.toNat + 10
    else if 'A' ≤ c ∧ c ≤ 'F' then c.toNat - 'A'.toNat + 10
    else base
  if value < base then some value else none

/-- The number that digits spell in a base; there is at least one digit. -/
def natural? (base : Nat) (cs : List Char) : Option Nat :=
  if cs.isEmpty then none
  else cs.foldlM (fun n c => (digit? base c).map (base * n + ·)) 0

/-- The text without a sign in front. -/
def unsignedPart : List Char → List Char
  | '+' :: rest => rest
  | '-' :: rest => rest
  | cs => cs

/-- A zero followed by further digits and nothing else.  Such a scalar is a text. -/
def hasLeadingZero (cs : List Char) : Bool :=
  match unsignedPart cs with
  | '0' :: c :: rest => (c :: rest).all Char.isDigit
  | _ => false

/-- The magnitude of a whole number without its sign: decimal, or with a mark for the base 16, 8 or
2.  `decimal` tells whether decimal digits are allowed. -/
def magnitude? (decimal : Bool) (cs : List Char) : Option Nat :=
  let marked := match cs with
    | '0' :: 'x' :: rest => natural? 16 rest
    | '0' :: 'o' :: rest => natural? 8 rest
    | '0' :: 'b' :: rest => natural? 2 rest
    | _ => none
  match marked with
  | some n => some n
  | none => if decimal then natural? 10 cs else none

/-- A whole number of at most 128 binary digits. -/
def whole? (cs : List Char) : Option Scalar :=
  let decimal := !hasLeadingZero cs
  match cs with
  | '-' :: rest =>
      match magnitude? decimal rest with
      | some n =>
          if n ≤ Nat.pow 2 63 then some (signed (-n))
          else if n ≤ Nat.pow 2 127 then some (wideSigned (-n))
          else none
      | none => none
  | _ =>
      match magnitude? decimal (match cs with | '+' :: rest => rest | _ => cs) with
      | some n =>
          if n < Nat.pow 2 64 then some (unsigned n)
          else if n < Nat.pow 2 128 then some (wideUnsigned n)
          else none
      | none => none

/-- Null by name. -/
def isNullName (cs : List Char) : Bool :=
  cs == "null".toList || cs == "Null".toList || cs == "NULL".toList || cs == "~".toList

/-- A truth value by name. -/
def bool? (cs : List Char) : Option Bool :=
  if cs == "true".toList || cs == "True".toList || cs == "TRUE".toList then some true
  else if cs == "false".toList || cs == "False".toList || cs == "FALSE".toList then some false
  else none

/-- The names of infinity. -/
def isInfinityName (cs : List Char) : Bool :=
  cs == ".inf".toList || cs == ".Inf".toList || cs == ".INF".toList

/-- A real number.  One that is too large is none. -/
def real? (cs : List Char) : Option Real :=
  let bare := match cs with | '+' :: rest => rest | _ => cs
  let twoSigns := match cs with | '+' :: '+' :: _ => true | '+' :: '-' :: _ => true | _ => false
  if twoSigns then none
  else if isInfinityName bare then some (.infinite false)
  else if cs.head? == some '-' && isInfinityName cs.tail then some (.infinite true)
  else if cs == ".nan".toList || cs == ".NaN".toList || cs == ".NAN".toList then some .notANumber
  else match Decimal.ofChars? bare with
    | some d => (Binary.ofDecimal? d).map (.finite d.negative)
    | none => none

/-- What a plain scalar stands for. -/
def ofPlain (cs : List Char) : Scalar :=
  if cs.isEmpty || isNullName cs then null
  else match bool? cs with
    | some b => bool b
    | none =>
        match whole? cs with
        | some number => number
        | none =>
            if hasLeadingZero cs then text cs
            else match real? cs with
              | some r => real r
              | none => text cs

end Scalar

end TypeFixtures.Yaml
