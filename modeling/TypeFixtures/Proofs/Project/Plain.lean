import TypeFixtures.Proofs.FileTree.Dots
import TypeFixtures.Proofs.Project.Rendered
import TypeFixtures.Proofs.Yaml.Ascii

/-!
# Projects of plain texts

A project file of two lines gives the name and the catalog that stand on them, however long they
are, if both can stand there without quotes.
-/

namespace TypeFixtures.Project

open Yaml Lexer

/-- A value that is written and read without quotes, and that is no name of null. -/
structure IsValue (value : String) : Prop where
  plain : Writer.IsPlain value.toList
  ascii : value.toList.all isAscii = true
  present : (value.toList.isEmpty || Scalar.isNullName value.toList) = false

variable {name catalog : String}

/-- No mark stands among slashes. -/
theorem hasInnerIndicator_slashes (count : Nat) {cs : List Char}
    (hcs : Writer.hasInnerIndicator false cs = false) :
    Writer.hasInnerIndicator false (List.replicate count '/' ++ cs) = false := by
  induction count with
  | zero => exact hcs
  | succ count ih =>
      rw [List.replicate_succ, List.cons_append, Writer.hasInnerIndicator]
      exact ih

/-- A name behind a dot and slashes is a value if the name is. -/
theorem isValue_dotted (count : Nat) (hname : IsValue name) :
    IsValue (FilePath.dotted (count + 1) name) := by
  have hlist := FilePath.toList_dotted (count + 1) name
  rw [List.replicate_succ, List.cons_append] at hlist
  have hascii : ∀ c ∈ (FilePath.dotted (count + 1) name).toList, isAscii c = true := by
    intro c hc
    obtain rfl | rfl | hc := FilePath.mem_dotted hc
    · decide
    · decide
    · exact List.all_eq_true.mp hname.ascii c hc
  have hlast : (FilePath.dotted (count + 1) name).toList.getLast? = name.toList.getLast? := by
    rw [FilePath.toList_dotted, ← List.cons_append,
      List.getLast?_append_of_ne_nil _ hname.plain.ne_nil]
  refine ⟨⟨by simp [hlist], fun c hc => ?_, by simp [hlist], hlast ▸ hname.plain.last, ?_, ?_⟩,
    List.all_eq_true.mpr hascii, ?_⟩
  · exact ⟨Writer.isPrintable_of_isAscii (hascii c hc), Writer.isBreak_of_isAscii (hascii c hc)⟩
  · rw [hlist]
    rfl
  · rw [hlist]
    exact hasInnerIndicator_slashes (count + 1) hname.plain.hasInnerIndicator
  · rw [hlist]
    rfl

/-- The text of a project that has a name and a catalog. -/
def catalogText (name catalog : String) : String :=
  "name: " ++ (name ++ ("\ncatalog: " ++ (catalog ++ "\n")))

theorem toList_catalogText (name catalog : String) :
    (catalogText name catalog).toList =
      entryText "name" name 0 (entryText "catalog" catalog 0 []) := by
  have hname : "name: ".toList = "name".toList ++ [':', ' '] := by decide +kernel
  have hcatalog : "\ncatalog: ".toList = '\n' :: ("catalog".toList ++ [':', ' ']) := by
    decide +kernel
  simp only [catalogText, entryText, String.toList_append, hname, hcatalog]
  simp

/-- Only line ends part the lines, and all else can be printed. -/
theorem isAscii_catalogText (hname : IsValue name) (hcatalog : IsValue catalog) :
    ∀ c ∈ (catalogText name catalog).toList, c = '\n' ∨ isAscii c = true := by
  have hline {cs : List Char} (h : (cs.all fun c => c == '\n' || isAscii c) = true) :
      ∀ c ∈ cs, c = '\n' ∨ isAscii c = true := fun c hc => by
    simpa using List.all_eq_true.mp h c hc
  intro c hc
  simp only [catalogText, String.toList_append, List.mem_append] at hc
  obtain hc | hc | hc | hc | hc := hc
  · exact hline (by decide +kernel) c hc
  · exact .inr (List.all_eq_true.mp hname.ascii c hc)
  · exact hline (by decide +kernel) c hc
  · exact .inr (List.all_eq_true.mp hcatalog.ascii c hc)
  · exact hline (by decide +kernel) c hc

/-- The tokens of the text, latest first. -/
def catalogTokens (name catalog : String) : List Token :=
  entryTokens "catalog".toList catalog.toList ⟨1, 0⟩ 0 ++
    (entryTokens "name".toList name.toList Mark.origin 0 ++
      [Token.empty .blockMapping Mark.origin])

theorem reads_catalogText (hname : IsValue name) (hcatalog : IsValue catalog) :
    Reads (ofChars (catalogText name catalog).toList)
      ⟨[], ⟨2, 0⟩, 1, [0], true, ⟨catalogTokens name catalog, none⟩, []⟩ := by
  have hkey : Writer.IsPlain "name".toList := Writer.isPlain_of_allowsPlain (by decide +kernel)
  have hkey' : Writer.IsPlain "catalog".toList :=
    Writer.isPlain_of_allowsPlain (by decide +kernel)
  have hword : (entryText "catalog" catalog 0 []).head?.any isGap = false := by
    have hfirst : "catalog".toList = 'c' :: "atalog".toList := by decide +kernel
    rw [entryText, hfirst]
    rfl
  rw [toList_catalogText]
  -- The first key opens the mapping, and the second line goes on with it.
  refine (reads_firstKey Mark.origin
    (prepare?_inside (skipGap_isPlain hkey) rfl (Nat.zero_le 1)) hkey (by decide +kernel) rfl
    (Nat.zero_le 0)).trans ?_
  refine (reads_lineEnd ⟨0, 5⟩ false hname.plain (by decide) Nat.zero_lt_one hword).trans ?_
  exact reads_entry ⟨1, 0⟩ 0 (prepare?_inside (skipGap_isPlain hkey') rfl (Nat.le_refl 1))
    hkey' (by decide +kernel) hcatalog.plain (Nat.le_refl 0) rfl

/-- The root of the text. -/
def catalogRoot (name catalog : String) : Node :=
  .mapping (.bare Mark.origin) [entryNode "name" name 0, entryNode "catalog" catalog 1]

theorem ofTokens_catalogTokens (name catalog : String) :
    Document.ofTokens (Token.empty .streamEnd ⟨2, 0⟩ :: Token.empty .blockEnd ⟨2, 0⟩ ::
      catalogTokens name catalog).reverse = ⟨catalogRoot name catalog, .clean⟩ := by
  generalize htokens : (Token.empty .streamEnd ⟨2, 0⟩ :: Token.empty .blockEnd ⟨2, 0⟩ ::
    catalogTokens name catalog).reverse = tokens
  have hlength : tokens.length = 11 := by rw [← htokens]; rfl
  have hread : Node.read Shorthands.standard (4 * tokens.length + 8) true false ⟨tokens, []⟩ =
      (catalogRoot name catalog, ⟨[Token.empty .streamEnd ⟨2, 0⟩], []⟩) := by
    rw [hlength, ← htokens]
    exact Node.read_blockMapping (Node.readEntries_cons rfl Node.read_scalar
      (Node.readEntries_cons rfl Node.read_scalar Node.readEntries_nil))
  have hroot := Document.ofRoot_of_read hread
  rw [← htokens] at hroot ⊢
  exact hroot

theorem ofNode_catalogRoot (name : String) (hcatalog : IsValue catalog) :
    ofNode (catalogRoot name catalog) =
      .ok { blank with name := name, catalog := some catalog } := by
  change readEntries Mark.origin (catalogRoot name catalog).anchored [] blank
    [entryNode "name" name 0, entryNode "catalog" catalog 1] = _
  refine (readEntries_field .name (by decide +kernel) rfl
    (bind_of_ok (readText_scalar _ _ name))).trans ?_
  refine (readEntries_field .catalog (by decide +kernel) rfl
    (bind_of_ok (readOptional_text hcatalog.present))).trans ?_
  rfl

/-- The two lines are read back. -/
theorem ofOctets_catalogText (hname : IsValue name) (hcatalog : IsValue catalog) :
    ofOctets (octets (catalogText name catalog)) =
      .ok { blank with name := name, catalog := some catalog } := by
  have hascii := isAscii_catalogText hname hcatalog
  have hlegible : (catalogText name catalog).toList.all isLegible = true :=
    List.all_eq_true.mpr fun c hc => isLegible_of_line (hascii c hc)
  rw [ofOctets, Document.ofOctets_octets, Document.ofChars, if_pos hlegible,
    unifyBreaks_eq_self hascii, ofChars_of_reads (reads_catalogText hname hcatalog),
    ofTokens_catalogTokens, Document.decode]
  simp only [ofNode_catalogRoot name hcatalog]

end TypeFixtures.Project
