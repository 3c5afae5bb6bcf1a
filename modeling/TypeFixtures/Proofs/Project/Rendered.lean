import TypeFixtures.Project.Reader
import TypeFixtures.Proofs.Project.Name
import TypeFixtures.Proofs.Yaml.Blocks
import TypeFixtures.Proofs.Yaml.Lines

/-!
# The text of a new project, read

The lines after the name are the same for all new projects.  They are cut into the same tokens
whatever line the name ends on, and give the fields their standard values.
-/

namespace TypeFixtures.Project

open Yaml Lexer

/-! ## The text -/

/-- The text of an entry, up to the first word of the next line, which is indented by `n`. -/
def entryText (key value : String) (n : Nat) (tail : List Char) : List Char :=
  key.toList ++ ':' :: ' ' :: (value.toList ++ '\n' :: (List.replicate n ' ' ++ tail))

/-- The text of an item, up to the first word of the next line, which is indented by `n`. -/
def itemText (value : String) (n : Nat) (tail : List Char) : List Char :=
  '-' :: ' ' :: (value.toList ++ '\n' :: (List.replicate n ' ' ++ tail))

/-- What the comment says of the depth. -/
def depthComment : String :=
  " flat: plain/nullable/array LowCardinality variants, nested: also triple-nested arrays"

/-- The first setting of a standard script. -/
def firstSetting : String := "allow_suspicious_low_cardinality_types = 1"

/-- The other one. -/
def secondSetting : String := "allow_experimental_bigint_types = 1"

/-- The lines after the name. -/
def standardLines : List Char :=
  entryText "table_prefix" Options.standard.tablePrefix 0 <|
  entryText "engine" Options.standard.engine 0 <|
  '#' :: (depthComment.toList ++ '\n' ::
  (entryText "low_cardinality_depth" "flat" 0 <|
  "settings".toList ++ ':' :: '\n' :: (List.replicate 2 ' ' ++
  (itemText firstSetting 2 <| itemText secondSetting 0 <|
  entryText "catalog" Config.catalogFile 0 <|
  entryText "output" standardOutput 0 []))))

/-- What is written after the name. -/
def afterName : String :=
  "\n" ++
  ("table_prefix: " ++ (Options.standard.tablePrefix ++ ("\n" ++
  ("engine: " ++ (Options.standard.engine ++ ("\n" ++
  ("# flat: plain/nullable/array LowCardinality variants, nested: also triple-nested arrays\n" ++
  ("low_cardinality_depth: flat\n" ++
  ("settings:\n" ++ (String.join (Options.standard.settings.map settingLine) ++
  ("catalog: " ++ (Config.catalogFile ++ ("\n" ++
  ("output: " ++ (standardOutput ++ "\n")))))))))))))))

theorem render_eq (name : String) :
    render name = "name: " ++ (quotedName name ++ afterName) := by
  unfold render afterName
  simp only [String.append_assoc]

theorem toList_render (name : String) :
    (render name).toList =
      "name".toList ++ ':' :: ' ' :: '"' ::
        (name.toList.flatMap nameChar ++ '"' :: '\n' :: standardLines) := by
  have hname : "name: ".toList = "name".toList ++ [':', ' '] := by decide +kernel
  have hlines : afterName.toList = '\n' :: standardLines := by
    -- Short pieces are compared much faster than the whole text.
    unfold afterName
    simp only [String.toList_append]
    decide +kernel
  rw [render_eq]
  simp only [String.toList_append]
  rw [hname, hlines, quotedName, String.toList_ofList]
  simp

/-! ## The tokens -/

/-- The tokens of the lines after the name, latest first, where the name ends on a line. -/
def standardTokens (line : Nat) : List Token :=
  entryTokens "output".toList standardOutput.toList ⟨line + 9, 0⟩ 0 ++
  (entryTokens "catalog".toList Config.catalogFile.toList ⟨line + 8, 0⟩ 0 ++
  Token.empty .blockEnd ⟨line + 8, 0⟩ ::
  (itemTokens secondSetting.toList ⟨line + 7, 2⟩ 0 ++
  (itemTokens firstSetting.toList ⟨line + 6, 2⟩ 2 ++
  Token.empty .blockSequence ⟨line + 6, 2⟩ ::
  (keyTokens "settings".toList ⟨line + 5, 0⟩ ++
  (entryTokens "low_cardinality_depth".toList "flat".toList ⟨line + 4, 0⟩ 0 ++
  (entryTokens "engine".toList Options.standard.engine.toList ⟨line + 2, 0⟩ 0 ++
  entryTokens "table_prefix".toList Options.standard.tablePrefix.toList ⟨line + 1, 0⟩ 0))))))

/-- An entry at the start of a line, in the mapping around all entries. -/
theorem reads_entryText {lexer : Lexer} {key value : String} {line : Nat} {tail : List Char}
    {tokens : List Token} (hprepare : lexer.prepare? =
      some ⟨entryText key value 0 tail, ⟨line, 0⟩, 1, [0], true, ⟨tokens, none⟩, []⟩)
    (hkey : Writer.IsPlain key.toList) (hshort : key.toList.length ≤ 1024)
    (hvalue : Writer.allowsPlain value.toList = true) (hword : tail.head?.any isGap = false) :
    Reads lexer ⟨tail, ⟨line + 1, 0⟩, 1, [0], true,
      ⟨entryTokens key.toList value.toList ⟨line, 0⟩ 0 ++ tokens, none⟩, []⟩ :=
  reads_entry ⟨line, 0⟩ 0 hprepare hkey hshort (Writer.isPlain_of_allowsPlain hvalue)
    (Nat.le_refl 0) hword

/-- The lines after the name are cut into their tokens, wherever the name ends. -/
theorem reads_standardLines (line column : Nat) (tokens : List Token) :
    Reads ⟨'\n' :: standardLines, ⟨line, column⟩, 1, [0], false, ⟨tokens, none⟩, []⟩
      ⟨[], ⟨line + 10, 0⟩, 1, [0], true, ⟨standardTokens line ++ tokens, none⟩, []⟩ := by
  have hplain {s : String} (h : Writer.allowsPlain s.toList = true) : Writer.IsPlain s.toList :=
    Writer.isPlain_of_allowsPlain h
  have hprefix : Writer.IsPlain "table_prefix".toList := hplain (by decide +kernel)
  have hengine : Writer.IsPlain "engine".toList := hplain (by decide +kernel)
  have hdepth : Writer.IsPlain "low_cardinality_depth".toList := hplain (by decide +kernel)
  have hsettings : Writer.IsPlain "settings".toList := hplain (by decide +kernel)
  have hcatalog : Writer.IsPlain "catalog".toList := hplain (by decide +kernel)
  have houtput : Writer.IsPlain "output".toList := hplain (by decide +kernel)
  have hcomment : depthComment.toList.any isBreak = false := by decide +kernel
  unfold standardLines standardTokens
  simp only [List.append_assoc, List.cons_append]
  refine (reads_entryText
    (prepare?_inside ((skipGap_line false).trans (skipGap_isPlain hprefix)) rfl (Nat.le_refl 1))
    hprefix (by decide +kernel) (by decide +kernel) (by decide +kernel)).trans ?_
  refine (reads_entryText (prepare?_inside (skipGap_isPlain hengine) rfl (Nat.le_refl 1))
    hengine (by decide +kernel) (by decide +kernel) (by decide +kernel)).trans ?_
  refine (reads_entryText (prepare?_inside ((skipGap_commentLine hcomment).trans
      (skipGap_isPlain hdepth)) rfl (Nat.le_refl 1))
    hdepth (by decide +kernel) (by decide +kernel) (by decide +kernel)).trans ?_
  refine (reads_key ⟨line + 5, 0⟩
    (prepare?_inside (skipGap_isPlain hsettings) rfl (Nat.le_refl 1))
    hsettings (by decide +kernel) rfl).trans ?_
  -- The first item opens a block, and the entry after the second one closes it.
  refine (reads_firstItem ⟨line + 6, 2⟩ 2
    (prepare?_inside ((skipGap_line false).trans ((skipGap_spaces 2).trans
      (skipGap_word (by decide) (by decide)))) rfl (Nat.le_add_left 1 2))
    (Nat.le_succ 1) (hplain (by decide +kernel)) (Nat.le_refl 2) (by decide +kernel)).trans ?_
  refine (reads_item ⟨line + 7, 2⟩ 0
    (prepare?_inside (skipGap_word (by decide) (by decide)) (expire?_itemLevel (Nat.lt_succ_self _))
      (Nat.le_refl 3))
    (hplain (by decide +kernel)) (Nat.zero_le 2) (by decide +kernel)).trans ?_
  refine (reads_entryText
    (prepare?_closing (skipGap_isPlain hcatalog) (expire?_itemLevel (Nat.lt_succ_self _))
      (show 1 < 3 by decide) (Nat.le_refl 1))
    hcatalog (by decide +kernel) (by decide +kernel) (by decide +kernel)).trans ?_
  exact reads_entryText (prepare?_inside (skipGap_isPlain houtput) rfl (Nat.le_refl 1))
    houtput (by decide +kernel) (by decide +kernel) (by decide +kernel)

/-! ## The document -/

/-- An entry of two scalars on a line. -/
def entryNode (key value : String) (line : Nat) : Node × Node :=
  (.scalar (.bare ⟨line, 0⟩) true key.toList,
    .scalar (.bare ⟨line, key.toList.length + 2⟩) true value.toList)

/-- The item of a sequence on a line. -/
def itemNode (value : String) (line : Nat) : Node :=
  .scalar (.bare ⟨line, 4⟩) true value.toList

/-- The entries after the name. -/
def standardEntries (line : Nat) : List (Node × Node) :=
  [entryNode "table_prefix" Options.standard.tablePrefix (line + 1),
    entryNode "engine" Options.standard.engine (line + 2),
    entryNode "low_cardinality_depth" "flat" (line + 4),
    (.scalar (.bare ⟨line + 5, 0⟩) true "settings".toList,
      .sequence (.bare ⟨line + 6, 2⟩)
        [itemNode firstSetting (line + 6), itemNode secondSetting (line + 7)]),
    entryNode "catalog" Config.catalogFile (line + 8),
    entryNode "output" standardOutput (line + 9)]

/-- The root of a new project. -/
def standardRoot (name : List Char) (line : Nat) : Node :=
  .mapping (.bare Mark.origin)
    ((.scalar (.bare Mark.origin) true "name".toList, .scalar (.bare ⟨0, 6⟩) false name) ::
      standardEntries line)

/-- The tokens of the name and its key, latest first. -/
def nameTokens (name : List Char) (after : Mark) : List Token :=
  ⟨.scalar false name, ⟨0, 6⟩, after⟩ ::
    (keyTokens "name".toList Mark.origin ++ [Token.empty .blockMapping Mark.origin])

/-- All tokens in order. -/
def allTokens (name : List Char) (after : Mark) : List Token :=
  (Token.empty .streamEnd ⟨after.line + 10, 0⟩ :: Token.empty .blockEnd ⟨after.line + 10, 0⟩ ::
    (standardTokens after.line ++ nameTokens name after)).reverse

theorem ofTokens_allTokens (name : List Char) (after : Mark) :
    Document.ofTokens (allTokens name after) = ⟨standardRoot name after.line, .clean⟩ := by
  have hsettings {fuel line : Nat} {rest : List Token} :
      Node.read Shorthands.standard (fuel + 5) true true
        ⟨Token.empty .blockSequence ⟨line + 6, 2⟩ ::
          ((itemTokens firstSetting.toList ⟨line + 6, 2⟩ 2).reverse ++
          ((itemTokens secondSetting.toList ⟨line + 7, 2⟩ 0).reverse ++
          Token.empty .blockEnd ⟨line + 8, 0⟩ :: rest)), []⟩ =
        (.sequence (.bare ⟨line + 6, 2⟩)
          [itemNode firstSetting (line + 6), itemNode secondSetting (line + 7)], ⟨rest, []⟩) :=
    Node.read_blockSequence (Node.readItems_cons rfl Node.read_scalar
      (Node.readItems_cons rfl Node.read_scalar Node.readItems_nil))
  -- The fuel is a number once the tokens are counted.
  have hlength : (allTokens name after).length = 36 := rfl
  have hread : Node.read Shorthands.standard (4 * (allTokens name after).length + 8) true false
      ⟨allTokens name after, []⟩ =
      (standardRoot name after.line, ⟨[Token.empty .streamEnd ⟨after.line + 10, 0⟩], []⟩) := by
    rw [hlength]
    exact Node.read_blockMapping (Node.readEntries_cons rfl Node.read_scalar
      (Node.readEntries_cons rfl Node.read_scalar (Node.readEntries_cons rfl Node.read_scalar
      (Node.readEntries_cons rfl Node.read_scalar (Node.readEntries_cons rfl hsettings
      (Node.readEntries_cons rfl Node.read_scalar (Node.readEntries_cons rfl Node.read_scalar
        Node.readEntries_nil)))))))
  change Document.ofRoot Shorthands.standard (allTokens name after) = _
  exact Document.ofRoot_of_read hread

/-! ## The project -/

/-- A project that sets everything to the value that holds anyway. -/
def standard (name : String) : Project where
  name := name
  tablePrefix := some Options.standard.tablePrefix
  engine := some Options.standard.engine
  depth := some Options.standard.depth
  settings := some Options.standard.settings
  catalog := some Config.catalogFile
  output := some standardOutput

theorem options_standard (name : String) : (standard name).options = Options.standard := rfl

theorem bind_of_ok {α β : Type} {x : Except Fault α} {value : α} {f : α → Except Fault β}
    (h : x = .ok value) : (x >>= f) = f value := by
  rw [h]
  rfl

section Fields

variable {around mark : Mark} {anchors : Anchors} {path : Path} {expected : String}

theorem readText_scalar (head : NodeHead) (plain : Bool) (s : String) :
    readText expected anchors path (.scalar head plain s.toList) = .ok s :=
  congrArg Except.ok String.ofList_toList

/-- A plain text that is no name of null is there. -/
theorem readOptional_scalar {α : Type} {read : Anchors → Path → Node → Except Fault α} {value : α}
    {s : String} (hpresent : (s.toList.isEmpty || Scalar.isNullName s.toList) = false)
    (hread : read anchors path (.scalar (.bare mark) true s.toList) = .ok value) :
    readOptional read around anchors path (.scalar (.bare mark) true s.toList) = .ok (some value) := by
  simp only [readOptional, Node.aimed, NodeHead.bare] at hread ⊢
  rw [hpresent, hread]
  rfl

theorem readOptional_text {s : String}
    (hpresent : (s.toList.isEmpty || Scalar.isNullName s.toList) = false) :
    readOptional (readText expected) around anchors path (.scalar (.bare mark) true s.toList) =
      .ok (some s) :=
  readOptional_scalar hpresent (readText_scalar _ _ s)

/-- The name of a variant stands for it. -/
theorem readChoice_scalar {α : Type} (variant : α) {variants : List (String × α)} {s : String}
    (hvariant : variants.lookup s = some variant) :
    readChoice variants around anchors path (.scalar (.bare mark) true s.toList) = .ok variant := by
  have hchosen : variants.lookup (String.ofList s.toList) = some variant := by
    rwa [String.ofList_toList]
  simp only [readChoice, Node.aimed, NodeHead.bare, Option.bind_none, hchosen]

/-- A sequence of texts is there. -/
theorem readOptional_texts (head : NodeHead) (texts : List (NodeHead × String)) :
    readOptional (readSequence (readText expected)) around anchors path
        (.sequence head (texts.map fun (head, s) => .scalar head true s.toList)) =
      .ok (some (texts.map (·.2))) := by
  have heach (index : Nat) : readEach (readText expected) anchors path index
      (texts.map fun (head, s) => .scalar head true s.toList) = .ok (texts.map (·.2)) := by
    induction texts generalizing index with
    | nil => rfl
    | cons first rest ih =>
        refine (bind_of_ok (readText_scalar first.1 true first.2)).trans ?_
        exact bind_of_ok (ih (index + 1))
  exact congrArg (Functor.map some) (heach 0)

/-- An entry whose key names a field that was not given before sets it. -/
theorem readEntries_field (field : Field) {seen : List Field} {project project' : Project}
    {key : String} {head : NodeHead} {value : Node} {rest : List (Node × Node)}
    (hfield : Field.keys.lookup key = some field) (hnew : seen.contains field = false)
    (hvalue : readField around anchors [.entry key] value project field = .ok project') :
    readEntries around anchors seen project ((.scalar head true key.toList, value) :: rest) =
      readEntries around anchors (field :: seen) project' rest := by
  have hstep : Value.stepTo (.scalar head true key.toList) = .entry key :=
    congrArg Step.entry String.ofList_toList
  rw [readEntries, readText_scalar]
  simp only [hfield, hnew, hstep, hvalue, bind, Except.bind]
  rfl

end Fields

/-- A new project sets everything to the value that holds anyway. -/
theorem ofNode_standardRoot (name : List Char) (line : Nat) :
    ofNode (standardRoot name line) = .ok (standard (String.ofList name)) := by
  change readEntries Mark.origin (standardRoot name line).anchored [] blank
    ((.scalar (.bare Mark.origin) true "name".toList, .scalar (.bare ⟨0, 6⟩) false name) ::
      standardEntries line) = _
  refine (readEntries_field .name (by decide +kernel) rfl rfl).trans ?_
  refine (readEntries_field .tablePrefix (by decide +kernel) rfl
    (bind_of_ok (readOptional_text (by decide +kernel)))).trans ?_
  refine (readEntries_field .engine (by decide +kernel) rfl
    (bind_of_ok (readOptional_text (by decide +kernel)))).trans ?_
  refine (readEntries_field .depth (by decide +kernel) rfl
    (bind_of_ok (readOptional_scalar (by decide +kernel)
      (readChoice_scalar .flat (by decide +kernel))))).trans ?_
  refine (readEntries_field .settings (by decide +kernel) rfl
    (bind_of_ok (readOptional_texts _
      [(.bare ⟨line + 6, 4⟩, firstSetting), (.bare ⟨line + 7, 4⟩, secondSetting)]))).trans ?_
  refine (readEntries_field .catalog (by decide +kernel) rfl
    (bind_of_ok (readOptional_text (by decide +kernel)))).trans ?_
  refine (readEntries_field .output (by decide +kernel) rfl
    (bind_of_ok (readOptional_text (by decide +kernel)))).trans ?_
  rfl

/-! ## The file -/

/-- A name that the reader takes back: every character may stand in a text or is written by an
escape, and no mark between documents stands after the end of a line. -/
structure ReadsBack (name : String) : Prop where
  readable : ∀ c ∈ name.toList, isReadable c = true
  unmarked : ∀ before c after, name.toList = before ++ c :: after → endsLine c = true →
    opensMark after = false

theorem readsBack_iff {name : String} :
    ReadsBack name ↔ name.toList.all isReadable = true ∧ holdsMark false name.toList = false := by
  have hmark : holdsMark false name.toList = false ↔
      ∀ before c after, name.toList = before ++ c :: after → endsLine c = true →
        opensMark after = false := by
    rw [← Bool.not_eq_true, holdsMark_iff]
    simp
  rw [List.all_eq_true, hmark]
  exact ⟨fun h => ⟨h.readable, h.unmarked⟩, fun h => ⟨h.1, h.2⟩⟩

/-- A name of common characters comes back as it is. -/
theorem readsBack_of_isCommon {name : String} (hname : ∀ c ∈ name.toList, isCommon c = true) :
    ReadsBack name ∧ readBack name = name := by
  have hends : ∀ c ∈ name.toList, endsLine c = false := fun c hc =>
    (isReadable_of_isCommon (hname c hc)).2
  refine ⟨⟨fun c hc => (isReadable_of_isCommon (hname c hc)).1, ?_⟩, readBack_eq_self hends⟩
  intro before c after hsplit hc
  rw [hends c (by simp [hsplit])] at hc
  cases hc

/-- The text of a new project as the reader meets it. -/
def metText (name : String) : List Char :=
  "name".toList ++ ':' :: ' ' :: '"' :: closed name.toList ('\n' :: standardLines)

/-- The text may stand in a file exactly if the characters of the name can be read back. -/
theorem all_isLegible_render (name : String) :
    (render name).toList.all isLegible = name.toList.all isReadable := by
  have hname : (name.toList.flatMap nameChar).all isLegible = name.toList.all isReadable := by
    rw [List.all_flatMap]
    exact congrArg (List.all name.toList) (funext fun c => (spelling_nameChar c).all_isLegible)
  have hkey : "name".toList.all isLegible = true := by decide +kernel
  have hlines : ('"' :: '\n' :: standardLines).all isLegible = true := by decide +kernel
  rw [toList_render, List.all_append, hkey, List.all_cons, List.all_cons, List.all_cons,
    List.all_append, hname, hlines]
  simp [isLegible]

/-- The reader meets the text with the ends of lines unified. -/
theorem unifyBreaks_render (name : String) : unifyBreaks (render name).toList = metText name := by
  have hsplit : (render name).toList = "name: \"".toList ++
      (name.toList.flatMap nameChar ++ '"' :: '\n' :: standardLines) := by
    have hfront : "name: \"".toList = "name".toList ++ [':', ' ', '"'] := by decide +kernel
    rw [toList_render, hfront, List.append_assoc]
    rfl
  have hreturn : '\r' ∉ "name: \"".toList ∧ '\r' ∉ '"' :: '\n' :: standardLines := by
    decide +kernel
  have hname : '\r' ∉ name.toList.flatMap nameChar := by
    intro hmem
    obtain ⟨c, -, hc⟩ := List.mem_flatMap.mp hmem
    exact absurd ((spelling_nameChar c).le_toNat hc) (by decide)
  have hsame : "name: \"".toList.map unify = "name".toList ++ [':', ' ', '"'] ∧
      ('"' :: '\n' :: standardLines).map unify = '"' :: '\n' :: standardLines := by
    decide +kernel
  rw [hsplit, unifyBreaks_eq_map, List.map_append, List.map_append, hsame.1, hsame.2,
    List.map_flatMap, List.append_assoc]
  · rfl
  · rw [List.mem_append, List.mem_append, not_or, not_or]
    exact ⟨hreturn.1, hname, hreturn.2⟩

/-- The state in front of the name. -/
def beforeName (cs : List Char) : Lexer :=
  ⟨' ' :: '"' :: cs, ⟨0, 5⟩, 1, [0], false,
    ⟨keyTokens "name".toList Mark.origin ++ [Token.empty .blockMapping Mark.origin], none⟩, []⟩

theorem reads_beforeName (cs : List Char) :
    Reads (ofChars ("name".toList ++ ':' :: ' ' :: '"' :: cs)) (beforeName cs) := by
  have hname : Writer.IsPlain "name".toList := Writer.isPlain_of_allowsPlain (by decide +kernel)
  exact reads_firstKey Mark.origin
    (prepare?_inside (skipGap_isPlain hname) rfl (Nat.zero_le 1)) hname (by decide +kernel) rfl
    (Nat.zero_le 0)

theorem prepare?_beforeName (cs : List Char) :
    (beforeName cs).prepare? = some ⟨'"' :: cs, ⟨0, 6⟩, 1, [0], false,
      ⟨keyTokens "name".toList Mark.origin ++ [Token.empty .blockMapping Mark.origin], none⟩, []⟩ :=
  prepare?_inside ((skipGap_spaces 1).trans (skipGap_word (by decide) (by decide))) rfl
    (Nat.le_add_left 1 6)

/-- The text is cut into its tokens if no mark between documents breaks the name off. -/
theorem ofChars_metText {name : String} (hunmarked : holdsMark false name.toList = false) :
    ∃ after, Token.ofChars (metText name) = allTokens (foldName [] name.toList) after := by
  obtain ⟨after, hread⟩ :=
    quotedFrom_closed [] [] ('\n' :: standardLines) ⟨0, 7⟩ hunmarked
  have hquote : Reads (beforeName (closed name.toList ('\n' :: standardLines)))
      ⟨'\n' :: standardLines, after, 1, [0], false,
        ⟨nameTokens (foldName [] name.toList) after, none⟩, []⟩ := by
    refine .of_token (prepare?_beforeName _) rfl ?_ ?_
    · rw [token?_quote, Token.quoted?]
      exact congrArg (Option.map _) hread
    · simp [closed]
      omega
  exact ⟨after, ofChars_of_reads ((reads_beforeName _).trans (hquote.trans
    (reads_standardLines after.line after.column _)))⟩

/-- Otherwise nothing is cut off after the key. -/
theorem ofChars_metText_of_holdsMark {name : String} (hmark : holdsMark false name.toList = true) :
    Token.ofChars (metText name) =
      (keyTokens "name".toList Mark.origin ++ [Token.empty .blockMapping Mark.origin]).reverse := by
  have hread := quotedFrom_closed_of_holdsMark [] [] ('\n' :: standardLines) ⟨0, 7⟩ hmark
  refine ofChars_of_broken (reads_beforeName _) (prepare?_beforeName _) rfl ?_
  rw [token?_quote, Token.quoted?]
  exact congrArg (Option.map _) hread

/-- A name that the reader takes back gives a project. -/
theorem ofOctets_render {name : String} (hname : ReadsBack name) :
    ofOctets (octets (render name)) = .ok (standard (readBack name)) := by
  obtain ⟨hreadable, hunmarked⟩ := readsBack_iff.mp hname
  have hlegible : (render name).toList.all isLegible = true := by
    rw [all_isLegible_render, hreadable]
  obtain ⟨after, htokens⟩ := ofChars_metText hunmarked
  rw [ofOctets, Document.ofOctets_octets, Document.ofChars, if_pos hlegible, unifyBreaks_render,
    htokens, ofTokens_allTokens, Document.decode]
  simp only [ofNode_standardRoot, readBack]

/-- Any other name spoils the whole file. -/
theorem ofOctets_render_of_not {name : String} (hname : ¬ ReadsBack name) :
    ofOctets (octets (render name)) = .error .unreadable := by
  rw [ofOctets, Document.ofOctets_octets, Document.ofChars, all_isLegible_render]
  cases hreadable : name.toList.all isReadable with
  | false => rfl
  | true =>
      have hmark : holdsMark false name.toList = true := by
        by_contra hunmarked
        exact hname (readsBack_iff.mpr ⟨hreadable, by simpa using hunmarked⟩)
      rw [if_pos rfl, unifyBreaks_render, ofChars_metText_of_holdsMark hmark]
      decide +kernel

end TypeFixtures.Project
