import TypeFixtures.Proofs.Catalog.Shapes
import TypeFixtures.Proofs.Yaml.Blocks
import TypeFixtures.Proofs.Yaml.Written
import TypeFixtures.Scaffold

/-!
# Catalogs, written and read

A catalog of texts of ASCII is written with one item for each descriptor, and is read back as it, in
order, with every descriptor in its shape and every text as it was.

* `Descriptor.readsTo_afterDash` — one item gives its tokens, whatever comes behind it;
* `Catalog.readsTo_itemsText` — and so do all of them, one after the other;
* `Catalog.load_render` — the catalog that is read.
-/

namespace TypeFixtures

open Yaml Lexer

/-! ## One item -/

namespace Descriptor

/-- A descriptor whose texts are of ASCII. -/
def IsAscii (d : Descriptor) : Prop :=
  ∀ c ∈ d.ident.toList ++ d.sqlType.toList, isAscii c = true

instance (d : Descriptor) : Decidable d.IsAscii :=
  decidable_of_iff ((d.ident.toList ++ d.sqlType.toList).all isAscii = true) List.all_eq_true

theorem IsAscii.ident {d : Descriptor} (h : d.IsAscii) : ∀ c ∈ d.ident.toList, isAscii c = true :=
  fun c hc => h c (List.mem_append_left _ hc)

theorem IsAscii.sqlType {d : Descriptor} (h : d.IsAscii) :
    ∀ c ∈ d.sqlType.toList, isAscii c = true :=
  fun c hc => h c (List.mem_append_right _ hc)

/-- The text of an item after its dash, up to what comes after it. -/
def afterDash (tail : List Char) : Descriptor → List Char
  | bare name => ' ' :: (Writer.written name.toList ++ '\n' :: tail)
  | named table sqlType =>
      ' ' :: ("table".toList ++ ':' :: ' ' :: (Writer.written table.toList ++ '\n' ::
        (List.replicate 2 ' ' ++ ("type".toList ++ ':' :: ' ' ::
          (Writer.written sqlType.toList ++ '\n' :: tail)))))

theorem item_append {d : Descriptor} (h : d.IsAscii) (tail : List Char) :
    d.item ++ tail = '-' :: d.afterDash tail := by
  cases d with
  | bare name =>
      have hname : ∀ c ∈ name.toList, isAscii c = true := h.ident
      have hdash : "- ".toList = ['-', ' '] := by decide +kernel
      change "- ".toList ++ Writer.scalar 2 name.toList ++ tail = _
      rw [Writer.scalar_eq 2 hname, hdash, afterDash]
      simp
  | named table sqlType =>
      have htable : ∀ c ∈ table.toList, isAscii c = true := h.ident
      have htype : ∀ c ∈ sqlType.toList, isAscii c = true := h.sqlType
      have hfirst : "- table: ".toList = '-' :: ' ' :: ("table".toList ++ [':', ' ']) := by
        decide +kernel
      have hsecond : "  type: ".toList =
          List.replicate 2 ' ' ++ ("type".toList ++ [':', ' ']) := by
        decide +kernel
      change "- table: ".toList ++ Writer.scalar 4 table.toList ++ "  type: ".toList ++
        Writer.scalar 4 sqlType.toList ++ tail = _
      rw [Writer.scalar_eq 4 htable, Writer.scalar_eq 4 htype, hfirst, hsecond, afterDash]
      simp only [List.append_assoc, List.cons_append, List.nil_append]

/-- The number of lines of an item. -/
def lines : Descriptor → Nat
  | bare _ => 1
  | named _ _ => 2

/-- The tokens of an item whose dash starts a line, latest first. -/
def tokens (line : Nat) : Descriptor → List Token
  | bare name => [writtenToken name.toList ⟨line, 2⟩ 0, ⟨.blockEntry, ⟨line, 0⟩, ⟨line, 1⟩⟩]
  | named table sqlType =>
      Token.empty .blockEnd ⟨line + 2, 0⟩ :: writtenToken sqlType.toList ⟨line + 1, 8⟩ 0 ::
        (keyTokens "type".toList ⟨line + 1, 2⟩ ++ writtenToken table.toList ⟨line, 9⟩ 2 ::
          (keyTokens "table".toList ⟨line, 2⟩ ++
            [Token.empty .blockMapping ⟨line, 2⟩, ⟨.blockEntry, ⟨line, 0⟩, ⟨line, 1⟩⟩]))

/-- An item is cut into its tokens. -/
theorem readsTo_afterDash {d : Descriptor} (h : d.IsAscii) (line : Nat) (before : List Token)
    {tail : List Char} (hword : StartsWord tail) :
    ReadsTo
      ⟨d.afterDash tail, ⟨line, 1⟩, 1, [0], true,
        ⟨⟨.blockEntry, ⟨line, 0⟩, ⟨line, 1⟩⟩ :: before, none⟩, []⟩
      ⟨tail, ⟨line + d.lines, 0⟩, 1, [0], true, ⟨d.tokens line ++ before, none⟩, []⟩ := by
  cases d with
  | bare name =>
      have hname : ∀ c ∈ name.toList, isAscii c = true := h.ident
      change ReadsTo (beforeWritten name.toList tail ⟨line, 1⟩ 1 [0] true
        (⟨.blockEntry, ⟨line, 0⟩, ⟨line, 1⟩⟩ :: before) 0) _
      exact readsTo_sameBlock hname (Nat.le_add_left 1 1) rfl (by simp) hword
  | named table sqlType =>
      have htable : ∀ c ∈ table.toList, isAscii c = true := h.ident
      have htype : ∀ c ∈ sqlType.toList, isAscii c = true := h.sqlType
      have hkey : Writer.IsPlain "table".toList := Writer.isPlain_of_allowsPlain (by decide +kernel)
      have hkey' : Writer.IsPlain "type".toList := Writer.isPlain_of_allowsPlain (by decide +kernel)
      -- The first key opens a block for the two entries, and what comes after them closes it.
      have hfirst : Reads
          ⟨' ' :: ("table".toList ++ ':' :: ' ' :: (Writer.written table.toList ++ '\n' ::
            (List.replicate 2 ' ' ++ ("type".toList ++ ':' :: ' ' ::
              (Writer.written sqlType.toList ++ '\n' :: tail))))), ⟨line, 1⟩, 1, [0], true,
            ⟨⟨.blockEntry, ⟨line, 0⟩, ⟨line, 1⟩⟩ :: before, none⟩, []⟩
          (beforeWritten table.toList ("type".toList ++ ':' :: ' ' ::
              (Writer.written sqlType.toList ++ '\n' :: tail)) ⟨line, 8⟩ 3 [1, 0] false
            (keyTokens "table".toList ⟨line, 2⟩ ++ Token.empty .blockMapping ⟨line, 2⟩ ::
              ⟨.blockEntry, ⟨line, 0⟩, ⟨line, 1⟩⟩ :: before) 2) :=
        reads_firstKey ⟨line, 2⟩
          (prepare?_inside ((skipGap_spaces 1).trans (skipGap_isPlain hkey)) rfl
            (Nat.le_add_left 1 2)) hkey (by decide +kernel) rfl (Nat.le_succ 1)
      refine hfirst.readsTo ((readsTo_sameBlock htable (Nat.le_add_left 3 6) rfl (by simp)
        (startsWord_of_isPlain hkey' _)).trans fun between hprepare => ?_)
      have hsecond : Reads between
          (beforeWritten sqlType.toList tail ⟨line + 1, 7⟩ 3 [1, 0] false
            (keyTokens "type".toList ⟨line + 1, 2⟩ ++ writtenToken table.toList ⟨line, 9⟩ 2 ::
              (keyTokens "table".toList ⟨line, 2⟩ ++ Token.empty .blockMapping ⟨line, 2⟩ ::
                ⟨.blockEntry, ⟨line, 0⟩, ⟨line, 1⟩⟩ :: before)) 0) :=
        reads_key ⟨line + 1, 2⟩ hprepare hkey' (by decide +kernel) rfl
      exact hsecond.readsTo (readsTo_outerBlock htype (Nat.le_add_left 3 5) (by decide)
        (Nat.le_refl 1) (by simp) hword)

end Descriptor

/-! ## All items -/

namespace Catalog

/-- The items of a catalog. -/
def itemsText (catalog : Catalog) : List Char :=
  catalog.flatMap Descriptor.item

/-- The line after the items that start on a line. -/
def lineAfter (line : Nat) : Catalog → Nat
  | [] => line
  | d :: rest => lineAfter (line + d.lines) rest

/-- The tokens of the items that start on a line, latest first. -/
def tokens (line : Nat) : Catalog → List Token
  | [] => []
  | d :: rest => tokens (line + d.lines) rest ++ d.tokens line

theorem itemsText_cons {d : Descriptor} (h : d.IsAscii) (rest : Catalog) :
    itemsText (d :: rest) = '-' :: d.afterDash (itemsText rest) :=
  Descriptor.item_append h (itemsText rest)

theorem startsWord_itemsText {catalog : Catalog} (h : ∀ d ∈ catalog, d.IsAscii) :
    StartsWord (itemsText catalog) := by
  cases catalog with
  | nil => exact ⟨rfl, by simp [itemsText]⟩
  | cons d rest =>
      rw [itemsText_cons (h d List.mem_cons_self)]
      exact ⟨rfl, by simp⟩

theorem endsWord_afterDash (d : Descriptor) (tail : List Char) :
    endsWord (d.afterDash tail) = true := by
  cases d <;> rfl

/-- The items are cut into their tokens, each where the one before it ends. -/
theorem readsTo_itemsText {catalog : Catalog} (h : ∀ d ∈ catalog, d.IsAscii) {lexer : Lexer}
    {line : Nat} {before : List Token}
    (hprepare : lexer.prepare? =
      some ⟨itemsText catalog, ⟨line, 0⟩, 1, [0], true, ⟨before, none⟩, []⟩) :
    ReadsTo lexer ⟨[], ⟨lineAfter line catalog, 0⟩, 1, [0], true,
      ⟨tokens line catalog ++ before, none⟩, []⟩ := by
  induction catalog generalizing lexer line before with
  | nil => exact .of_prepare? hprepare
  | cons d rest ih =>
      have hd := h d List.mem_cons_self
      have hrest := fun other hother => h other (List.mem_cons_of_mem d hother)
      rw [itemsText_cons hd] at hprepare
      have hdash := reads_dash hprepare (endsWord_afterDash d _)
      refine hdash.readsTo ((Descriptor.readsTo_afterDash hd line before
        (startsWord_itemsText hrest)).trans fun between hbetween => ?_)
      rw [tokens, List.append_assoc]
      exact ih hrest hbetween

/-- The tokens of a catalog whose first item starts on a line. -/
theorem ofChars_of_itemsText {catalog : Catalog} (h : ∀ d ∈ catalog, d.IsAscii)
    (hne : catalog ≠ []) {cs : List Char} {line : Nat}
    (hprepare : (Lexer.ofChars cs).prepare? =
      some ⟨itemsText catalog, ⟨line, 0⟩, 0, [], true, Level.empty, []⟩) :
    Token.ofChars cs =
      Token.empty .blockSequence ⟨line, 0⟩ :: ((tokens line catalog).reverse ++
        [Token.empty .blockEnd ⟨lineAfter line catalog, 0⟩,
          Token.empty .streamEnd ⟨lineAfter line catalog, 0⟩]) := by
  obtain ⟨d, rest, rfl⟩ := List.exists_cons_of_ne_nil hne
  have hd := h d List.mem_cons_self
  have hrest := fun other hother => h other (List.mem_cons_of_mem d hother)
  rw [itemsText_cons hd] at hprepare
  have hdash := reads_firstDash hprepare (endsWord_afterDash d _) (Nat.le_refl 0)
  obtain ⟨later, hreads, hlast⟩ := hdash.readsTo ((Descriptor.readsTo_afterDash hd line _
    (startsWord_itemsText hrest)).trans fun between hbetween => readsTo_itemsText hrest hbetween)
  have hall : Token.ofChars cs =
      (Token.empty .streamEnd ⟨lineAfter line (d :: rest), 0⟩ ::
        Token.empty .blockEnd ⟨lineAfter line (d :: rest), 0⟩ ::
        (tokens (line + d.lines) rest ++
          (d.tokens line ++ [Token.empty .blockSequence ⟨line, 0⟩]))).reverse :=
    (ofChars_of_finish? hreads hlast rfl rfl).trans (congrArg List.reverse (List.append_nil _))
  rw [hall]
  simp [tokens]

/-! ## The document -/

end Catalog

namespace Descriptor

/-- The node of an item whose dash starts a line. -/
def node (line : Nat) : Descriptor → Node
  | bare name => .scalar (.bare ⟨line, 2⟩) (Writer.staysPlain name.toList) name.toList
  | named table sqlType =>
      .mapping (.bare ⟨line, 2⟩)
        [(.scalar (.bare ⟨line, 2⟩) true "table".toList,
            .scalar (.bare ⟨line, 9⟩) (Writer.staysPlain table.toList) table.toList),
          (.scalar (.bare ⟨line + 1, 2⟩) true "type".toList,
            .scalar (.bare ⟨line + 1, 8⟩) (Writer.staysPlain sqlType.toList) sqlType.toList)]

/-- The tokens of an item are read as its node. -/
theorem readItems_tokens {d : Descriptor} {line fuel : Nat} {items : List Node} {rest : List Token}
    {reading : Reading}
    (hrest : Node.readItems Shorthands.standard (fuel + 5) false ⟨rest, []⟩ = (items, reading)) :
    Node.readItems Shorthands.standard (fuel + 6) false ⟨(d.tokens line).reverse ++ rest, []⟩ =
      (d.node line :: items, reading) := by
  cases d with
  | bare name => exact Node.readItems_cons rfl Node.read_scalar hrest
  | named table sqlType =>
      exact Node.readItems_cons rfl (Node.read_blockMapping
        (Node.readEntries_cons rfl Node.read_scalar (Node.readEntries_cons rfl Node.read_scalar
          Node.readEntries_nil))) hrest

end Descriptor

namespace Catalog

/-- The nodes of the items that start on a line. -/
def nodes (line : Nat) : Catalog → List Node
  | [] => []
  | d :: rest => d.node line :: nodes (line + d.lines) rest

/-- The tokens of a catalog are read as its nodes. -/
theorem readItems_tokens (catalog : Catalog) (line fuel : Nat) (rest : List Token)
    (start finish : Mark) :
    Node.readItems Shorthands.standard (fuel + catalog.length + 5) false
        ⟨(tokens line catalog).reverse ++ ⟨.blockEnd, start, finish⟩ :: rest, []⟩ =
      (nodes line catalog, ⟨rest, []⟩) := by
  induction catalog generalizing line with
  | nil => exact Node.readItems_nil
  | cons d others ih =>
      rw [tokens, List.reverse_append, List.append_assoc]
      exact Descriptor.readItems_tokens (ih (line + d.lines))

theorem length_le_tokens (catalog : Catalog) (line : Nat) :
    catalog.length ≤ (tokens line catalog).length := by
  induction catalog generalizing line with
  | nil => exact Nat.le_refl 0
  | cons d rest ih =>
      have hd : 1 ≤ (d.tokens line).length := by
        cases d <;> simp [Descriptor.tokens]
      have hrest := ih (line + d.lines)
      rw [tokens, List.length_append, List.length_cons]
      omega

/-- The document of a catalog whose first item starts on a line. -/
theorem ofChars_document {catalog : Catalog} (h : ∀ d ∈ catalog, d.IsAscii) (hne : catalog ≠ [])
    {cs : List Char} {line : Nat}
    (hprepare : (Lexer.ofChars cs).prepare? =
      some ⟨itemsText catalog, ⟨line, 0⟩, 0, [], true, Level.empty, []⟩) :
    Document.ofTokens (Token.ofChars cs) =
      ⟨.sequence (.bare ⟨line, 0⟩) (nodes line catalog), .clean⟩ := by
  let closing : List Token := [Token.empty .blockEnd ⟨lineAfter line catalog, 0⟩,
    Token.empty .streamEnd ⟨lineAfter line catalog, 0⟩]
  let all := Token.empty .blockSequence ⟨line, 0⟩ :: ((tokens line catalog).reverse ++ closing)
  -- There are at least as many tokens as items, so the fuel suffices.
  obtain ⟨fuel, hfuel⟩ : ∃ fuel, 4 * all.length + 8 = fuel + catalog.length + 5 + 1 := by
    have hlength := length_le_tokens catalog line
    refine ⟨4 * all.length + 2 - catalog.length, ?_⟩
    simp only [all, List.length_cons, List.length_append, List.length_reverse]
    omega
  have hread : Node.read Shorthands.standard (4 * all.length + 8) true false ⟨all, []⟩ =
      (.sequence (.bare ⟨line, 0⟩) (nodes line catalog),
        ⟨[Token.empty .streamEnd ⟨lineAfter line catalog, 0⟩], []⟩) := by
    rw [hfuel]
    exact Node.read_blockSequence (readItems_tokens catalog line fuel _ _ _)
  rw [ofChars_of_itemsText h hne hprepare]
  change Document.ofRoot Shorthands.standard all = _
  exact Document.ofRoot_of_read hread

/-! ## The catalog -/

end Catalog

namespace Descriptor

/-- The value of an item. -/
def value : Descriptor → Value
  | bare name => .scalar (.text name.toList)
  | named table sqlType =>
      .mapping [(.scalar (.text "table".toList), .scalar (.text table.toList)),
        (.scalar (.text "type".toList), .scalar (.text sqlType.toList))]

theorem ofValue?_value (d : Descriptor) : ofValue? d.value = some d := by
  cases d with
  | bare name => exact congrArg (some ∘ bare) String.ofList_toList
  | named table sqlType =>
      have htexts : ofValue? (named table sqlType).value =
          some (.named (String.ofList table.toList) (String.ofList sqlType.toList)) := by
        rfl
      rw [htexts, String.ofList_toList, String.ofList_toList]

/-- A scalar without properties is read as the text that it stands for. -/
theorem read_text {mark : Mark} {plain : Bool} {cs : List Char} (anchors : Anchors)
    (depth jumps : Nat) (path : Path) (h : Scalar.resolve none plain cs = .ok (.text cs)) :
    Value.read anchors depth path (.scalar (.bare mark) plain cs) jumps =
      .ok (.scalar (.text cs), jumps) := by
  have hscalar : Value.ofScalar path (.bare mark) plain cs = .ok (.scalar (.text cs)) := by
    simp only [Value.ofScalar, NodeHead.bare, h]
  cases depth <;>
    simp only [Value.read, Value.follow, bind, Except.bind, hscalar] <;> rfl

/-- The node of an item is read as its value. -/
theorem read_node (d : Descriptor) (anchors : Anchors) (depth line jumps : Nat) (path : Path) :
    Value.read anchors (depth + 1) path (d.node line) jumps = .ok (d.value, jumps) := by
  cases d with
  | bare name => exact read_text _ _ _ _ (Scalar.resolve_staysPlain _)
  | named table sqlType =>
      have hkey : Scalar.resolve none true "table".toList = .ok (.text "table".toList) := by
        decide +kernel
      have hkey' : Scalar.resolve none true "type".toList = .ok (.text "type".toList) := by
        decide +kernel
      have hentries : Value.readEntries (Value.read anchors depth) path
          [(.scalar (.bare ⟨line, 2⟩) true "table".toList,
              .scalar (.bare ⟨line, 9⟩) (Writer.staysPlain table.toList) table.toList),
            (.scalar (.bare ⟨line + 1, 2⟩) true "type".toList,
              .scalar (.bare ⟨line + 1, 8⟩) (Writer.staysPlain sqlType.toList) sqlType.toList)]
          jumps =
          .ok ([(.scalar (.text "table".toList), .scalar (.text table.toList)),
            (.scalar (.text "type".toList), .scalar (.text sqlType.toList))], jumps) := by
        simp only [Value.readEntries, read_text _ _ _ _ hkey, read_text _ _ _ _ hkey',
          read_text _ _ _ _ (Scalar.resolve_staysPlain _), bind, Except.bind]
        rfl
      simp only [node, Value.read, Value.follow, bind, Except.bind, hentries]
      rfl

end Descriptor

namespace Catalog

/-- The nodes of a catalog are read as it. -/
theorem readItems_nodes (catalog : Catalog) (anchors : Anchors) (mark : Mark)
    (line index jumps : Nat) :
    readItems anchors mark index (nodes line catalog) jumps = .ok catalog := by
  induction catalog generalizing line index with
  | nil => rfl
  | cons d rest ih =>
      have hread : Value.read anchors (Value.depthLimit - 1) [.item index] (d.node line) jumps =
          .ok (d.value, jumps) := d.read_node anchors 126 line jumps _
      simp only [nodes, readItems, hread, bind, Except.bind, d.ofValue?_value, ih]
      rfl

theorem isAscii_of_mem_item {d : Descriptor} (h : d.IsAscii) :
    ∀ c ∈ d.item, c = '\n' ∨ isAscii c = true := by
  have hline {cs : List Char} (hcs : ∀ c ∈ cs, isAscii c = true) (indent : Nat) :
      ∀ c ∈ Writer.scalar indent cs, c = '\n' ∨ isAscii c = true := by
    intro c hc
    rw [Writer.scalar_eq indent hcs] at hc
    obtain hc | hc := List.mem_append.mp hc
    · exact Or.inr (Writer.isAscii_of_mem_written hcs c hc)
    · exact Or.inl (List.mem_singleton.mp hc)
  have hmark {cs : List Char} (hcs : cs.all isAscii = true) :
      ∀ c ∈ cs, c = '\n' ∨ isAscii c = true :=
    fun c hc => Or.inr (List.all_eq_true.mp hcs c hc)
  have hdash : "- ".toList.all isAscii = true := by decide +kernel
  have hfirst : "- table: ".toList.all isAscii = true := by decide +kernel
  have hsecond : "  type: ".toList.all isAscii = true := by decide +kernel
  cases d with
  | bare name =>
      exact List.forall_mem_append.mpr ⟨hmark hdash, hline h.ident 2⟩
  | named table sqlType =>
      have htable := List.forall_mem_append.mpr ⟨hmark hfirst, hline h.ident 4⟩
      have hkey := List.forall_mem_append.mpr ⟨htable, hmark hsecond⟩
      exact List.forall_mem_append.mpr ⟨hkey, hline h.sqlType 4⟩

/-- What may stand in front of a catalog: nothing, or the comment of a new one. -/
def IsFront (front : String) : Prop :=
  front = "" ∨ front = Scaffold.catalogHeader

theorem isAscii_of_mem_front {front : String} (hfront : IsFront front) :
    ∀ c ∈ front.toList, c = '\n' ∨ isAscii c = true := by
  obtain rfl | rfl := hfront
  · exact fun c hc => absurd hc List.not_mem_nil
  · have hall : Scaffold.catalogHeader.toList.all
        (fun c => decide (c = '\n') || isAscii c) = true := by
      decide +kernel
    intro c hc
    simpa using List.all_eq_true.mp hall c hc

/-- What stands in front of a catalog leads to its first item. -/
theorem prepare?_front {front : String} (hfront : IsFront front) (rest : List Char) :
    ∃ line, (Lexer.ofChars (front.toList ++ '-' :: rest)).prepare? =
      some ⟨'-' :: rest, ⟨line, 0⟩, 0, [], true, Level.empty, []⟩ := by
  have hword (mark : Mark) : skipGap false true false mark ('-' :: rest) =
      ⟨true, mark, '-' :: rest⟩ := skipGap_word (by decide) (by decide)
  obtain rfl | rfl := hfront
  · exact ⟨0, prepare?_inside (hword Mark.origin) rfl (Nat.zero_le 1)⟩
  · have hheader : Scaffold.catalogHeader.toList =
        '#' :: (Scaffold.catalogHeader.toList.tail.dropLast ++ ['\n']) := by
      decide +kernel
    have hcomment : Scaffold.catalogHeader.toList.tail.dropLast.any isBreak = false := by
      decide +kernel
    have hskip : skipGap false true false Mark.origin
        ('#' :: (Scaffold.catalogHeader.toList.tail.dropLast ++ '\n' :: '-' :: rest)) =
          ⟨true, ⟨1, 0⟩, '-' :: rest⟩ :=
      (skipGap_commentLine hcomment).trans (hword ⟨1, 0⟩)
    rw [hheader, List.cons_append, List.append_assoc]
    exact ⟨1, prepare?_inside hskip rfl (Nat.zero_le 1)⟩

/-- A catalog of ASCII is read back from its text. -/
theorem ofOctets_render {catalog : Catalog} (h : ∀ d ∈ catalog, d.IsAscii) {front : String}
    (hfront : IsFront front) : ofOctets (octets (front ++ catalog.render)) = .ok catalog := by
  by_cases hne : catalog = []
  · subst hne
    rw [ofOctets, Document.ofOctets_octets, render_nil]
    obtain rfl | rfl := hfront <;> decide +kernel
  · have htext : (front ++ catalog.render).toList = front.toList ++ itemsText catalog := by
      rw [String.toList_append, render, if_neg (by simpa using hne), String.toList_ofList,
        itemsText]
    have hascii : ∀ c ∈ front.toList ++ itemsText catalog, c = '\n' ∨ isAscii c = true := by
      rw [List.forall_mem_append]
      constructor
      · exact isAscii_of_mem_front hfront
      · intro c hc
        obtain ⟨d, hd, hc⟩ := List.mem_flatMap.mp hc
        exact isAscii_of_mem_item (h d hd) c hc
    obtain ⟨d, rest, rfl⟩ := List.exists_cons_of_ne_nil hne
    have hitems := itemsText_cons (h d List.mem_cons_self) rest
    obtain ⟨line, hprepare⟩ := prepare?_front hfront (d.afterDash (itemsText rest))
    rw [← hitems] at hprepare
    have hlegible : (front.toList ++ itemsText (d :: rest)).all isLegible = true :=
      List.all_eq_true.mpr fun c hc => isLegible_of_line (hascii c hc)
    have hdocument : Document.ofOctets (octets (front ++ render (d :: rest))) =
        ⟨.sequence (.bare ⟨line, 0⟩) (nodes line (d :: rest)), .clean⟩ := by
      rw [Document.ofOctets_octets, htext, Document.ofChars, if_pos hlegible,
        unifyBreaks_eq_self hascii, ofChars_document h hne hprepare]
    exact ofOctets_of_clean hdocument (readItems_nodes _ _ _ _ _ _)

/-- A file with the text of a catalog of ASCII holds that catalog, also below the comment of a new
one. -/
theorem load_render {tree : FileTree} {path front : String} {catalog : Catalog}
    (hascii : ∀ d ∈ catalog, d.IsAscii) (hfront : front = "" ∨ front = Scaffold.catalogHeader)
    (hfile : tree.read path = .content (octets (front ++ catalog.render))) :
    (Config.loadCatalog FileTree.system path).run.run tree = (.ok catalog, tree) :=
  Config.loadCatalog_of_read hfile (ofOctets_render hascii hfront)

/-- Texts that would stand for something else without quotes, or that would not be one text. -/
def quotedTexts : Catalog :=
  [.bare "~", .named "true" "012", .named "1e5" "", .bare " a ", .named "- x" "a: b",
    .bare "IPv4 # 4 octets", .named "it's" "\"[|\\", .bare "---", .bare "UInt8"]

theorem load_render_quotedTexts :
    let bytes := octets (Scaffold.catalogHeader ++ quotedTexts.render)
    let tree := ((FileTree.fresh "work").write "types.yml" bytes).2
    ((∀ d ∈ quotedTexts, d.IsAscii) ∧ tree.read "types.yml" = .content bytes) ∧
      (Config.loadCatalog FileTree.system "types.yml").run.run tree = (.ok quotedTexts, tree) := by
  intro bytes tree
  have hascii : ∀ d ∈ quotedTexts, d.IsAscii := by decide +kernel
  have hfile : tree.read "types.yml" = .content bytes := by decide +kernel
  exact ⟨⟨hascii, hfile⟩, load_render hascii (Or.inr rfl) hfile⟩

end Catalog

end TypeFixtures
