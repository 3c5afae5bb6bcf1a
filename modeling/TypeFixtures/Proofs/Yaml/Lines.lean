import Mathlib.Data.List.Basic
import TypeFixtures.Proofs.Yaml.Plain

/-!
# Cutting a text line by line

Outside of brackets a text is cut from one line start to the next: an entry gives the tokens of its
key and its value, an item those after its dash, and a comment none.  What a line gives does not
depend on what comes after it, so the tokens of a whole text are put together from those of its
lines.
-/

namespace TypeFixtures.Yaml

namespace Lexer

variable {lexer between later next last : Lexer} {c : Char} {cs key value stop tail : List Char}
  {mark after : Mark} {margin : Nat} {margins : List Nat} {allowed : Bool} {level : Level}
  {tokens : List Token}

/-! ## Several tokens -/

/-- A text is cut up to a later place, and what is left gives the same tokens from there. -/
def Reads (lexer later : Lexer) : Prop :=
  ∃ steps, later.rest.length + steps ≤ lexer.rest.length ∧
    ∀ n, lexer.run (n + steps) = later.run n

theorem Reads.trans (h : Reads lexer between) (h' : Reads between later) : Reads lexer later := by
  obtain ⟨steps, hlength, hrun⟩ := h
  obtain ⟨more, hmore, hrun'⟩ := h'
  refine ⟨more + steps, by omega, fun n => ?_⟩
  rw [← Nat.add_assoc, hrun, hrun']

theorem skipGap_length_le (flow allowed comment : Bool) (mark : Mark) (cs : List Char) :
    (skipGap flow allowed comment mark cs).rest.length ≤ cs.length := by
  induction cs generalizing allowed comment mark with
  | nil => exact Nat.le_refl 0
  | cons c rest ih =>
      rw [skipGap]
      split_ifs
      · exact Nat.le_succ_of_le (ih _ _ _)
      · exact Nat.le_succ_of_le (ih _ _ _)
      · exact Nat.le_succ_of_le (ih _ _ _)
      · exact Nat.le_refl _

theorem rest_of_expire? (h : lexer.expire? = some next) : next.rest = lexer.rest := by
  unfold expire? at h
  cases houter : lexer.outer.mapM (·.expire? lexer.mark) with
  | none =>
      rw [houter] at h
      cases h
  | some outer =>
      cases hlevel : lexer.level.expire? lexer.mark with
      | none =>
          rw [houter, hlevel] at h
          cases h
      | some level =>
          rw [houter, hlevel] at h
          cases h
          rfl

theorem rest_unroll (lexer : Lexer) (limit : Nat) : (lexer.unroll limit).rest = lexer.rest := by
  unfold unroll
  split <;> rfl

/-- To make ready for a token takes gaps only. -/
theorem length_le_of_prepare? (h : lexer.prepare? = some next) :
    next.rest.length ≤ lexer.rest.length := by
  unfold prepare? at h
  cases hexpire : lexer.advance.expire? with
  | none =>
      rw [hexpire] at h
      cases h
  | some ready =>
      rw [hexpire] at h
      cases h
      rw [rest_unroll, rest_of_expire? hexpire]
      exact skipGap_length_le _ _ _ _ _

/-- One token that takes a character. -/
theorem Reads.of_token (hprepare : lexer.prepare? = some next) (hrest : next.rest = c :: cs)
    (htoken : next.token? c cs = some later) (hshorter : later.rest.length < next.rest.length) :
    Reads lexer later := by
  refine ⟨1, Nat.le_trans hshorter (length_le_of_prepare? hprepare), fun n => ?_⟩
  rw [run, hprepare]
  simp only [hrest, htoken]

theorem length_ofChars_le (cs : List Char) : (ofChars cs).rest.length ≤ cs.length := by
  unfold ofChars
  split
  · exact Nat.le_succ _
  · exact Nat.le_refl _

/-- The tokens of a text that is cut to its end. -/
theorem ofChars_of_finish? (hreads : Reads (ofChars cs) later) (hprepare : later.prepare? = some next)
    (hrest : next.rest = []) (hfinish : next.finish? = some last) : Token.ofChars cs = last.all := by
  obtain ⟨steps, hlength, hrun⟩ := hreads
  obtain ⟨n, hn⟩ := Nat.exists_eq_add_of_le (Nat.le_trans hlength (length_ofChars_le cs))
  have hfuel : cs.length + 1 = later.rest.length + n + 1 + steps := by omega
  rw [Token.ofChars, hfuel, hrun, run, hprepare]
  simp only [hrest, hfinish]

/-- The tokens of a text that breaks off. -/
theorem ofChars_of_broken (hreads : Reads (ofChars cs) later) (hprepare : later.prepare? = some next)
    (hrest : next.rest = c :: tail) (htoken : next.token? c tail = none) :
    Token.ofChars cs = later.ready := by
  obtain ⟨steps, hlength, hrun⟩ := hreads
  obtain ⟨n, hn⟩ := Nat.exists_eq_add_of_le (Nat.le_trans hlength (length_ofChars_le cs))
  have hfuel : cs.length + 1 = later.rest.length + n + 1 + steps := by omega
  rw [Token.ofChars, hfuel, hrun, run, hprepare]
  simp only [hrest, htoken]

/-! ## Before a token -/

/-- What comes next outside of brackets, once gaps are skipped, keys given up and blocks closed. -/
theorem prepare?_eq (rest : List Char) (mark : Mark) (margin : Nat) (margins : List Nat)
    (allowed : Bool) (level : Level) :
    prepare? ⟨rest, mark, margin, margins, allowed, level, []⟩ =
      let gap := skipGap false allowed false mark rest
      (level.expire? gap.mark).map fun level =>
        let (margin, margins, level) :=
          closeBlocks (gap.mark.column + 1) gap.mark margin level margins
        ⟨gap.rest, gap.mark, margin, margins, gap.value, level, []⟩ := by
  simp only [prepare?, expire?, unroll, advance, flow, List.isEmpty_nil, Bool.not_true]
  cases level.expire? (skipGap false allowed false mark rest).mark <;> rfl

theorem closeBlocks_of_le {limit : Nat} (h : margin ≤ limit) :
    closeBlocks limit mark margin level margins = (margin, margins, level) := by
  cases margins with
  | nil => rfl
  | cons outer more => rw [closeBlocks, if_neg (Nat.not_lt.mpr h)]

/-- A word that is indented as far as its block goes on with it. -/
theorem prepare?_inside {gap : Scanned Bool} {level' : Level}
    (hgap : skipGap false allowed false mark cs = gap)
    (hlevel : level.expire? gap.mark = some level') (hmargin : margin ≤ gap.mark.column + 1) :
    prepare? ⟨cs, mark, margin, margins, allowed, level, []⟩ =
      some ⟨gap.rest, gap.mark, margin, margins, gap.value, level', []⟩ := by
  rw [prepare?_eq, hgap]
  simp only [hlevel, Option.map_some, closeBlocks_of_le hmargin]

/-- A word that is indented less closes the innermost block. -/
theorem prepare?_closing {gap : Scanned Bool} {level' : Level} {outer : Nat}
    (hgap : skipGap false allowed false mark cs = gap)
    (hlevel : level.expire? gap.mark = some level') (hmargin : gap.mark.column + 1 < margin)
    (houter : outer ≤ gap.mark.column + 1) :
    prepare? ⟨cs, mark, margin, outer :: margins, allowed, level, []⟩ =
      some ⟨gap.rest, gap.mark, outer, margins, gap.value,
        level'.push (Token.empty .blockEnd gap.mark), []⟩ := by
  rw [prepare?_eq, hgap]
  simp only [hlevel, Option.map_some, closeBlocks, if_pos hmargin, closeBlocks_of_le houter]

/-! ## Gaps -/

theorem skipGap_word (hgap : isGap c = false) (hhash : c ≠ '#') :
    skipGap false allowed false mark (c :: cs) = ⟨allowed, mark, c :: cs⟩ := by
  rw [isGap, isPad, Bool.or_eq_false_iff, Bool.or_eq_false_iff] at hgap
  obtain ⟨⟨hspace, htab⟩, hbreak⟩ := hgap
  simp [skipGap, hbreak, hspace, htab, hhash]

theorem skipGap_spaces (n : Nat) :
    skipGap false allowed false mark (List.replicate n ' ' ++ cs) =
      skipGap false allowed false (mark.skip n) cs := by
  induction n generalizing mark with
  | zero => rfl
  | succ n ih =>
      have hmark : mark.next.skip n = mark.skip (n + 1) := by
        rw [Mark.next_eq_skip, Mark.skip_skip, Nat.add_comm]
      rw [List.replicate_succ, List.cons_append, skipGap, if_neg (by decide), if_pos (by simp), ih,
        hmark]

theorem skipGap_line (comment : Bool) :
    skipGap false allowed comment mark ('\n' :: cs) =
      skipGap false true false mark.nextLine cs := by
  rw [skipGap, if_pos (by decide)]
  rfl

theorem skipGap_comment (hbreak : cs.any isBreak = false) :
    skipGap false allowed true mark (cs ++ '\n' :: tail) =
      skipGap false true false mark.nextLine tail := by
  induction cs generalizing mark with
  | nil => exact skipGap_line true
  | cons c rest ih =>
      rw [List.any_cons, Bool.or_eq_false_iff] at hbreak
      rw [List.cons_append, skipGap, hbreak.1, if_neg Bool.false_ne_true, if_pos (by simp),
        ih hbreak.2]
      rfl

/-- A comment goes to the end of its line. -/
theorem skipGap_commentLine (hbreak : cs.any isBreak = false) :
    skipGap false allowed false mark ('#' :: (cs ++ '\n' :: tail)) =
      skipGap false true false mark.nextLine tail := by
  rw [skipGap, if_neg (by decide), if_neg (by simp), if_pos (by decide), skipGap_comment hbreak]
  rfl

/-! ## Words -/

/-- What may come after a plain text: a colon, or the end of its line. -/
def StopsPlain (stop : List Char) : Prop :=
  ∀ c ∈ stop.head?, c = ':' ∨ c = '\n'

/-- A plain text starts no mark between documents. -/
theorem partsDocuments_of_isPlain (hplain : Writer.IsPlain cs) (hstop : StopsPlain stop) :
    partsDocuments (cs ++ stop) = false := by
  rw [Bool.eq_false_iff, Ne, partsDocuments_iff]
  rintro ⟨d, rest, hd, hcs, -⟩
  have hnot (more : List Char) : stop ≠ d :: more := by
    rintro rfl
    rcases hd with rfl | rfl <;> exact absurd (hstop _ rfl) (by decide)
  -- A mark is three characters: either it goes on into what comes after the text, or the text leads
  -- with an indicator.
  match cs, hplain.ne_nil, hcs with
  | [_], _, hcs => exact hnot _ (List.cons.inj hcs).2
  | [_, _], _, hcs => exact hnot _ (List.cons.inj (List.cons.inj hcs).2).2
  | a :: b :: e :: more, _, hcs =>
      simp only [List.cons_append, List.cons.injEq] at hcs
      obtain ⟨rfl, rfl, rfl, -⟩ := hcs
      have hlead := hplain.lead
      rcases hd with rfl | rfl <;> simp [Writer.hasLeadIndicator] at hlead

/-- What the first character of a plain text is not. -/
theorem first_of_isPlain (hplain : Writer.IsPlain (c :: cs)) :
    isGap c = false ∧ c ∉ Writer.leadIndicators ∧
      (c = '?' ∨ c = ':' ∨ c = '-' → ∀ stop, endsWord (cs ++ stop) = false) := by
  obtain ⟨hprint, hbreak⟩ := hplain.clean c List.mem_cons_self
  have hspace : c ≠ ' ' := fun h => hplain.first (by rw [List.head?_cons, h])
  have hlead := hplain.lead
  simp only [Writer.hasLeadIndicator, Bool.or_eq_false_iff, Bool.and_eq_false_iff,
    List.contains_eq_mem, decide_eq_false_iff_not] at hlead
  refine ⟨Writer.isGap_reader hprint hbreak hspace, hlead.2.1, fun hc stop => ?_⟩
  have hword : Writer.endsWord cs = false := by
    refine hlead.2.2.resolve_left fun hnone => ?_
    rcases hc with rfl | rfl | rfl <;> simp at hnone
  cases cs with
  | nil => cases hword
  | cons d rest =>
      rw [List.cons_append]
      refine Bool.eq_false_iff.mpr fun hends => ?_
      have hends' : endsWord (d :: rest) = true := hends
      rw [Writer.endsWord_of_reader hends'] at hword
      cases hword

theorem skipGap_isPlain (hplain : Writer.IsPlain cs) :
    skipGap false allowed false mark (cs ++ stop) = ⟨allowed, mark, cs ++ stop⟩ := by
  obtain ⟨c, rest, rfl⟩ := List.exists_cons_of_ne_nil hplain.ne_nil
  obtain ⟨hgap, hlead, -⟩ := first_of_isPlain hplain
  exact skipGap_word hgap fun h => hlead (h ▸ by decide)

/-- A plain scalar can start where a plain text comes next. -/
theorem word?_of_isPlain (stop : List Char) (hplain : Writer.IsPlain (c :: cs))
    (hflow : lexer.flow = false) : lexer.word? c (cs ++ stop) = lexer.plain? := by
  obtain ⟨hgap, hlead, hends⟩ := first_of_isPlain hplain
  simp only [word?, hflow]
  by_cases hsign : c = '?' ∨ c = ':' ∨ c = '-'
  · have hword := hends hsign stop
    have hpad : (cs ++ stop).head?.any isPad = false := by
      cases hnext : cs ++ stop with
      | nil => rfl
      | cons d rest =>
          rw [hnext] at hword
          exact (Bool.or_eq_false_iff.mp hword).1
    rw [hpad, hword]
    rcases hsign with rfl | rfl | rfl <;> simp
  · rw [not_or, not_or] at hsign
    have hindicator : isIndicator c = false := by
      simp only [Writer.leadIndicators, List.mem_cons, List.not_mem_nil, or_false, not_or] at hlead
      simp [isIndicator, hlead, hsign]
    simp [hgap, hindicator]

/-- Where a plain text comes next a plain scalar is read. -/
theorem token?_of_isPlain (hplain : Writer.IsPlain (c :: cs)) (hstop : StopsPlain stop)
    (houter : lexer.outer = []) : lexer.token? c (cs ++ stop) = lexer.plain? := by
  obtain ⟨-, hlead, hends⟩ := first_of_isPlain hplain
  have hparts := partsDocuments_of_isPlain hplain hstop
  rw [List.cons_append, partsDocuments, Bool.or_eq_false_iff] at hparts
  have hflow : lexer.flow = false := by rw [flow, houter]; rfl
  have hpercent : (c == '%') = false := beq_false_of_ne fun h => hlead (h ▸ by decide)
  -- Of the indicators only a question mark, a colon and a dash may lead a plain text.
  unfold token?
  rw [hpercent, hparts.1, hparts.2, Bool.and_false, if_neg Bool.false_ne_true,
    if_neg Bool.false_ne_true, if_neg Bool.false_ne_true]
  have hword := word?_of_isPlain stop hplain hflow
  split
  case h_11 => rw [hends (by simp) stop, if_neg Bool.false_ne_true, hword]
  case h_12 => rw [hflow, hends (by simp) stop, if_neg (by simp), hword]
  case h_13 => rw [hflow, hends (by simp) stop, if_neg (by simp), hword]
  case h_16 => exact hword
  all_goals exact absurd (by decide) hlead

/-- The level with one more scalar, kept back where it may be a key. -/
def keep (margin : Nat) (tokens : List Token) (token : Token) : (allowed : Bool) → Level
  | true => ⟨tokens, some ⟨margin == token.start.column + 1, token.start, [token]⟩⟩
  | false => ⟨token :: tokens, none⟩

/-- A plain text is read as one scalar. -/
theorem reads_plain {broke : Bool}
    (hprepare : lexer.prepare? =
      some ⟨cs ++ stop, mark, margin, margins, allowed, ⟨tokens, none⟩, []⟩)
    (hplain : Writer.IsPlain cs) (hstop : StopsPlain stop)
    (hscan : Token.plain? false margin mark (cs ++ stop) = some ⟨(cs, broke), after, tail⟩)
    (hshorter : tail.length ≤ stop.length) :
    Reads lexer ⟨tail, after, margin, margins, broke,
      keep margin tokens ⟨.scalar true cs, mark, after⟩ allowed, []⟩ := by
  obtain ⟨c, rest, rfl⟩ := List.exists_cons_of_ne_nil hplain.ne_nil
  rw [List.cons_append] at hprepare hscan
  refine .of_token hprepare rfl ?_ ?_
  · rw [token?_of_isPlain hplain hstop rfl]
    cases allowed <;>
      simp [plain?, saveKey?, removeKey?, Level.settle, flow, hscan, accept, push, Level.push, keep]
  · simp only [List.length_append, List.length_cons]
    omega

/-- What is read behind a quote goes on from where it is remembered that a key may start. -/
theorem quoted?_of_saveKey? {saved : Lexer} (hsaved : lexer.saveKey? = some saved) (double : Bool)
    (cs : List Char) :
    lexer.quoted? double cs = (Token.quoted? double saved.mark.next cs).map fun text =>
      saved.accept text (.scalar false) false := by
  rw [quoted?, hsaved]
  exact Option.map_eq_bind.symm

/-- A quote where no key may start comes before a value in quotes. -/
theorem token?_quote :
    token? ⟨'"' :: tail, mark, margin, margins, false, ⟨tokens, none⟩, []⟩ '"' tail =
      (Token.quoted? true mark.next tail).map fun text =>
        ⟨text.rest, text.mark, margin, margins, false,
          ⟨⟨.scalar false text.value, mark, text.mark⟩ :: tokens, none⟩, []⟩ := by
  have hquoted : ∀ lexer : Lexer, lexer.token? '"' tail = lexer.quoted? true tail := by
    simp [token?, startsDocument, endsDocument]
  rw [hquoted, quoted?_of_saveKey? rfl]
  rfl

/-! ## Entries -/

/-- A colon before a gap comes before a value. -/
theorem token?_colon (houter : lexer.outer = []) (htail : endsWord tail = true) :
    lexer.token? ':' tail = lexer.value? := by
  have hflow : lexer.flow = false := by rw [flow, houter]; rfl
  simp [token?, hflow, htail, startsDocument, endsDocument]

/-- The tokens of a key and the colon after it, latest first. -/
def keyTokens (key : List Char) (mark : Mark) : List Token :=
  [⟨.value, mark.skip key.length, mark.skip (key.length + 1)⟩,
    ⟨.scalar true key, mark, mark.skip key.length⟩, Token.empty .key mark]

/-- A key, up to the colon after it. -/
theorem reads_keyText (hprepare : lexer.prepare? =
      some ⟨key ++ ':' :: tail, mark, margin, margins, true, ⟨tokens, none⟩, []⟩)
    (hplain : Writer.IsPlain key) (htail : endsWord tail = true)
    (hmargin : margin ≤ mark.column + 1) :
    Reads lexer ⟨':' :: tail, mark.skip key.length, margin, margins, false,
      ⟨tokens, some ⟨margin == mark.column + 1, mark,
        [⟨.scalar true key, mark, mark.skip key.length⟩]⟩⟩, []⟩ :=
  reads_plain hprepare hplain (by simp [StopsPlain]) (Token.plain?_colon hplain hmargin htail)
    (Nat.le_refl _)

/-- What comes next after a key that is short enough. -/
theorem prepare?_keyText {pending : PendingKey} (hpending : pending.mark = mark)
    (hshort : key.length ≤ 1024) (hmargin : margin ≤ mark.column + 1) :
    prepare? ⟨':' :: tail, mark.skip key.length, margin, margins, false, ⟨tokens, some pending⟩, []⟩ =
      some ⟨':' :: tail, mark.skip key.length, margin, margins, false, ⟨tokens, some pending⟩, []⟩ := by
  refine prepare?_inside (skipGap_word (by decide) (by decide)) ?_ ?_
  · have hline : (mark.skip key.length).line = mark.line := rfl
    have hcolumn : (mark.skip key.length).column = mark.column + key.length := rfl
    simp only [Level.expire?, Level.isStale, hpending, hline, hcolumn]
    rw [if_neg]
    simp only [Bool.or_eq_true, decide_eq_true_eq]
    omega
  · exact Nat.le_trans hmargin (Nat.succ_le_succ (Nat.le_add_right _ _))

/-- A key in a block that is open at its column. -/
theorem reads_key (mark : Mark) (hprepare : lexer.prepare? =
      some ⟨key ++ ':' :: tail, mark, mark.column + 1, margins, true, ⟨tokens, none⟩, []⟩)
    (hplain : Writer.IsPlain key) (hshort : key.length ≤ 1024) (htail : endsWord tail = true) :
    Reads lexer ⟨tail, mark.skip (key.length + 1), mark.column + 1, margins, false,
      ⟨keyTokens key mark ++ tokens, none⟩, []⟩ := by
  refine (reads_keyText hprepare hplain htail (Nat.le_refl _)).trans ?_
  refine .of_token (prepare?_keyText rfl hshort (Nat.le_refl _)) rfl ?_ (Nat.lt_succ_self _)
  rw [token?_colon rfl htail]
  simp [value?, confirmKey, flow, take, push, Level.push, keyTokens]

/-- A key that opens a block. -/
theorem reads_firstKey (mark : Mark) (hprepare : lexer.prepare? =
      some ⟨key ++ ':' :: tail, mark, margin, margins, true, ⟨tokens, none⟩, []⟩)
    (hplain : Writer.IsPlain key) (hshort : key.length ≤ 1024) (htail : endsWord tail = true)
    (hmargin : margin ≤ mark.column) :
    Reads lexer ⟨tail, mark.skip (key.length + 1), mark.column + 1, margin :: margins, false,
      ⟨keyTokens key mark ++ Token.empty .blockMapping mark :: tokens, none⟩, []⟩ := by
  have hmargin' := Nat.le_succ_of_le hmargin
  refine (reads_keyText hprepare hplain htail hmargin').trans ?_
  refine .of_token (prepare?_keyText rfl hshort hmargin') rfl ?_ (Nat.lt_succ_self _)
  rw [token?_colon rfl htail]
  simp [value?, confirmKey, flow, take, push, Level.push, keyTokens, Nat.not_lt.mpr hmargin]

/-- The rest of a line after a colon or a dash: a space and a plain text.  The next line is indented
by `n`. -/
theorem reads_lineEnd (mark : Mark) (allowed : Bool) {n : Nat} (hplain : Writer.IsPlain value)
    (hmargin : margin ≤ mark.column + 1) (hindent : n < margin)
    (hword : tail.head?.any isGap = false) :
    Reads
      ⟨' ' :: (value ++ '\n' :: (List.replicate n ' ' ++ tail)), mark, margin, margins, allowed,
        ⟨tokens, none⟩, []⟩
      ⟨tail, ⟨mark.line + 1, n⟩, margin, margins, true,
        keep margin tokens ⟨.scalar true value, mark.next, ⟨mark.line + 1, n⟩⟩ allowed, []⟩ := by
  have hmargin' : margin ≤ mark.next.column + 1 := Nat.le_succ_of_le hmargin
  have hgap : skipGap false allowed false mark
      (' ' :: (value ++ '\n' :: (List.replicate n ' ' ++ tail))) =
      ⟨allowed, mark.next, value ++ '\n' :: (List.replicate n ' ' ++ tail)⟩ :=
    (skipGap_spaces 1).trans (skipGap_isPlain hplain)
  exact reads_plain (prepare?_inside hgap rfl hmargin') hplain (by simp [StopsPlain])
    (Token.plain?_line hplain hmargin' hindent hword) (by simp; omega)

/-- The tokens of an entry on a line of its own, latest first.  The next line is indented by `n`. -/
def entryTokens (key value : List Char) (mark : Mark) (n : Nat) : List Token :=
  ⟨.scalar true value, mark.skip (key.length + 2), ⟨mark.line + 1, n⟩⟩ :: keyTokens key mark

/-- An entry on a line of its own. -/
theorem reads_entry (mark : Mark) (n : Nat) (hprepare : lexer.prepare? =
      some ⟨key ++ ':' :: ' ' :: (value ++ '\n' :: (List.replicate n ' ' ++ tail)), mark,
        mark.column + 1, margins, true, ⟨tokens, none⟩, []⟩)
    (hkey : Writer.IsPlain key) (hshort : key.length ≤ 1024) (hvalue : Writer.IsPlain value)
    (hindent : n ≤ mark.column) (hword : tail.head?.any isGap = false) :
    Reads lexer ⟨tail, ⟨mark.line + 1, n⟩, mark.column + 1, margins, true,
      ⟨entryTokens key value mark n ++ tokens, none⟩, []⟩ := by
  refine (reads_key mark hprepare hkey hshort rfl).trans ?_
  exact reads_lineEnd _ false hvalue (by simp [Mark.skip]) (Nat.lt_succ_of_le hindent) hword

/-! ## Items -/

/-- A dash before a gap comes before an item. -/
theorem token?_dash (hallowed : lexer.keyAllowed = true) (htail : endsWord tail = true) :
    lexer.token? '-' tail = (lexer.roll .blockSequence).removeKey?.map (·.take 1 .blockEntry true) := by
  have hstart : startsDocument ('-' :: tail) = false := by
    unfold startsDocument
    split
    next hcs =>
      cases hcs
      cases htail
    · rfl
  have hentry : lexer.token? '-' tail = lexer.blockEntry? := by
    simp [token?, hstart, htail, endsDocument]
  rw [hentry, blockEntry?, hallowed, Bool.or_true, if_pos rfl]
  exact Option.map_eq_bind.symm

/-- A dash in a block that is open at its column. -/
theorem reads_dash (hprepare : lexer.prepare? =
      some ⟨'-' :: tail, mark, mark.column + 1, margins, true, ⟨tokens, none⟩, []⟩)
    (htail : endsWord tail = true) :
    Reads lexer ⟨tail, mark.next, mark.column + 1, margins, true,
      ⟨⟨.blockEntry, mark, mark.next⟩ :: tokens, none⟩, []⟩ := by
  refine .of_token hprepare rfl ?_ (Nat.lt_succ_self _)
  rw [token?_dash rfl htail]
  simp [roll, removeKey?, Level.settle, flow, take, push, Level.push, Mark.next_eq_skip]

/-- A dash that opens a block. -/
theorem reads_firstDash (hprepare : lexer.prepare? =
      some ⟨'-' :: tail, mark, margin, margins, true, ⟨tokens, none⟩, []⟩)
    (htail : endsWord tail = true) (hmargin : margin ≤ mark.column) :
    Reads lexer ⟨tail, mark.next, mark.column + 1, margin :: margins, true,
      ⟨⟨.blockEntry, mark, mark.next⟩ :: Token.empty .blockSequence mark :: tokens, none⟩, []⟩ := by
  refine .of_token hprepare rfl ?_ (Nat.lt_succ_self _)
  rw [token?_dash rfl htail]
  simp [roll, removeKey?, Level.settle, flow, take, push, Level.push, Mark.next_eq_skip,
    Nat.not_lt.mpr hmargin]

/-- The tokens of an item on a line of its own, latest first.  The next line is indented by `n`. -/
def itemTokens (value : List Char) (mark : Mark) (n : Nat) : List Token :=
  [⟨.scalar true value, mark.skip 2, ⟨mark.line + 1, n⟩⟩, ⟨.blockEntry, mark, mark.next⟩]

/-- The level behind an item, whose text is still kept back. -/
def itemLevel (value : List Char) (mark : Mark) (n : Nat) (tokens : List Token) : Level :=
  ⟨⟨.blockEntry, mark, mark.next⟩ :: tokens,
    some ⟨false, mark.skip 2, [⟨.scalar true value, mark.skip 2, ⟨mark.line + 1, n⟩⟩]⟩⟩

/-- On the next line a text that was kept back is no key. -/
theorem expire?_itemLevel {n : Nat} (hline : mark.line < after.line) :
    (itemLevel value mark n tokens).expire? after = some ⟨itemTokens value mark n ++ tokens, none⟩ := by
  have hstale : (mark.skip 2).line < after.line := hline
  simp [itemLevel, Level.expire?, Level.isStale, hstale, Level.settle, itemTokens]

/-- The text of an item, with the end of its line. -/
theorem reads_itemText (mark : Mark) (n : Nat) (hplain : Writer.IsPlain value) (hindent : n ≤ mark.column)
    (hword : tail.head?.any isGap = false) :
    Reads
      ⟨' ' :: (value ++ '\n' :: (List.replicate n ' ' ++ tail)), mark.next, mark.column + 1, margins,
        true, ⟨⟨.blockEntry, mark, mark.next⟩ :: tokens, none⟩, []⟩
      ⟨tail, ⟨mark.line + 1, n⟩, mark.column + 1, margins, true, itemLevel value mark n tokens, []⟩ := by
  have hnokey : keep (mark.column + 1) (⟨.blockEntry, mark, mark.next⟩ :: tokens)
      ⟨.scalar true value, mark.next.next, ⟨mark.line + 1, n⟩⟩ true =
      itemLevel value mark n tokens := by
    simp [keep, itemLevel, Mark.next_eq_skip, Mark.skip]
  rw [← hnokey]
  exact reads_lineEnd mark.next true hplain (Nat.le_succ _) (Nat.lt_succ_of_le hindent) hword

/-- An item on a line of its own, in a block that is open at its column. -/
theorem reads_item (mark : Mark) (n : Nat) (hprepare : lexer.prepare? =
      some ⟨'-' :: ' ' :: (value ++ '\n' :: (List.replicate n ' ' ++ tail)), mark, mark.column + 1,
        margins, true, ⟨tokens, none⟩, []⟩)
    (hplain : Writer.IsPlain value) (hindent : n ≤ mark.column)
    (hword : tail.head?.any isGap = false) :
    Reads lexer
      ⟨tail, ⟨mark.line + 1, n⟩, mark.column + 1, margins, true, itemLevel value mark n tokens, []⟩ :=
  (reads_dash hprepare rfl).trans (reads_itemText mark n hplain hindent hword)

/-- An item that opens a block. -/
theorem reads_firstItem (mark : Mark) (n : Nat) (hprepare : lexer.prepare? =
      some ⟨'-' :: ' ' :: (value ++ '\n' :: (List.replicate n ' ' ++ tail)), mark, margin,
        margins, true, ⟨tokens, none⟩, []⟩)
    (hmargin : margin ≤ mark.column) (hplain : Writer.IsPlain value) (hindent : n ≤ mark.column)
    (hword : tail.head?.any isGap = false) :
    Reads lexer
      ⟨tail, ⟨mark.line + 1, n⟩, mark.column + 1, margin :: margins, true,
        itemLevel value mark n (Token.empty .blockSequence mark :: tokens), []⟩ :=
  (reads_firstDash hprepare rfl hmargin).trans (reads_itemText mark n hplain hindent hword)

/-! ## The end of a text -/

/-- At the end of a text its outermost block is closed. -/
theorem ofChars_of_reads {line : Nat}
    (hreads : Reads (ofChars cs) ⟨[], ⟨line, 0⟩, 1, [0], true, ⟨tokens, none⟩, []⟩) :
    Token.ofChars cs =
      (Token.empty .streamEnd ⟨line, 0⟩ :: Token.empty .blockEnd ⟨line, 0⟩ :: tokens).reverse := by
  have htokens := ofChars_of_finish? hreads (prepare?_inside rfl rfl (Nat.le_refl 1)) rfl rfl
  exact htokens.trans (congrArg List.reverse (List.append_nil _))

end Lexer

end TypeFixtures.Yaml
