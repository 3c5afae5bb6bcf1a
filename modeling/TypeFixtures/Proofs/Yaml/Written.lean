import Mathlib.Data.List.Basic
import TypeFixtures.Proofs.Yaml.Ascii
import TypeFixtures.Proofs.Yaml.Lines
import TypeFixtures.Yaml.Fault

/-!
# Written scalars, read

A text of ASCII is written plainly or in single quotes, and either way it is read back as it.  What
is left behind it is the end of its line: a plain scalar takes that too, a quoted one does not, and
the next token starts in both cases at the first word of the next line.

* `written`, `scalar_eq` — how a text is written;
* `resolve_staysPlain` — what the scalar stands for;
* `reads_written` — how it is cut off a text.
-/

namespace TypeFixtures.Yaml

namespace Writer

variable {c : Char} {cs : List Char}

/-! ## How a text is written -/

/-- A text that is written without quotes. -/
def staysPlain (cs : List Char) : Bool :=
  allowsPlain cs && !looksOther cs

/-- A text with its single quotes doubled. -/
def doubled (cs : List Char) : List Char :=
  cs.flatMap fun c => if c == '\'' then ['\'', '\''] else [c]

/-- How a text of ASCII is written. -/
def written (cs : List Char) : List Char :=
  if staysPlain cs then cs else '\'' :: (doubled cs ++ ['\''])

theorem hasSpaceAtBreak_of_isAscii (spaceFirst : Bool) (h : ∀ c ∈ cs, isAscii c = true) :
    hasSpaceAtBreak spaceFirst cs = false := by
  induction cs with
  | nil => rfl
  | cons a rest ih =>
      cases rest with
      | nil => rfl
      | cons b more =>
          have hrest := ih fun c hc => h c (List.mem_cons_of_mem a hc)
          rw [hasSpaceAtBreak, hrest, isBreak_of_isAscii (h a (by simp)),
            isBreak_of_isAscii (h b (by simp))]
          cases spaceFirst <;> simp

theorem needsEscapes_of_isAscii (h : ∀ c ∈ cs, isAscii c = true) : needsEscapes cs = false := by
  have hprint : cs.all isPrintable = true :=
    List.all_eq_true.mpr fun c hc => isPrintable_of_isAscii (h c hc)
  rw [needsEscapes, hprint, hasSpaceAtBreak_of_isAscii true h]
  rfl

/-- Without ends of lines there is nothing to indent. -/
theorem indented_of_isAscii (indent : Nat) (h : ∀ c ∈ cs, isAscii c = true) :
    indented indent false cs = cs := by
  induction cs with
  | nil => rfl
  | cons c rest ih =>
      rw [indented, isBreak_of_isAscii (h c List.mem_cons_self), if_neg Bool.false_ne_true,
        ih fun d hd => h d (List.mem_cons_of_mem c hd)]
      rfl

theorem isAscii_of_mem_doubled (h : ∀ c ∈ cs, isAscii c = true) :
    ∀ c ∈ doubled cs, isAscii c = true := by
  intro c hc
  obtain ⟨d, hd, hc⟩ := List.mem_flatMap.mp hc
  split at hc
  · obtain rfl | rfl : c = '\'' ∨ c = '\'' := by simpa using hc
    all_goals decide
  · rw [List.mem_singleton.mp hc]
    exact h d hd

theorem singleQuoted_of_isAscii (indent : Nat) (h : ∀ c ∈ cs, isAscii c = true) :
    singleQuoted indent cs = '\'' :: (doubled cs ++ ['\'']) := by
  have hclose : (cs.getLast?.map isBreak).getD false = false := by
    cases hlast : cs.getLast? with
    | none => rfl
    | some c => exact isBreak_of_isAscii (h c (List.mem_of_getLast? hlast))
  change '\'' :: (indented indent false (doubled cs) ++
    (if (cs.getLast?.map isBreak).getD false then List.replicate indent ' ' else []) ++ ['\'']) = _
  rw [indented_of_isAscii indent (isAscii_of_mem_doubled h), hclose, if_neg Bool.false_ne_true,
    List.append_nil]

theorem styleOf_of_isAscii (h : ∀ c ∈ cs, isAscii c = true) :
    styleOf cs = if staysPlain cs then .plain else .single := by
  have hbreak : cs.contains '\n' = false := by
    rw [List.contains_eq_mem, decide_eq_false_iff_not]
    exact fun hmem => absurd (h _ hmem) (by decide)
  have hsingle : allowsSingle cs = true := by
    rw [allowsSingle, needsEscapes_of_isAscii h, hasSpaceAtBreak_of_isAscii false h]
    rfl
  rw [styleOf, hbreak, if_neg Bool.false_ne_true, hsingle, if_pos rfl]
  rfl

/-- A text of ASCII is written on one line. -/
theorem scalar_eq (indent : Nat) (h : ∀ c ∈ cs, isAscii c = true) :
    scalar indent cs = written cs ++ ['\n'] := by
  rw [scalar, styleOf_of_isAscii h, written]
  cases staysPlain cs with
  | true => rfl
  | false => exact congrArg (· ++ ['\n']) (singleQuoted_of_isAscii indent h)

theorem isAscii_of_mem_written (h : ∀ c ∈ cs, isAscii c = true) :
    ∀ c ∈ written cs, isAscii c = true := by
  unfold written
  split
  · exact h
  · intro c hc
    obtain rfl | hc := List.mem_cons.mp hc
    · decide
    · obtain hc | hc := List.mem_append.mp hc
      · exact isAscii_of_mem_doubled h c hc
      · rw [List.mem_singleton.mp hc]
        decide

end Writer

/-! ## What the scalar stands for -/

namespace Scalar

theorem whole?_ne_text (cs text : List Char) : whole? cs ≠ some (.text text) := by
  unfold whole?
  dsimp only
  split
  · split
    · split_ifs <;> simp
    · simp
  · split
    · split_ifs <;> simp
    · simp

/-- A plain scalar that stands for a text stands for its own. -/
theorem eq_of_ofPlain_eq_text {cs text : List Char} (h : ofPlain cs = .text text) : text = cs := by
  unfold ofPlain at h
  split at h
  · contradiction
  · split at h
    · contradiction
    · split at h
      · next hwhole =>
          rw [h] at hwhole
          exact absurd hwhole (whole?_ne_text cs text)
      · split at h
        · exact (Scalar.text.inj h).symm
        · split at h
          · contradiction
          · exact (Scalar.text.inj h).symm

/-- What is written without quotes stands for its own text too. -/
theorem resolve_staysPlain (cs : List Char) :
    resolve none (Writer.staysPlain cs) cs = .ok (.text cs) := by
  cases hplain : Writer.staysPlain cs with
  | false => rfl
  | true =>
      obtain ⟨-, hother⟩ := Bool.and_eq_true_iff.mp hplain
      change Except.ok (ofPlain cs) = _
      cases hvalue : ofPlain cs with
      | text text => rw [eq_of_ofPlain_eq_text hvalue]
      | _ => simp [Writer.looksOther, hvalue] at hother

end Scalar

/-! ## How it is cut off a text -/

namespace Token

section

variable {c : Char} {cs gap text rest stop : List Char} {mark : Mark}

/-- A space in single quotes belongs to a gap. -/
theorem quotedFrom_space :
    quotedFrom false (between gap) text mark (' ' :: rest) =
      quotedFrom false (between (' ' :: gap)) text mark.next rest := by
  rw [quotedFrom, quotedStep_gap _ (by decide)]
  rfl

/-- Behind the start of its line, any other character belongs to a word. -/
theorem quotedFrom_word (hgap : isGap c = false) (hmark : 0 < mark.column) :
    quotedFrom false (between gap) text mark (c :: rest) =
      if c = '\'' then quotedFrom false .quote (closeGap false gap text) mark.next rest
      else quotedFrom false (between []) (c :: closeGap false gap text) mark.next rest := by
  have hinside : (mark.column == 0 && partsDocuments (c :: rest)) = false := by
    rw [beq_false_of_ne (Nat.ne_of_gt hmark), Bool.false_and]
  rw [quotedFrom, hinside, quotedStep_word hgap, isBreak_of_isGap hgap]
  by_cases hquote : c = '\''
  · simp [wordStep, hquote]
  · simp [wordStep, hquote, between]

theorem quotedFrom_quote (hstop : stop.head? ≠ some '\'') :
    quotedFrom false .quote text mark stop = some ⟨text.reverse, mark, stop⟩ := by
  cases stop with
  | nil => rfl
  | cons c rest =>
      have hquote : c ≠ '\'' := fun h => hstop (congrArg some h)
      simp [quotedFrom, quotedStep, hquote]

/-- A quote behind a quote stands for one. -/
theorem quotedFrom_quotes :
    quotedFrom false .quote text mark ('\'' :: rest) =
      quotedFrom false (between []) ('\'' :: text) mark.next rest := rfl

theorem closeGap_spaces (n : Nat) (text : List Char) :
    closeGap false (List.replicate n ' ') text = List.replicate n ' ' ++ text := by
  have hspaces : ∀ c ∈ List.replicate n ' ', c = ' ' := fun c hc => List.eq_of_mem_replicate hc
  rw [closeGap, if_neg Bool.false_ne_true, List.reverse_replicate, foldGap_of_spaces hspaces,
    List.reverse_replicate]

/-- In single quotes a text of ASCII is taken whole. -/
theorem quotedFrom_doubled (n : Nat) (text : List Char) (h : ∀ c ∈ cs, isAscii c = true)
    (hstop : stop.head? ≠ some '\'') (hmark : 0 < mark.column) :
    quotedFrom false (between (List.replicate n ' ')) text mark
        (Writer.doubled cs ++ '\'' :: stop) =
      some ⟨text.reverse ++ (List.replicate n ' ' ++ cs),
        mark.skip ((Writer.doubled cs).length + 1), stop⟩ := by
  -- The gap so far holds spaces only, and stands for itself before the next word.
  induction cs generalizing n text mark with
  | nil =>
      change quotedFrom false (between (List.replicate n ' ')) text mark ('\'' :: stop) = _
      rw [quotedFrom_word (by decide) hmark, if_pos rfl, quotedFrom_quote hstop, closeGap_spaces,
        List.reverse_append, List.reverse_replicate, List.append_nil]
      rfl
  | cons c rest ih =>
      have hc := h c List.mem_cons_self
      have hrest := fun d hd => h d (List.mem_cons_of_mem c hd)
      have hnext : 0 < mark.next.column := Nat.succ_pos _
      by_cases hspace : c = ' '
      · subst hspace
        change quotedFrom false (between (List.replicate n ' ')) text mark
          (' ' :: (Writer.doubled rest ++ '\'' :: stop)) = _
        rw [quotedFrom_space, ← List.replicate_succ, ih (n + 1) text hrest hnext,
          List.replicate_succ', List.append_assoc]
        simp [Writer.doubled, Mark.next_eq_skip, Nat.add_comm]
      · have hgap : isGap c = false :=
          Writer.isGap_reader (Writer.isPrintable_of_isAscii hc) (Writer.isBreak_of_isAscii hc)
            hspace
        by_cases hquote : c = '\''
        · subst hquote
          change quotedFrom false (between (List.replicate n ' ')) text mark
            ('\'' :: '\'' :: (Writer.doubled rest ++ '\'' :: stop)) = _
          rw [quotedFrom_word hgap hmark, if_pos rfl, quotedFrom_quotes, closeGap_spaces]
          have hdoubled : Writer.doubled ('\'' :: rest) = '\'' :: '\'' :: Writer.doubled rest := rfl
          have hmarks (k : Nat) : mark.next.next.skip (k + 1) = mark.skip (k + 1 + 1 + 1) := by
            rw [Mark.next_eq_skip, Mark.next_eq_skip, Mark.skip_skip, Mark.skip_skip]
            congr 1
            omega
          refine (ih 0 _ hrest (Nat.succ_pos _)).trans ?_
          simp [hdoubled, hmarks]
        · have hdoubled : Writer.doubled (c :: rest) = c :: Writer.doubled rest := by
            simp [Writer.doubled, hquote]
          rw [hdoubled, List.cons_append, quotedFrom_word hgap hmark, if_neg hquote,
            closeGap_spaces]
          refine (ih 0 _ hrest hnext).trans ?_
          simp [Mark.next_eq_skip, Nat.add_comm]

end

end Token

namespace Lexer

variable {lexer next : Lexer} {cs tail : List Char} {mark : Mark} {margin n : Nat}
  {margins : List Nat} {allowed : Bool} {tokens : List Token}

/-- A single quote comes before a text in single quotes. -/
theorem token?_singleQuote :
    token? ⟨'\'' :: tail, mark, margin, margins, allowed, ⟨tokens, none⟩, []⟩ '\'' tail =
      (Token.quoted? false mark.next tail).map fun text =>
        ⟨text.rest, text.mark, margin, margins, false,
          keep margin tokens ⟨.scalar false text.value, mark, text.mark⟩ allowed, []⟩ := by
  have hquoted : ∀ lexer : Lexer, lexer.token? '\'' tail = lexer.quoted? false tail := by
    simp [token?, startsDocument, endsDocument]
  rw [hquoted]
  cases allowed with
  | false =>
      rw [quoted?_of_saveKey? rfl]
      rfl
  | true =>
      rw [quoted?_of_saveKey? rfl]
      rfl

/-- The token of a written text.  The next line is indented by `n`. -/
def writtenToken (cs : List Char) (mark : Mark) (n : Nat) : Token :=
  ⟨.scalar (Writer.staysPlain cs) cs, mark,
    if Writer.staysPlain cs then ⟨mark.line + 1, n⟩ else mark.skip (Writer.written cs).length⟩

/-- A word starts here, or the text ends. -/
def StartsWord (tail : List Char) : Prop :=
  tail.head?.any isGap = false ∧ tail.head? ≠ some '#'

theorem skipGap_of_startsWord (h : StartsWord tail) :
    skipGap false allowed false mark tail = ⟨allowed, mark, tail⟩ := by
  cases tail with
  | nil => rfl
  | cons c rest => exact skipGap_word h.1 fun hc => h.2 (congrArg some hc)

theorem startsWord_of_isPlain (hplain : Writer.IsPlain cs) (tail : List Char) :
    StartsWord (cs ++ tail) := by
  obtain ⟨c, rest, rfl⟩ := List.exists_cons_of_ne_nil hplain.ne_nil
  obtain ⟨hgap, hlead, -⟩ := first_of_isPlain hplain
  refine ⟨hgap, fun hhash => hlead ?_⟩
  rw [Option.some.inj hhash]
  decide

/-- A written text is cut off as one scalar, and what is left leads to the first word of the next
line. -/
theorem reads_written (hprepare : lexer.prepare? =
      some ⟨Writer.written cs ++ '\n' :: (List.replicate n ' ' ++ tail), mark, margin, margins,
        allowed, ⟨tokens, none⟩, []⟩)
    (h : ∀ c ∈ cs, isAscii c = true) (hmargin : margin ≤ mark.column + 1) (hindent : n < margin)
    (hword : StartsWord tail) :
    ∃ rest after allowed',
      Reads lexer ⟨rest, after, margin, margins, allowed',
        keep margin tokens (writtenToken cs mark n) allowed, []⟩ ∧
      skipGap false allowed' false after rest = ⟨true, ⟨mark.line + 1, n⟩, tail⟩ := by
  cases hplain : Writer.staysPlain cs with
  | true =>
      have hcs := Writer.isPlain_of_allowsPlain (Bool.and_eq_true_iff.mp hplain).1
      rw [Writer.written, if_pos hplain] at hprepare
      rw [writtenToken, if_pos hplain, hplain]
      refine ⟨tail, ⟨mark.line + 1, n⟩, true, ?_, skipGap_of_startsWord hword⟩
      exact reads_plain hprepare hcs (by simp [StopsPlain])
        (Token.plain?_line hcs hmargin hindent hword.1) (by simp; omega)
  | false =>
      have hnot : ¬ Writer.staysPlain cs = true := by simp [hplain]
      have hlength : (Writer.written cs).length = (Writer.doubled cs).length + 1 + 1 := by
        simp [Writer.written, hnot]
      have hquoted (stop : List Char) (hstop : stop.head? ≠ some '\'') :
          Token.quoted? false mark.next (Writer.doubled cs ++ '\'' :: stop) =
            some ⟨cs, mark.skip (Writer.written cs).length, stop⟩ := by
        rw [hlength, Nat.add_comm _ 1, ← Mark.skip_skip, ← Mark.next_eq_skip]
        exact Token.quotedFrom_doubled 0 [] h hstop (Nat.succ_pos _)
      rw [Writer.written, if_neg hnot, List.cons_append, List.append_assoc] at hprepare
      rw [writtenToken, if_neg hnot, hplain]
      refine ⟨'\n' :: (List.replicate n ' ' ++ tail), mark.skip (Writer.written cs).length, false,
        .of_token hprepare rfl ?_ ?_, (skipGap_line false).trans ((skipGap_spaces n).trans ?_)⟩
      · rw [token?_singleQuote]
        exact congrArg (Option.map _) (hquoted _ (by simp))
      · simp
        omega
      · rw [skipGap_of_startsWord hword]
        simp [Mark.skip, Mark.nextLine]

/-- A written text is a word. -/
theorem skipGap_written (stop : List Char) :
    skipGap false allowed false mark (Writer.written cs ++ stop) =
      ⟨allowed, mark, Writer.written cs ++ stop⟩ := by
  unfold Writer.written
  split
  next hplain =>
    exact skipGap_isPlain (Writer.isPlain_of_allowsPlain (Bool.and_eq_true_iff.mp hplain).1)
  next => exact skipGap_word (by decide) (by decide)

/-- On the next line a scalar that was kept back is no key, unless it had to be one. -/
theorem expire?_keep {token : Token} {after : Mark} (hline : token.start.line < after.line)
    (hkey : allowed = true → margin ≠ token.start.column + 1) :
    (keep margin tokens token allowed).expire? after = some ⟨token :: tokens, none⟩ := by
  cases allowed with
  | false => rfl
  | true =>
      simp [keep, Level.expire?, Level.isStale, hline, hkey rfl, Level.settle]

/-- A text is cut up to the next token, with all that comes before it out of the way. -/
def ReadsTo (lexer next : Lexer) : Prop :=
  ∃ later, Reads lexer later ∧ later.prepare? = some next

theorem ReadsTo.of_prepare? (h : lexer.prepare? = some next) : ReadsTo lexer next :=
  ⟨lexer, ⟨0, Nat.le_refl _, fun _ => rfl⟩, h⟩

theorem Reads.readsTo {later : Lexer} (h : Reads lexer later) (hnext : ReadsTo later next) :
    ReadsTo lexer next := by
  obtain ⟨last, hlast, hprepare⟩ := hnext
  exact ⟨last, h.trans hlast, hprepare⟩

theorem ReadsTo.trans {between : Lexer} (h : ReadsTo lexer between)
    (hnext : ∀ later, later.prepare? = some between → ReadsTo later next) : ReadsTo lexer next := by
  obtain ⟨later, hreads, hprepare⟩ := h
  exact hreads.readsTo (hnext later hprepare)

/-- What stands in front of a written text after a space, with the rest of its line. -/
def beforeWritten (cs tail : List Char) (mark : Mark) (margin : Nat) (margins : List Nat)
    (allowed : Bool) (tokens : List Token) (n : Nat) : Lexer :=
  ⟨' ' :: (Writer.written cs ++ '\n' :: (List.replicate n ' ' ++ tail)), mark, margin, margins,
    allowed, ⟨tokens, none⟩, []⟩

theorem reads_beforeWritten (h : ∀ c ∈ cs, isAscii c = true) (hmargin : margin ≤ mark.column + 1)
    (hindent : n < margin) (hword : StartsWord tail) :
    ∃ rest after allowed',
      Reads (beforeWritten cs tail mark margin margins allowed tokens n)
        ⟨rest, after, margin, margins, allowed',
          keep margin tokens (writtenToken cs mark.next n) allowed, []⟩ ∧
      skipGap false allowed' false after rest = ⟨true, ⟨mark.line + 1, n⟩, tail⟩ := by
  have hmargin' : margin ≤ mark.next.column + 1 := Nat.le_succ_of_le hmargin
  exact reads_written
    (prepare?_inside ((skipGap_spaces 1).trans (skipGap_written _)) rfl hmargin') h hmargin'
    hindent hword

/-- The next line goes on with the block. -/
theorem readsTo_sameBlock (h : ∀ c ∈ cs, isAscii c = true) (hmargin : margin ≤ mark.column + 1)
    (hindent : margin = n + 1) (hkey : allowed = true → margin ≠ mark.column + 2)
    (hword : StartsWord tail) :
    ReadsTo (beforeWritten cs tail mark margin margins allowed tokens n)
      ⟨tail, ⟨mark.line + 1, n⟩, margin, margins, true,
        ⟨writtenToken cs mark.next n :: tokens, none⟩, []⟩ := by
  obtain ⟨rest, after, allowed', hreads, hgap⟩ :=
    reads_beforeWritten h hmargin (by omega : n < margin) hword
  refine ⟨_, hreads, prepare?_inside hgap (expire?_keep (Nat.lt_succ_self _) hkey) ?_⟩
  exact Nat.le_of_eq hindent

/-- The next line closes the block. -/
theorem readsTo_outerBlock {outer : Nat} (h : ∀ c ∈ cs, isAscii c = true)
    (hmargin : margin ≤ mark.column + 1) (hclosed : n + 1 < margin) (houter : outer ≤ n + 1)
    (hkey : allowed = true → margin ≠ mark.column + 2) (hword : StartsWord tail) :
    ReadsTo (beforeWritten cs tail mark margin (outer :: margins) allowed tokens n)
      ⟨tail, ⟨mark.line + 1, n⟩, outer, margins, true,
        ⟨Token.empty .blockEnd ⟨mark.line + 1, n⟩ :: writtenToken cs mark.next n :: tokens, none⟩,
        []⟩ := by
  obtain ⟨rest, after, allowed', hreads, hgap⟩ :=
    reads_beforeWritten h hmargin (Nat.lt_of_succ_lt hclosed) hword
  exact ⟨_, hreads, prepare?_closing hgap (expire?_keep (Nat.lt_succ_self _) hkey) hclosed houter⟩

end Lexer

end TypeFixtures.Yaml
