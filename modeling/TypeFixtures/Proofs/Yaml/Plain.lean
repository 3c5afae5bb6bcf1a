import Mathlib.Data.List.Basic
import TypeFixtures.Proofs.Yaml.Quoted
import TypeFixtures.Yaml.Token.Lexer
import TypeFixtures.Yaml.Writer

/-!
# Texts that stand without quotes

A text that is written plainly is read back as one plain scalar, up to a colon before a gap or to the
end of its line where the next one is not indented far enough.
-/

namespace TypeFixtures.Yaml

namespace Writer

variable {c : Char} {cs : List Char}

/-- What is written plainly. -/
structure IsPlain (cs : List Char) : Prop where
  ne_nil : cs ≠ []
  clean : ∀ c ∈ cs, isPrintable c = true ∧ isBreak c = false
  first : cs.head? ≠ some ' '
  last : cs.getLast? ≠ some ' '
  lead : hasLeadIndicator cs = false
  inner : hasInnerIndicator false cs.tail = false

theorem isPlain_of_allowsPlain (h : allowsPlain cs = true) : IsPlain cs := by
  simp only [allowsPlain, needsEscapes, Bool.and_eq_true, Bool.not_eq_true', Bool.or_eq_false_iff,
    Bool.not_eq_false'] at h
  obtain ⟨⟨⟨⟨⟨hempty, houter⟩, hprint, -⟩, hbreak⟩, hlead⟩, hinner⟩ := h
  rw [hasOuterSpace, Bool.or_eq_false_iff] at houter
  refine ⟨by simpa using hempty, fun c hc => ⟨List.all_eq_true.mp hprint c hc, ?_⟩, ?_, ?_, hlead,
    hinner⟩
  · exact Bool.eq_false_iff.mpr fun hb => by
      rw [List.any_eq_false] at hbreak
      exact hbreak c hc hb
  · intro hfirst
    rw [hfirst] at houter
    simp at houter
  · intro hlast
    rw [hlast] at houter
    simp at houter

theorem ne_tab_of_isPrintable (h : isPrintable c = true) : c ≠ '\t' := by
  rintro rfl
  revert h
  decide

/-- The writer's line ends are more than the reader's. -/
theorem isBreak_reader (h : isBreak c = false) : Yaml.isBreak c = false := by
  simp only [isBreak, Bool.or_eq_false_iff] at h
  simp only [Yaml.isBreak, Bool.or_eq_false_iff]
  tauto

theorem isGap_reader (hprint : isPrintable c = true) (hbreak : isBreak c = false) (hne : c ≠ ' ') :
    isGap c = false := by
  simp [isGap, isPad, isBreak_reader hbreak, hne, ne_tab_of_isPrintable hprint]

/-- Where a word ends for the reader it ends for the writer. -/
theorem endsWord_of_reader (h : Yaml.endsWord cs = true) : endsWord cs = true := by
  cases cs with
  | nil => rfl
  | cons c rest =>
      simp only [Yaml.endsWord, isGap, isPad, Yaml.isBreak, Bool.or_eq_true, beq_iff_eq] at h
      simp only [endsWord, isBreak, Bool.or_eq_true, beq_iff_eq]
      tauto

/-- The first character needs no look of its own. -/
theorem IsPlain.hasInnerIndicator (h : IsPlain cs) : hasInnerIndicator false cs = false := by
  obtain ⟨c, rest, rfl⟩ := List.exists_cons_of_ne_nil h.ne_nil
  obtain ⟨hprint, hbreak⟩ := h.clean c List.mem_cons_self
  have hlead := h.lead
  have hword : endsWord [c] = false := by
    have hspace : c ≠ ' ' := fun hc => h.first (by rw [List.head?_cons, hc])
    simp [endsWord, hspace, ne_tab_of_isPrintable hprint, hbreak]
  simp only [hasLeadIndicator, Bool.or_eq_false_iff, Bool.and_eq_false_iff] at hlead
  rw [Writer.hasInnerIndicator, hword, Bool.and_false, Bool.or_false, Bool.or_eq_false_iff]
  refine ⟨?_, h.inner⟩
  rw [Bool.and_eq_false_iff]
  exact hlead.2.2.imp_left fun hc => hc.1.2

end Writer

namespace Token

variable {margin : Nat} {text gap cs stop tail : List Char} {c : Char} {mark : Mark}

/-- A gap of spaces stands for itself. -/
theorem foldGap_of_spaces (hgap : ∀ c ∈ gap, c = ' ') : foldGap gap = gap := by
  have hnone : gap.filter isBreak = [] := by
    rw [List.filter_eq_nil_iff]
    intro c hc
    rw [hgap c hc]
    decide
  rw [foldGap, hnone]

/-- A character in the middle of a plain text goes on with it. -/
theorem plainStep_inner (hinner : Writer.hasInnerIndicator (!gap.isEmpty) (c :: cs) = false)
    (hplace : gap ≠ [] → margin ≤ mark.column ∧ 0 < mark.column) :
    plainStep false margin (!gap.isEmpty) mark c (cs ++ stop) = .takes := by
  rw [Writer.hasInnerIndicator, Bool.or_eq_false_iff, Bool.or_eq_false_iff] at hinner
  obtain ⟨⟨hcolon, hhash⟩, -⟩ := hinner
  have hfresh : (!gap.isEmpty && (!false && decide (mark.column < margin) || c == '#' ||
      mark.column == 0 && partsDocuments (c :: (cs ++ stop)))) = false := by
    by_cases hgap : gap = []
    · simp [hgap]
    · obtain ⟨hmargin, hcolumn⟩ := hplace hgap
      have hnothash : c ≠ '#' := by simpa [hgap] using hhash
      simp [hnothash, Nat.not_lt.mpr hmargin, Nat.ne_of_gt hcolumn]
  unfold plainStep
  rw [hfresh, if_neg Bool.false_ne_true]
  split
  next hc =>
    -- A colon is taken because no word ends after it.
    rw [hc, Bool.true_and] at hcolon
    cases cs with
    | nil => cases hcolon
    | cons d rest =>
        have hgap : isGap d = false := Bool.eq_false_iff.mpr fun hgap => by
          have hends : Yaml.endsWord (d :: rest) = true := hgap
          rw [Writer.endsWord_of_reader hends] at hcolon
          cases hcolon
        simp [hgap]
  · simp

/-- A plain text is taken whole, whatever comes after it. -/
theorem plainFrom_append (text gap stop : List Char) (mark : Mark)
    (hinner : Writer.hasInnerIndicator (!gap.isEmpty) cs = false)
    (hclean : ∀ c ∈ cs, Writer.isPrintable c = true ∧ Writer.isBreak c = false)
    (hlast : cs.getLast? ≠ some ' ') (hnil : cs = [] → gap = []) (hgap : ∀ c ∈ gap, c = ' ')
    (hmargin : margin ≤ mark.column + 1)
    (hplace : gap ≠ [] → margin ≤ mark.column ∧ 0 < mark.column) :
    plainFrom false margin text gap mark (cs ++ stop) =
      plainFrom false margin (cs.reverse ++ (gap ++ text)) [] (mark.skip cs.length) stop := by
  -- The gap so far holds spaces only, and the text does not end in one, so each gap is followed by a
  -- character that takes it.
  induction cs generalizing gap text mark with
  | nil =>
      rw [hnil rfl]
      rfl
  | cons c rest ih =>
      obtain ⟨hprint, hbreak⟩ := hclean c List.mem_cons_self
      have hrest : ∀ d ∈ rest, Writer.isPrintable d = true ∧ Writer.isBreak d = false :=
        fun d hd => hclean d (List.mem_cons_of_mem c hd)
      have hlast' : rest.getLast? ≠ some ' ' := by
        cases rest with
        | nil => simp
        | cons d more => simpa using hlast
      have hmark : mark.next.skip rest.length = mark.skip (rest.length + 1) := by
        rw [Mark.next_eq_skip, Mark.skip_skip, Nat.add_comm]
      have hinner' := hinner
      rw [Writer.hasInnerIndicator, Bool.or_eq_false_iff] at hinner'
      rw [List.cons_append, plainFrom, if_neg (by simp [Writer.isBreak_reader hbreak])]
      by_cases hspace : c = ' '
      · subst hspace
        have hmore : rest = [] → ' ' :: gap = [] := by
          rintro rfl
          exact absurd rfl hlast
        rw [if_pos (by decide), if_neg (by simp),
          ih text (' ' :: gap) mark.next hinner'.2 hrest hlast' hmore
            (List.forall_mem_cons.mpr ⟨rfl, hgap⟩) (Nat.le_succ_of_le hmargin)
            (fun _ => ⟨hmargin, Nat.succ_pos _⟩), hmark]
        simp
      · have hpad : isPad c = false := by
          simp [isPad, hspace, Writer.ne_tab_of_isPrintable hprint]
        have hword : Writer.endsWord [c] = false := by
          simp [Writer.endsWord, hspace, Writer.ne_tab_of_isPrintable hprint, hbreak]
        rw [hword] at hinner'
        rw [hpad, if_neg Bool.false_ne_true, plainStep_inner hinner hplace,
          foldGap_of_spaces (by simpa using hgap), List.reverse_reverse]
        dsimp only
        rw [ih _ [] mark.next hinner'.2 hrest hlast' (fun _ => rfl) (by simp)
          (Nat.le_succ_of_le hmargin) (fun h => absurd rfl h), hmark]
        simp

theorem plainFrom_isPlain (hplain : Writer.IsPlain cs) (hmargin : margin ≤ mark.column + 1) :
    plainFrom false margin [] [] mark (cs ++ stop) =
      plainFrom false margin cs.reverse [] (mark.skip cs.length) stop := by
  have happend := plainFrom_append [] [] stop mark hplain.hasInnerIndicator hplain.clean
    hplain.last (fun _ => rfl) (by simp) hmargin (fun h => absurd rfl h)
  simpa using happend

/-- A plain text is read up to a colon before a gap. -/
theorem plain?_colon (hplain : Writer.IsPlain cs) (hmargin : margin ≤ mark.column + 1)
    (htail : endsWord tail = true) :
    plain? false margin mark (cs ++ ':' :: tail) =
      some ⟨(cs, false), mark.skip cs.length, ':' :: tail⟩ := by
  rw [plain?, plainFrom_isPlain hplain hmargin, plainFrom, if_neg (by decide), if_neg (by decide)]
  cases tail with
  | nil => simp [plainStep]
  | cons d rest =>
      have hgap : isGap d = true := htail
      simp [plainStep, hgap]

/-- Spaces at the start of a line are part of the gap. -/
theorem plainFrom_spaces (n : Nat) :
    plainFrom false margin text gap mark (List.replicate n ' ' ++ stop) =
      plainFrom false margin text (List.replicate n ' ' ++ gap) (mark.skip n) stop := by
  induction n generalizing gap mark with
  | zero => rfl
  | succ n ih =>
      have hmark : mark.next.skip n = mark.skip (n + 1) := by
        rw [Mark.next_eq_skip, Mark.skip_skip, Nat.add_comm]
      have hspaces : List.replicate n ' ' ++ ' ' :: gap = ' ' :: List.replicate n ' ' ++ gap := by
        rw [← List.replicate_succ, List.replicate_succ', List.append_assoc]
        rfl
      rw [List.replicate_succ, List.cons_append, plainFrom, if_neg (by decide), if_pos (by decide),
        if_neg (by simp), ih, hmark, hspaces]

/-- A plain text is read to the end of its line, and on to the first word of the next one. -/
theorem plain?_line {n : Nat} (hplain : Writer.IsPlain cs) (hmargin : margin ≤ mark.column + 1)
    (hindent : n < margin) (hword : tail.head?.any isGap = false) :
    plain? false margin mark (cs ++ '\n' :: (List.replicate n ' ' ++ tail)) =
      some ⟨(cs, true), ⟨mark.line + 1, n⟩, tail⟩ := by
  have hspaces : (List.replicate n ' ' ++ ['\n']).isEmpty = false := by simp
  have hbreak : (List.replicate n ' ' ++ ['\n']).any isBreak = true := by simp [isBreak]
  rw [plain?, plainFrom_isPlain hplain hmargin, plainFrom, if_pos (by decide), plainFrom_spaces]
  cases tail with
  | nil => simp [plainFrom, Mark.skip, Mark.nextLine, hbreak]
  | cons c rest =>
      have hgap : isGap c = false := hword
      rw [isGap, Bool.or_eq_false_iff] at hgap
      rw [plainFrom, hgap.1, hgap.2]
      simp [plainStep, hindent, Mark.skip, Mark.nextLine, hbreak]

end Token

end TypeFixtures.Yaml
