import TypeFixtures.Json
import TypeFixtures.Yaml.Token.Quoted

/-!
# What stands between double quotes

A character that is no gap stands between double quotes as itself or as an escape.  The words for
characters are read one by one: each adds its character after what the gap before it stands for.
Only the start of a line needs care, since a mark between documents ends the text there.
-/

namespace TypeFixtures

namespace Json

theorem digit?_hexDigit {n : Nat} (hn : n < 16) : Yaml.Scalar.digit? 16 (hexDigit n) = some n := by
  revert n
  decide +kernel

theorem isBreak_hexDigit {n : Nat} (hn : n < 16) : Yaml.isBreak (hexDigit n) = false := by
  revert n
  decide +kernel

end Json

namespace Yaml

@[simp] theorem Mark.skip_skip (mark : Mark) (m n : Nat) :
    (mark.skip m).skip n = mark.skip (m + n) := by
  simp [Mark.skip, Nat.add_assoc]

theorem Mark.next_eq_skip (mark : Mark) : mark.next = mark.skip 1 := rfl

/-- A mark between documents is a dash or a dot three times and then the end of a word. -/
theorem partsDocuments_iff {cs : List Char} :
    partsDocuments cs = true ↔
      ∃ d tail, (d = '-' ∨ d = '.') ∧ cs = d :: d :: d :: tail ∧ endsWord tail = true := by
  constructor
  · intro h
    rw [partsDocuments, Bool.or_eq_true] at h
    rcases h with h | h
    · unfold startsDocument at h
      split at h
      next tail => exact ⟨'-', tail, .inl rfl, rfl, h⟩
      · cases h
    · unfold endsDocument at h
      split at h
      next tail => exact ⟨'.', tail, .inr rfl, rfl, h⟩
      · cases h
  · rintro ⟨d, tail, rfl | rfl, rfl, htail⟩
    · simp [partsDocuments, startsDocument, htail]
    · simp [partsDocuments, endsDocument, htail]

namespace Token

variable {c : Char} {gap text word rest : List Char} {mark : Mark}

/-- In a gap with the characters seen so far, or in a word if there are none. -/
def between (gap : List Char) : QuotedMode :=
  if gap = [] then .word else .gap false gap

/-- An empty gap adds nothing. -/
theorem closeGap_nil (escaped : Bool) (text : List Char) : closeGap escaped [] text = text := by
  cases escaped <;> rfl

/-- A gap goes on. -/
theorem quotedStep_gap {double : Bool} (parted : Bool) (hgap : isGap c = true) :
    quotedStep double (between gap) parted text c = .goesOn (between (c :: gap)) text := by
  unfold between
  by_cases hnil : gap = []
  · rw [if_pos hnil, if_neg (List.cons_ne_nil c gap), quotedStep, if_pos hgap, hnil]
  · rw [if_neg hnil, if_neg (List.cons_ne_nil c gap), quotedStep, if_pos hgap]

/-- A character of a word comes after what the gap before it stands for. -/
theorem quotedStep_word {double : Bool} (hgap : isGap c = false) :
    quotedStep double (between gap) false text c = wordStep double (closeGap false gap text) c := by
  unfold between
  by_cases hnil : gap = []
  · rw [if_pos hnil, quotedStep, hgap, hnil, closeGap_nil]
    rfl
  · rw [if_neg hnil, quotedStep, hgap]
    rfl

/-- A mark between documents breaks the scalar off. -/
theorem quotedStep_parted (hgap : isGap c = false) :
    quotedStep true (between gap) true text c = .fails := by
  unfold between
  split <;> rw [quotedStep, hgap] <;> rfl

/-- Away from marks between documents a word stands for a character. -/
def StandsFor (word : List Char) (c : Char) : Prop :=
  ∀ gap text mark rest, (mark.column == 0 && partsDocuments (word ++ rest)) = false →
    quotedFrom true (between gap) text mark (word ++ rest) =
      quotedFrom true .word (c :: closeGap false gap text) (mark.skip word.length) rest

theorem isBreak_of_isGap (hgap : isGap c = false) : isBreak c = false := by
  rw [isGap, Bool.or_eq_false_iff] at hgap
  exact hgap.2

/-- Most characters stand for themselves. -/
theorem standsFor_self (hgap : isGap c = false) (hquote : c ≠ '"') (hslash : c ≠ '\\') :
    StandsFor [c] c := by
  intro gap text mark rest hparted
  rw [List.singleton_append] at hparted ⊢
  rw [quotedFrom, hparted, quotedStep_word hgap, isBreak_of_isGap hgap]
  simp [wordStep, hquote, hslash, Mark.next_eq_skip]

/-- A backslash starts an escape. -/
theorem quotedFrom_backslash (hparted : (mark.column == 0 && partsDocuments ('\\' :: rest)) = false) :
    quotedFrom true (between gap) text mark ('\\' :: rest) =
      quotedFrom true .escape (closeGap false gap text) mark.next rest := by
  rw [quotedFrom, hparted, quotedStep_word (by decide)]
  rfl

/-- A letter after a backslash stands for a character. -/
theorem standsFor_letter {letter : Char} (hbreak : isBreak letter = false)
    (hletter : escaped? letter = some (.inl c)) : StandsFor ['\\', letter] c := by
  intro gap text mark rest hparted
  refine (quotedFrom_backslash hparted).trans ?_
  change quotedFrom true .escape _ mark.next (letter :: rest) = _
  rw [quotedFrom]
  simp [quotedStep, hbreak, hletter, Mark.next_eq_skip]

theorem charOf?_toNat (c : Char) : charOf? c.toNat = some c := by
  have hvalid : c.toNat.isValidChar := c.valid
  rw [charOf?, if_pos hvalid, Char.ofNat_toNat]

/-- A hexadecimal digit that is not the last of an escape. -/
theorem quotedFrom_digit {left value d : Nat} (hd : d < 16) :
    quotedFrom true (.code (left + 2) value) text mark (Json.hexDigit d :: rest) =
      quotedFrom true (.code (left + 1) (16 * value + d)) text mark.next rest := by
  rw [quotedFrom]
  simp [quotedStep, Json.digit?_hexDigit hd, Json.isBreak_hexDigit hd]

/-- The last hexadecimal digit of an escape. -/
theorem quotedFrom_lastDigit {value d : Nat} (hd : d < 16) (hc : charOf? (16 * value + d) = some c) :
    quotedFrom true (.code 1 value) text mark (Json.hexDigit d :: rest) =
      quotedFrom true .word (c :: text) mark.next rest := by
  rw [quotedFrom]
  simp [quotedStep, Json.digit?_hexDigit hd, Json.isBreak_hexDigit hd, hc]

/-- The code of a character stands for it. -/
theorem standsFor_byCode (hc : c.toNat < 256) : StandsFor (Json.byCode c) c := by
  intro gap text mark rest hparted
  refine (quotedFrom_backslash hparted).trans ?_
  have hzero : '0' = Json.hexDigit 0 := rfl
  have hhigh : c.toNat / 16 < 16 := by omega
  have hvalue : charOf? (16 * (16 * (16 * (16 * 0 + 0) + 0) + c.toNat / 16) + c.toNat % 16) =
      some c := by
    rw [← charOf?_toNat c]
    congr 1
    omega
  calc quotedFrom true .escape (closeGap false gap text) mark.next
        ('u' :: '0' :: '0' :: Json.hexDigit (c.toNat / 16) :: Json.hexDigit (c.toNat % 16) :: rest)
      = quotedFrom true (.code 4 0) (closeGap false gap text) mark.next.next
        ('0' :: '0' :: Json.hexDigit (c.toNat / 16) :: Json.hexDigit (c.toNat % 16) :: rest) := rfl
    _ = quotedFrom true .word (c :: closeGap false gap text) (mark.skip 6) rest := by
      rw [hzero, quotedFrom_digit (by omega), quotedFrom_digit (by omega), quotedFrom_digit hhigh,
        quotedFrom_lastDigit (by omega) hvalue]
      rfl

/-- The closing quote ends the scalar. -/
theorem quotedFrom_close :
    quotedFrom true (between gap) text mark ('"' :: rest) =
      some ⟨(closeGap false gap text).reverse, mark.next, rest⟩ := by
  have hparted : (mark.column == 0 && partsDocuments ('"' :: rest)) = false := by
    rw [show partsDocuments ('"' :: rest) = false from rfl, Bool.and_false]
  rw [quotedFrom, hparted, quotedStep_word (by decide)]
  rfl

end Token

end Yaml

end TypeFixtures
