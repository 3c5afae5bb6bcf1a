import Mathlib.Data.List.Basic
import TypeFixtures.Yaml.Mark
import TypeFixtures.Yaml.Writer

/-!
# Plain characters

What is done to the characters of a text before it is cut into tokens, and the visible characters of
ASCII, to which nothing is done: they may stand in a text, end no line and are written as they are.
-/

namespace TypeFixtures.Yaml

/-- A character once all ends of lines are one. -/
def unify (c : Char) : Char :=
  if c = '\r' || c = '\u0085' then '\n' else c

/-- Without carriage returns the ends of lines are unified one by one. -/
theorem unifyBreaks_eq_map {cs : List Char} (hreturn : '\r' ∉ cs) :
    unifyBreaks cs = cs.map unify := by
  induction cs with
  | nil => rfl
  | cons c rest ih =>
      have hne : c ≠ '\r' := fun h => hreturn (h ▸ List.mem_cons_self)
      have hrest := ih fun h => hreturn (List.mem_cons_of_mem c h)
      rw [unifyBreaks, hrest, List.map_cons, unify]
      exact fun _ h => absurd h hne

theorem unify_of_ascii {c : Char} (hlow : 0x20 ≤ c.toNat) (hhigh : c.toNat ≤ 0x7E) :
    unify c = c := by
  unfold unify
  rw [if_neg]
  simp only [Bool.or_eq_true, decide_eq_true_eq, not_or]
  constructor
  · rintro rfl
    exact absurd hlow (by decide)
  · rintro rfl
    exact absurd hhigh (by decide)

theorem isLegible_of_ascii {c : Char} (hlow : 0x20 ≤ c.toNat) (hhigh : c.toNat ≤ 0x7E) :
    isLegible c = true := by
  simp [isLegible, hlow, hhigh]

/-- The characters of ASCII that can be printed. -/
def isAscii (c : Char) : Bool :=
  0x20 ≤ c.toNat && c.toNat ≤ 0x7E

section

variable {c : Char} {cs : List Char}

theorem isAscii_iff : isAscii c = true ↔ 0x20 ≤ c.toNat ∧ c.toNat ≤ 0x7E := by
  simp [isAscii]

namespace Writer

theorem isPrintable_of_isAscii (h : isAscii c = true) : isPrintable c = true := by
  obtain ⟨hlow, hhigh⟩ := isAscii_iff.mp h
  simp [isPrintable, hlow, hhigh]

theorem isBreak_of_isAscii (h : isAscii c = true) : isBreak c = false := by
  refine Bool.eq_false_iff.mpr fun hbreak => ?_
  simp only [isBreak, Bool.or_eq_true, beq_iff_eq] at hbreak
  obtain (((rfl | rfl) | rfl) | rfl) | rfl := hbreak <;> exact absurd h (by decide)

end Writer

/-- A text of lines of ASCII may be read. -/
theorem isLegible_of_line (h : c = '\n' ∨ isAscii c = true) : isLegible c = true := by
  obtain rfl | h := h
  · decide
  · exact isLegible_of_ascii (isAscii_iff.mp h).1 (isAscii_iff.mp h).2

/-- The ends of its lines are the ones that count. -/
theorem unifyBreaks_eq_self (h : ∀ c ∈ cs, c = '\n' ∨ isAscii c = true) : unifyBreaks cs = cs := by
  have hreturn : '\r' ∉ cs := fun hmem => absurd (h _ hmem) (by decide)
  have hsame : ∀ c ∈ cs, unify c = c := by
    intro c hc
    obtain rfl | hascii := h c hc
    · decide
    · exact unify_of_ascii (isAscii_iff.mp hascii).1 (isAscii_iff.mp hascii).2
  rw [unifyBreaks_eq_map hreturn, List.map_congr_left hsame, List.map_id']

end

end TypeFixtures.Yaml
