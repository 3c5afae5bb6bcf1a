import TypeFixtures.Proofs.Catalog.FirstFault
import TypeFixtures.Table

/-!
# Names made from words

In a word every character is lowered on its own and stays a word character.  So what a valid
identifier adds to a table name are word characters only.
-/

namespace TypeFixtures

instance : DecidablePred IsWordChar := fun c =>
  inferInstanceAs (Decidable
    (('A' ≤ c ∧ c ≤ 'Z') ∨ ('a' ≤ c ∧ c ≤ 'z') ∨ ('0' ≤ c ∧ c ≤ '9') ∨ c = '_'))

theorem IsWordChar.toNat_lt {c : Char} (h : IsWordChar c) : c.toNat < 0x80 := by
  rcases h with ⟨-, hhigh⟩ | ⟨-, hhigh⟩ | ⟨-, hhigh⟩ | rfl
  · change c.toNat ≤ 90 at hhigh
    omega
  · change c.toNat ≤ 122 at hhigh
    omega
  · change c.toNat ≤ 57 at hhigh
    omega
  · decide

theorem IsWordChar.toLower {c : Char} (h : IsWordChar c) : IsWordChar c.toLower := by
  have hascii : ∀ n < 0x80, IsWordChar (Char.ofNat n) → IsWordChar (Char.ofNat n).toLower := by
    decide +kernel
  have hlower := hascii c.toNat h.toNat_lt
  rw [Char.ofNat_toNat] at hlower
  exact hlower h

namespace Text

/-- No case rule but that of single characters applies to ASCII. -/
theorem lowerFrom_of_ascii {cs : List Char} (h : ∀ c ∈ cs, c.toNat < 0x80) (before : List Char) :
    lowerFrom before cs = cs.map Char.toLower := by
  induction cs generalizing before with
  | nil => rfl
  | cons c rest ih =>
      have hc : c.toNat < 0x80 := h c List.mem_cons_self
      have hsigma : c ≠ 'Σ' := by
        rintro rfl
        exact absurd hc (by decide)
      have hrest := ih (fun d hd => h d (List.mem_cons_of_mem c hd)) (c :: before)
      rw [lowerFrom, if_neg hsigma, lowerChar_ascii hc, hrest, List.map_cons, List.singleton_append]

theorem toList_lower_of_ascii {s : String} (h : ∀ c ∈ s.toList, c.toNat < 0x80) :
    (lower s).toList = s.toList.map Char.toLower := by
  rw [lower, String.toList_ofList, lowerFrom_of_ascii h]

end Text

namespace Descriptor

theorem HasWord.toList_lower {d : Descriptor} (h : d.HasWord) :
    (Text.lower d.ident).toList = d.ident.toList.map Char.toLower :=
  Text.toList_lower_of_ascii fun c hc => (h.2 c hc).toNat_lt

/-- A table name is the prefix and a word. -/
theorem HasWord.mem_toList_tableName {d : Descriptor} (h : d.HasWord) {tablePrefix : String}
    {c : Char} (hc : c ∈ (d.tableName tablePrefix).toList) :
    c ∈ tablePrefix.toList ∨ IsWordChar c := by
  rw [tableName, String.toList_append, List.mem_append, h.toList_lower] at hc
  rcases hc with hprefix | hword
  · exact Or.inl hprefix
  · obtain ⟨original, horiginal, rfl⟩ := List.mem_map.mp hword
    exact Or.inr (h.2 original horiginal).toLower

end Descriptor

end TypeFixtures
