import Mathlib.Data.List.Basic
import TypeFixtures.Catalog

/-!
# The first fault of a catalog

The check of a catalog walks over the descriptors and carries the identifiers it has passed, each
under its lower case.  What it reports is described here by positions alone:

* `FineAt` — what a descriptor at a position has to satisfy, given the earlier ones;
* `Reports` — the fault of a position that fails, in the order in which the conditions are tried;
* `validate_reports_first_fault` — a catalog passes if every position is fine, and otherwise the
  fault is that of the least position that is not.

The walk is tied to positions by `faultAfter?`, one step of it behind the descriptors passed so far.
-/

namespace TypeFixtures

/-- ASCII letters, digits and the underscore. -/
def IsWordChar (c : Char) : Prop :=
  ('A' ≤ c ∧ c ≤ 'Z') ∨ ('a' ≤ c ∧ c ≤ 'z') ∨ ('0' ≤ c ∧ c ≤ '9') ∨ c = '_'

theorem isIdentifierChar_iff (c : Char) : isIdentifierChar c = true ↔ IsWordChar c := by
  have hupper : c.isUpper = true ↔ 'A' ≤ c ∧ c ≤ 'Z' := decide_eq_true_iff
  have hlower : c.isLower = true ↔ 'a' ≤ c ∧ c ≤ 'z' := by
    change (decide ('a' ≤ c) && decide (c ≤ 'z')) = true ↔ _
    rw [Bool.and_eq_true, decide_eq_true_iff, decide_eq_true_iff]
  have hdigit : c.isDigit = true ↔ '0' ≤ c ∧ c ≤ '9' := by
    change (decide ('0' ≤ c) && decide (c ≤ '9')) = true ↔ _
    rw [Bool.and_eq_true, decide_eq_true_iff, decide_eq_true_iff]
  change (((c.isUpper || c.isLower) || c.isDigit) || c == '_') = true ↔ _
  simp only [Bool.or_eq_true, hupper, hlower, hdigit, beq_iff_eq, IsWordChar, or_assoc]

theorem isBlank_of_isWordChar {c : Char} (h : IsWordChar c) : Text.isBlank c = false := by
  have hrange : (48 ≤ c.toNat ∧ c.toNat ≤ 57) ∨ (65 ≤ c.toNat ∧ c.toNat ≤ 122) := by
    rcases h with ⟨hlow, hhigh⟩ | ⟨hlow, hhigh⟩ | ⟨hlow, hhigh⟩ | rfl
    · change 65 ≤ c.toNat at hlow
      change c.toNat ≤ 90 at hhigh
      omega
    · change 97 ≤ c.toNat at hlow
      change c.toNat ≤ 122 at hhigh
      omega
    · change 48 ≤ c.toNat at hlow
      change c.toNat ≤ 57 at hhigh
      omega
    · decide
  simp only [Text.isBlank, Bool.or_eq_false_iff, Bool.and_eq_false_iff, decide_eq_false_iff_not,
    beq_eq_false_iff_ne]
  omega

namespace Descriptor

/-- The identifier is written out and has word characters only. -/
def HasWord (d : Descriptor) : Prop :=
  d.ident ≠ "" ∧ ∀ c ∈ d.ident.toList, IsWordChar c

/-- The type has a character that can be seen. -/
def HasType (d : Descriptor) : Prop :=
  ∃ c ∈ d.sqlType.toList, Text.isBlank c = false

/-- Two descriptors have one lower-case identifier. -/
def SameTable (d e : Descriptor) : Prop :=
  Text.lower d.ident = Text.lower e.ident

theorem isIdentifier_iff (d : Descriptor) : isIdentifier d.ident = true ↔ d.HasWord := by
  simp [isIdentifier, HasWord, isIdentifierChar_iff]

theorem isBlankText_sqlType_iff (d : Descriptor) :
    Text.isBlankText d.sqlType = true ↔ ¬ d.HasType := by
  simp [Text.isBlankText, HasType]

/-- A word starts with a character that is not blank. -/
theorem HasWord.not_isBlankText {d : Descriptor} (h : d.HasWord) :
    Text.isBlankText d.ident = false := by
  obtain ⟨c, hc⟩ := List.exists_mem_of_ne_nil d.ident.toList (by simpa using h.1)
  have hshown := isBlank_of_isWordChar (h.2 c hc)
  simp only [Text.isBlankText, List.all_eq_false]
  exact ⟨c, hc, by simp [hshown]⟩

theorem fault?_eq_none_iff (position : Nat) (d : Descriptor) :
    d.fault? position = none ↔ d.HasWord ∧ d.HasType := by
  unfold fault?
  constructor
  · intro h
    split at h
    · contradiction
    split at h
    · contradiction
    next hword =>
      split at h
      · contradiction
      next htype =>
        rw [isBlankText_sqlType_iff, not_not] at htype
        rw [Bool.not_eq_true, Bool.not_eq_false', isIdentifier_iff] at hword
        exact ⟨hword, htype⟩
  · rintro ⟨hword, htype⟩
    have hident := (isIdentifier_iff d).mpr hword
    have hseen : Text.isBlankText d.sqlType = false := by
      rw [← Bool.not_eq_true, isBlankText_sqlType_iff, not_not]
      exact htype
    simp [hword.not_isBlankText, hident, hseen]

end Descriptor

namespace Catalog

/-- An earlier position holds a descriptor with the lower-case identifier of `d`. -/
def HeldBy (catalog : Catalog) (position : Nat) (d : Descriptor) (earlier : Nat)
    (first : Descriptor) : Prop :=
  earlier < position ∧ catalog[earlier]? = some first ∧ d.SameTable first

/-- What the descriptor `d` has to satisfy to stand at a position. -/
structure FineAt (catalog : Catalog) (position : Nat) (d : Descriptor) : Prop where
  word : d.HasWord
  type : d.HasType
  free : ∀ earlier first, ¬ catalog.HeldBy position d earlier first

/-- The fault of the descriptor `d` at a position that fails.  Each case excludes those before
it. -/
inductive Reports (catalog : Catalog) (position : Nat) (d : Descriptor) : CatalogFault → Prop
  | emptyIdentifier (blank : ∀ c ∈ d.ident.toList, Text.isBlank c = true) :
      Reports catalog position d (.emptyIdentifier position)
  | invalidIdentifier (shown : ∃ c ∈ d.ident.toList, Text.isBlank c = false)
      (foreign : ∃ c ∈ d.ident.toList, ¬ IsWordChar c) :
      Reports catalog position d (.invalidIdentifier d.ident)
  | emptyType (word : d.HasWord) (blank : ∀ c ∈ d.sqlType.toList, Text.isBlank c = true) :
      Reports catalog position d (.emptyType d.ident)
  | duplicateTable (word : d.HasWord) (type : d.HasType) (earlier : Nat) (first : Descriptor)
      (held : catalog.HeldBy position d earlier first)
      (only : ∀ other holder, catalog.HeldBy position d other holder → other = earlier) :
      Reports catalog position d (.duplicateTable d.ident first.ident)

/-- The descriptor `d` stands at the least position that fails, and `fault` is reported of it. -/
structure FirstFault (catalog : Catalog) (position : Nat) (d : Descriptor) (fault : CatalogFault) :
    Prop where
  here : catalog[position]? = some d
  fails : ¬ catalog.FineAt position d
  least : ∀ i e, i < position → catalog[i]? = some e → catalog.FineAt i e
  reports : catalog.Reports position d fault

/-! ## One step of the walk -/

/-- What the walk carries behind some descriptors. -/
def passed (before : List Descriptor) : List (String × String) :=
  (before.map fun d => (Text.lower d.ident, d.ident)).reverse

theorem passed_concat (before : List Descriptor) (d : Descriptor) :
    passed (before ++ [d]) = (Text.lower d.ident, d.ident) :: passed before := by
  simp [passed]

/-- The fault of a descriptor behind others: its own, or that one of them has its table name. -/
def faultAfter? (before : List Descriptor) (d : Descriptor) : Option CatalogFault :=
  (d.fault? before.length).or
    (((passed before).lookup (Text.lower d.ident)).map (.duplicateTable d.ident))

theorem validateFrom_passed_cons (before : List Descriptor) (d : Descriptor)
    (rest : List Descriptor) :
    validateFrom (passed before) before.length (d :: rest) =
      match faultAfter? before d with
      | some fault => .error fault
      | none => validateFrom (passed (before ++ [d])) (before ++ [d]).length rest := by
  rw [validateFrom, faultAfter?, passed_concat, List.length_append, List.length_singleton]
  cases d.fault? before.length with
  | some fault => rfl
  | none => cases (passed before).lookup (Text.lower d.ident) <;> rfl

/-- The names carried are those of the earlier positions. -/
theorem heldBy_of_lookup_passed {before : List Descriptor} {d : Descriptor} {name : String}
    (h : (passed before).lookup (Text.lower d.ident) = some name) (rest : List Descriptor) :
    ∃ earlier first, HeldBy (before ++ rest) before.length d earlier first ∧
      first.ident = name := by
  obtain ⟨newer, older, hsplit, -⟩ := List.lookup_eq_some_iff.mp h
  have hmem : (Text.lower d.ident, name) ∈ passed before := by
    rw [hsplit]
    simp
  obtain ⟨first, hfirst, hpair⟩ := List.mem_map.mp (List.mem_reverse.mp hmem)
  obtain ⟨hlower, hname⟩ := Prod.mk.inj hpair
  obtain ⟨earlier, hearlier⟩ := List.mem_iff_getElem?.mp hfirst
  have hlt : earlier < before.length := (List.getElem?_eq_some_iff.mp hearlier).1
  refine ⟨earlier, first, ⟨hlt, ?_, hlower.symm⟩, hname⟩
  rw [List.getElem?_append_left hlt]
  exact hearlier

theorem not_heldBy_of_lookup_passed {before : List Descriptor} {d : Descriptor}
    (h : (passed before).lookup (Text.lower d.ident) = none) (rest : List Descriptor)
    (earlier : Nat) (first : Descriptor) :
    ¬ HeldBy (before ++ rest) before.length d earlier first := by
  rintro ⟨hlt, hfirst, hsame⟩
  rw [List.getElem?_append_left hlt] at hfirst
  have hmem : (Text.lower first.ident, first.ident) ∈ passed before :=
    List.mem_reverse.mpr (List.mem_map.mpr ⟨first, List.mem_of_getElem? hfirst, rfl⟩)
  have hne := List.lookup_eq_none_iff.mp h _ hmem
  rw [hsame] at hne
  simp at hne

theorem faultAfter?_eq_none_iff (before rest : List Descriptor) (d : Descriptor) :
    faultAfter? before d = none ↔ FineAt (before ++ rest) before.length d := by
  rw [faultAfter?, Option.or_eq_none_iff, Option.map_eq_none_iff, Descriptor.fault?_eq_none_iff]
  constructor
  · rintro ⟨⟨hword, htype⟩, hlookup⟩
    exact ⟨hword, htype, not_heldBy_of_lookup_passed hlookup rest⟩
  · rintro ⟨hword, htype, hfree⟩
    refine ⟨⟨hword, htype⟩, ?_⟩
    cases hlookup : (passed before).lookup (Text.lower d.ident) with
    | none => rfl
    | some name =>
        obtain ⟨earlier, first, hheld, -⟩ := heldBy_of_lookup_passed hlookup rest
        exact absurd hheld (hfree earlier first)

/-- A fault of the descriptor itself is reported whatever stands beside it. -/
theorem Reports.of_fault? {catalog : Catalog} {position : Nat} {d : Descriptor}
    {fault : CatalogFault} (h : d.fault? position = some fault) :
    Reports catalog position d fault := by
  unfold Descriptor.fault? at h
  split at h
  next hblank =>
    cases h
    exact .emptyIdentifier (by simpa [Text.isBlankText] using hblank)
  next hblank =>
    split at h
    next hword =>
      cases h
      -- What is not blank is not empty, so some character keeps it from being a word.
      have hshown : ∃ c ∈ d.ident.toList, Text.isBlank c = false := by
        simpa [Text.isBlankText] using hblank
      have hne : d.ident ≠ "" := by
        rintro hempty
        simp [hempty] at hshown
      refine .invalidIdentifier hshown ?_
      rw [Bool.not_eq_true', ← Bool.not_eq_true, Descriptor.isIdentifier_iff] at hword
      simpa [Descriptor.HasWord, hne] using hword
    next hword =>
      split at h
      next htype =>
        cases h
        rw [Bool.not_eq_true, Bool.not_eq_false', Descriptor.isIdentifier_iff] at hword
        exact .emptyType hword (by simpa [Text.isBlankText] using htype)
      · contradiction

/-- A report tells the fault of the descriptor itself or else the holder of its table name. -/
theorem Reports.own_or_held {catalog : Catalog} {position : Nat} {d : Descriptor}
    {fault : CatalogFault} (h : catalog.Reports position d fault) :
    d.fault? position = some fault ∨
      d.fault? position = none ∧ ∃ earlier first, catalog.HeldBy position d earlier first ∧
        (∀ other holder, catalog.HeldBy position d other holder → other = earlier) ∧
        fault = .duplicateTable d.ident first.ident := by
  cases h with
  | emptyIdentifier blank =>
      have hblank : Text.isBlankText d.ident = true := by simpa [Text.isBlankText] using blank
      exact Or.inl (by simp [Descriptor.fault?, hblank])
  | invalidIdentifier shown foreign =>
      have hblank : Text.isBlankText d.ident = false := by simpa [Text.isBlankText] using shown
      have hword : isIdentifier d.ident = false := by
        rw [← Bool.not_eq_true, Descriptor.isIdentifier_iff]
        rintro ⟨-, hall⟩
        obtain ⟨c, hc, hforeign⟩ := foreign
        exact hforeign (hall c hc)
      exact Or.inl (by simp [Descriptor.fault?, hblank, hword])
  | emptyType word blank =>
      have hword := (Descriptor.isIdentifier_iff d).mpr word
      have hblank : Text.isBlankText d.sqlType = true := by simpa [Text.isBlankText] using blank
      exact Or.inl (by simp [Descriptor.fault?, word.not_isBlankText, hword, hblank])
  | duplicateTable word type earlier first held only =>
      exact Or.inr ⟨(Descriptor.fault?_eq_none_iff position d).mpr ⟨word, type⟩,
        earlier, first, held, only, rfl⟩

theorem Reports.not_fineAt {catalog : Catalog} {position : Nat} {d : Descriptor}
    {fault : CatalogFault} (h : catalog.Reports position d fault) :
    ¬ catalog.FineAt position d := by
  rintro ⟨hword, htype, hfree⟩
  rcases h.own_or_held with hown | ⟨-, earlier, first, hheld, -, -⟩
  · rw [(Descriptor.fault?_eq_none_iff position d).mpr ⟨hword, htype⟩] at hown
    contradiction
  · exact hfree earlier first hheld

theorem Reports.unique {catalog : Catalog} {position : Nat} {d : Descriptor}
    {fault fault' : CatalogFault} (h : catalog.Reports position d fault)
    (h' : catalog.Reports position d fault') : fault = fault' := by
  rcases h.own_or_held with hown | ⟨hown, earlier, first, hheld, honly, rfl⟩ <;>
    rcases h'.own_or_held with hown' | ⟨hown', earlier', first', hheld', -, rfl⟩
  · exact Option.some.inj (hown.symm.trans hown')
  · simp [hown] at hown'
  · simp [hown] at hown'
  · have hposition : earlier' = earlier := honly earlier' first' hheld'
    subst hposition
    have hfirst : first = first' := Option.some.inj (hheld.2.1.symm.trans hheld'.2.1)
    rw [hfirst]

/-- Behind fine positions the fault of one step is the one to be reported: were there two holders
of the table name, the later of them would not be fine. -/
theorem reports_of_faultAfter? {before rest : List Descriptor} {d : Descriptor}
    {fault : CatalogFault}
    (hfine : ∀ i e, i < before.length → (before ++ rest)[i]? = some e → FineAt (before ++ rest) i e)
    (h : faultAfter? before d = some fault) :
    Reports (before ++ rest) before.length d fault := by
  cases hown : d.fault? before.length with
  | some own =>
      rw [faultAfter?, hown, Option.some_or] at h
      cases h
      exact .of_fault? hown
  | none =>
      rw [faultAfter?, hown, Option.none_or] at h
      obtain ⟨name, hlookup, rfl⟩ := Option.map_eq_some_iff.mp h
      obtain ⟨earlier, first, hheld, rfl⟩ := heldBy_of_lookup_passed hlookup rest
      obtain ⟨hword, htype⟩ := (Descriptor.fault?_eq_none_iff _ d).mp hown
      refine .duplicateTable hword htype earlier first hheld ?_
      intro other holder hother
      obtain ⟨hlt, hfirst, hsame⟩ := hheld
      obtain ⟨hlt', hholder, hsame'⟩ := hother
      rcases Nat.lt_trichotomy other earlier with hbelow | rfl | habove
      · exact absurd ⟨hbelow, hholder, hsame.symm.trans hsame'⟩
          ((hfine earlier first hlt hfirst).free other holder)
      · rfl
      · exact absurd ⟨habove, hfirst, hsame'.symm.trans hsame⟩
          ((hfine other holder hlt' hholder).free earlier first)

/-! ## The whole walk -/

/-- What the walk comes to from a position on, where all positions before it are fine. -/
theorem validateFrom_outcome (before rest : List Descriptor)
    (hfine : ∀ i e, i < before.length → (before ++ rest)[i]? = some e →
      FineAt (before ++ rest) i e) :
    match validateFrom (passed before) before.length rest with
    | .ok () => ∀ i e, (before ++ rest)[i]? = some e → FineAt (before ++ rest) i e
    | .error fault => ∃ i d, FirstFault (before ++ rest) i d fault := by
  induction rest generalizing before with
  | nil =>
      intro i e he
      refine hfine i e ?_ he
      simpa using (List.getElem?_eq_some_iff.mp he).1
  | cons d rest ih =>
      have hhere : (before ++ d :: rest)[before.length]? = some d := by simp
      rw [validateFrom_passed_cons]
      cases hstep : faultAfter? before d with
      | some fault =>
          have hreports := reports_of_faultAfter? hfine hstep
          exact ⟨before.length, d, hhere, hreports.not_fineAt, hfine, hreports⟩
      | none =>
          have hlist : before ++ d :: rest = (before ++ [d]) ++ rest := by simp
          have hd := (faultAfter?_eq_none_iff before (d :: rest) d).mp hstep
          rw [hlist] at hfine hhere hd ⊢
          refine ih (before ++ [d]) ?_
          intro i e hi he
          rw [List.length_append, List.length_singleton] at hi
          rcases Nat.lt_succ_iff_lt_or_eq.mp hi with hlt | rfl
          · exact hfine i e hlt he
          · cases Option.some.inj (hhere.symm.trans he)
            exact hd

theorem validate_outcome (catalog : Catalog) :
    match catalog.validate with
    | .ok () => ∀ i d, catalog[i]? = some d → catalog.FineAt i d
    | .error fault => ∃ i d, catalog.FirstFault i d fault := by
  exact validateFrom_outcome [] catalog fun i e hi => absurd hi (Nat.not_lt_zero i)

theorem validate_eq_ok_iff (catalog : Catalog) :
    catalog.validate = .ok () ↔ ∀ i d, catalog[i]? = some d → catalog.FineAt i d := by
  have houtcome := validate_outcome catalog
  cases hvalidate : catalog.validate with
  | ok _ =>
      rw [hvalidate] at houtcome
      exact ⟨fun _ => houtcome, fun _ => rfl⟩
  | error fault =>
      rw [hvalidate] at houtcome
      obtain ⟨i, d, hfirst⟩ := houtcome
      refine ⟨fun h => by contradiction, fun h => ?_⟩
      exact absurd (h i d hfirst.here) hfirst.fails

/-- The descriptors of a valid catalog are fine by themselves. -/
theorem own_of_validate {catalog : Catalog} (hvalid : catalog.validate = .ok ()) :
    ∀ d ∈ catalog, d.HasWord ∧ d.HasType := by
  intro d hd
  obtain ⟨i, hi⟩ := List.mem_iff_getElem?.mp hd
  have hfine := (validate_eq_ok_iff catalog).mp hvalid i d hi
  exact ⟨hfine.word, hfine.type⟩

/-- Only one position can be the first that fails. -/
theorem FirstFault.unique {catalog : Catalog} {i i' : Nat} {d d' : Descriptor}
    {fault fault' : CatalogFault} (h : catalog.FirstFault i d fault)
    (h' : catalog.FirstFault i' d' fault') : fault = fault' := by
  rcases Nat.lt_trichotomy i i' with hlt | rfl | hlt
  · exact absurd (h'.least i d hlt h.here) h.fails
  · cases Option.some.inj (h.here.symm.trans h'.here)
    exact h.reports.unique h'.reports
  · exact absurd (h.least i' d' hlt h'.here) h'.fails

theorem validate_eq_error_iff (catalog : Catalog) (fault : CatalogFault) :
    catalog.validate = .error fault ↔ ∃ i d, catalog.FirstFault i d fault := by
  have houtcome := validate_outcome catalog
  cases hvalidate : catalog.validate with
  | ok _ =>
      rw [hvalidate] at houtcome
      refine ⟨fun h => by contradiction, ?_⟩
      rintro ⟨i, d, hfirst⟩
      exact absurd (houtcome i d hfirst.here) hfirst.fails
  | error other =>
      rw [hvalidate] at houtcome
      obtain ⟨i, d, hother⟩ := houtcome
      constructor
      · rintro ⟨⟩
        exact ⟨i, d, hother⟩
      · rintro ⟨i', d', hfirst⟩
        rw [hother.unique hfirst]

/-- A fault that ends the walk ends it whatever follows. -/
theorem validateFrom_append_of_error {seen : List (String × String)} {position : Nat}
    {ds : List Descriptor} {fault : CatalogFault}
    (h : validateFrom seen position ds = .error fault) (more : List Descriptor) :
    validateFrom seen position (ds ++ more) = .error fault := by
  induction ds generalizing seen position with
  | nil => contradiction
  | cons d ds ih =>
      rw [List.cons_append, validateFrom]
      rw [validateFrom] at h
      split at h
      · simpa using h
      · split at h
        · simpa using h
        · exact ih h

/-- The check passes exactly the catalogs in which every position is fine; otherwise it reports the
first position that is not, by the first of its conditions that fails.  What follows such a position
does not matter. -/
theorem validate_reports_first_fault (catalog : Catalog) :
    (catalog.validate = .ok () ↔ ∀ i d, catalog[i]? = some d → catalog.FineAt i d) ∧
    (∀ fault, catalog.validate = .error fault ↔ ∃ i d, catalog.FirstFault i d fault) ∧
    ∀ (more : Catalog) (fault : CatalogFault), catalog.validate = .error fault →
      (catalog ++ more).validate = .error fault := by
  refine ⟨validate_eq_ok_iff catalog, validate_eq_error_iff catalog, ?_⟩
  intro more fault h
  exact validateFrom_append_of_error h more

end Catalog

end TypeFixtures
