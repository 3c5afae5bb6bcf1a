import Mathlib.Data.List.Basic
import TypeFixtures.Proofs.FileTree.Written

/-!
# Making directories

Making directories changes nothing that is there and adds directories only.  When it ends well the
path leads to a directory, and if the path led to one before, the tree is the one it was.
-/

namespace TypeFixtures.FileTree

variable {tree later : FileTree} {path : String}

/-- A later tree has all of an earlier one as it was, and beyond that directories at most. -/
structure AddsDirectories (tree later : FileTree) : Prop where
  here : later.here = tree.here
  kept : ∀ location entry, tree.get? location = some entry → later.get? location = some entry
  added : ∀ location entry, tree.get? location = none → later.get? location = some entry →
    entry = .directory

namespace AddsDirectories

theorem refl (tree : FileTree) : AddsDirectories tree tree := by
  refine ⟨rfl, fun _ _ h => h, ?_⟩
  intro location entry hnone hsome
  rw [hnone] at hsome
  contradiction

theorem trans {between : FileTree} (h : AddsDirectories tree between)
    (h' : AddsDirectories between later) : AddsDirectories tree later := by
  refine ⟨h'.here.trans h.here, fun location entry hentry => ?_, ?_⟩
  · exact h'.kept location entry (h.kept location entry hentry)
  · intro location entry hnone hsome
    cases hbetween : between.get? location with
    | none => exact h'.added location entry hbetween hsome
    | some other =>
        have hother := h.added location other hnone hbetween
        have hkept := h'.kept location other hbetween
        rw [hsome] at hkept
        rw [Option.some.inj hkept, hother]

theorem grows (h : AddsDirectories tree later) : Grows tree later := by
  refine ⟨h.here, fun location => h.kept location .directory, fun location hpresent => ?_⟩
  obtain ⟨entry, hentry⟩ := Option.ne_none_iff_exists'.mp hpresent
  simp [h.kept location entry hentry]

end AddsDirectories

theorem addsDirectories_place {dir : Location} {name : String}
    (hdir : tree.get? dir = some .directory) (hfree : tree.get? (name :: dir) = none) :
    AddsDirectories tree (tree.place dir name .directory) := by
  have hnot : tree.get? (name :: dir) ≠ some .directory := by simp [hfree]
  have hget := get?_place tree .directory hdir hnot
  refine ⟨here_place tree dir name .directory, ?_, ?_⟩
  · intro location entry hentry
    rw [hget, if_neg]
    · exact hentry
    · rintro rfl
      rw [hfree] at hentry
      contradiction
  · intro location entry hnone hsome
    rw [hget] at hsome
    split at hsome
    · exact (Option.some.inj hsome).symm
    · rw [hnone] at hsome
      contradiction

/-! ## What making a directory adds -/

theorem makeDir_eq_ok (h : tree.makeDir path = .ok later) :
    ∃ dir name, tree.slot path .present none = .ok (dir, name) ∧
      tree.get? (name :: dir) = none ∧ later = tree.place dir name .directory := by
  unfold makeDir at h
  split at h
  · contradiction
  next dir name hslot =>
    split at h
    next hfree => exact ⟨dir, name, hslot, hfree, (Except.ok.inj h).symm⟩
    · contradiction

theorem addsDirectories_makeDir (h : tree.makeDir path = .ok later) :
    AddsDirectories tree later := by
  obtain ⟨dir, name, hslot, hfree, rfl⟩ := makeDir_eq_ok h
  exact addsDirectories_place (slot_eq_ok hslot).2.1 hfree

theorem addsDirectories_ensureDir (tree : FileTree) (path : String) :
    AddsDirectories tree (tree.ensureDir path).2 := by
  unfold ensureDir
  split
  next made hmade => exact addsDirectories_makeDir hmade
  · exact .refl tree

theorem addsDirectories_makeDirsFrom (depth : Nat) (path : String) (tree : FileTree) :
    AddsDirectories tree (makeDirsFrom depth path tree).2 := by
  induction depth generalizing path with
  | zero => exact .refl tree
  | succ depth ih =>
      unfold makeDirsFrom
      split
      · exact .refl tree
      · split
        next parent _ _ =>
          have hparent := ih parent
          split
          next made hmade =>
            rw [hmade] at hparent
            exact hparent.trans (addsDirectories_ensureDir made path)
          next made hmade =>
            rw [hmade] at hparent
            exact hparent
        · exact addsDirectories_ensureDir tree path

theorem addsDirectories_makeDirs (tree : FileTree) (path : String) :
    AddsDirectories tree (tree.makeDirs path).2 :=
  addsDirectories_makeDirsFrom _ path tree

/-! ## Where the path leads afterwards -/

theorem isDirectory_iff :
    tree.isDirectory path = true ↔
      ∃ location, tree.resolve path = .ok location ∧ tree.get? location = some .directory := by
  unfold isDirectory
  cases tree.resolve path with
  | error fault => simp
  | ok location => simp

theorem isDirectory_of_makeDir (h : tree.makeDir path = .ok later) :
    later.isDirectory path = true := by
  obtain ⟨dir, name, hslot, hfree, rfl⟩ := makeDir_eq_ok h
  have hnot : tree.get? (name :: dir) ≠ some .directory := by simp [hfree]
  exact isDirectory_iff.mpr ⟨name :: dir, resolve_place .directory hslot hnot (.inr rfl)⟩

theorem isDirectory_of_ensureDir (h : tree.ensureDir path = (.ok (), later)) :
    later.isDirectory path = true := by
  unfold ensureDir at h
  split at h
  next made hmade =>
    cases h
    exact isDirectory_of_makeDir hmade
  · split at h
    next hdirectory =>
      cases h
      exact hdirectory
    · cases h

theorem isDirectory_of_makeDirsFrom {depth : Nat} (hpath : path ≠ "")
    (h : makeDirsFrom depth path tree = (.ok (), later)) : later.isDirectory path = true := by
  cases depth with
  | zero => cases h
  | succ depth =>
      unfold makeDirsFrom at h
      rw [if_neg hpath] at h
      split at h
      · split at h
        next made _ => exact isDirectory_of_ensureDir h
        · cases h
      · exact isDirectory_of_ensureDir h

theorem isDirectory_of_makeDirs (hpath : path ≠ "") (h : tree.makeDirs path = (.ok (), later)) :
    later.isDirectory path = true :=
  isDirectory_of_makeDirsFrom hpath h

/-! ## Directories that are there -/

theorem walk_append_eq_ok {location reached : Location} {first second : List String}
    (h : tree.walk location (first ++ second) = .ok reached) :
    ∃ between, tree.walk location first = .ok between ∧
      tree.walk between second = .ok reached := by
  rw [walk_append] at h
  cases hfirst : tree.walk location first with
  | error fault =>
      rw [hfirst] at h
      contradiction
  | ok between =>
      rw [hfirst] at h
      exact ⟨between, rfl, h⟩

theorem resolve_eq_ok {location : Location} (h : tree.resolve path = .ok location) :
    pathFault? path = none ∧
      tree.walk (tree.start path) (FilePath.pieces path) = .ok location := by
  unfold resolve at h
  split at h
  · contradiction
  next hfault => exact ⟨hfault, h⟩

/-- Nothing new can be made where the path leads already. -/
theorem makeDir_ne_ok {location : Location} (h : tree.resolve path = .ok location) :
    tree.makeDir path ≠ .ok later := by
  intro hmade
  obtain ⟨dir, name, hslot, hfree, -⟩ := makeDir_eq_ok hmade
  obtain ⟨-, hdir, hname, before, after, hpieces, hwalk, -⟩ := slot_eq_ok hslot
  obtain ⟨-, hway⟩ := resolve_eq_ok h
  rw [hpieces] at hway
  obtain ⟨between, hbetween, hrest⟩ := walk_append_eq_ok hway
  cases hbetween.symm.trans hwalk
  -- The way goes on by the name that is said to be free.
  rw [walk_cons, step_of_name hdir hname, if_pos hfree] at hrest
  contradiction

/-- No directory on the way is missing where the path leads already. -/
theorem slot_ne_missing {location : Location} (h : tree.resolve path = .ok location) :
    tree.slot path .present none ≠ .error .missing := by
  obtain ⟨hfault, hway⟩ := resolve_eq_ok h
  unfold slot
  cases hnames : (FilePath.pieces path).reverse.dropWhile (· = "") with
  | nil => simp [hfault, hnames]
  | cons last before =>
      obtain ⟨-, after, hpieces, -, -⟩ := eq_append_of_dropWhile_reverse hnames
      rw [hpieces] at hway
      obtain ⟨between, hbetween, -⟩ := walk_append_eq_ok hway
      simp only [hfault, hnames, hbetween]
      split
      · simp
      · split
        · simp
        · split
          next hslash => cases hslash
          · split <;> simp

theorem makeDir_ne_missing {location : Location} (h : tree.resolve path = .ok location) :
    tree.makeDir path ≠ .error .missing := by
  unfold makeDir
  split
  next fault hslot =>
    rintro ⟨rfl⟩
    exact slot_ne_missing h hslot
  · split <;> simp

theorem ensureDir_of_isDirectory (h : tree.isDirectory path = true) :
    tree.ensureDir path = (.ok (), tree) := by
  obtain ⟨location, hresolve, -⟩ := isDirectory_iff.mp h
  unfold ensureDir
  split
  next made hmade => exact absurd hmade (makeDir_ne_ok hresolve)
  · rw [if_pos h]

theorem makeDirs_of_isDirectory (h : tree.isDirectory path = true) :
    tree.makeDirs path = (.ok (), tree) := by
  obtain ⟨location, hresolve, -⟩ := isDirectory_iff.mp h
  unfold makeDirs makeDirsFrom
  split
  · rfl
  · split
    next hmissing _ => exact absurd hmissing (makeDir_ne_missing hresolve)
    · exact ensureDir_of_isDirectory h

end TypeFixtures.FileTree
