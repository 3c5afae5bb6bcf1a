import Mathlib.Data.List.Basic
import TypeFixtures.Proofs.FileTree.Directories

/-!
# What changes in a tree

Operations neither take anything away nor make a file of a directory or a directory of a file.  A
file that is new or has another content is one that was written.  So what a whole command changes is
put together from what its parts write.
-/

namespace TypeFixtures.FileTree

variable {tree between later : FileTree} {path : String} {content : Octets}
  {written written' : Location → Octets → Prop}

/-- A later tree has the files and the directories of an earlier one, and a file that is new or has
another content is one that was written. -/
structure WritesOnly (written : Location → Octets → Prop) (tree later : FileTree) : Prop where
  here : later.here = tree.here
  directory : ∀ location, tree.get? location = some .directory →
    later.get? location = some .directory
  file : ∀ location content, tree.get? location = some (.file content) →
    ∃ content', later.get? location = some (.file content')
  changed : ∀ location content, later.get? location = some (.file content) →
    tree.get? location = some (.file content) ∨ written location content

namespace WritesOnly

theorem refl (written : Location → Octets → Prop) (tree : FileTree) :
    WritesOnly written tree tree :=
  ⟨rfl, fun _ h => h, fun _ content h => ⟨content, h⟩, fun _ _ h => .inl h⟩

/-- What is written is allowed to be more. -/
theorem mono (h : WritesOnly written tree later)
    (hmore : ∀ location content, written location content → written' location content) :
    WritesOnly written' tree later :=
  ⟨h.here, h.directory, h.file, fun location content hlater =>
    (h.changed location content hlater).imp_right (hmore location content)⟩

theorem trans (h : WritesOnly written tree between) (h' : WritesOnly written between later) :
    WritesOnly written tree later := by
  refine ⟨h'.here.trans h.here, fun location hdir => ?_, ?_, ?_⟩
  · exact h'.directory location (h.directory location hdir)
  · intro location content hfile
    obtain ⟨content', hbetween⟩ := h.file location content hfile
    exact h'.file location content' hbetween
  · intro location content hlater
    rcases h'.changed location content hlater with hbetween | hwritten
    · exact h.changed location content hbetween
    · exact .inr hwritten

theorem grows (h : WritesOnly written tree later) : Grows tree later := by
  refine ⟨h.here, h.directory, fun location hpresent => ?_⟩
  cases hentry : tree.get? location with
  | none => exact absurd hentry hpresent
  | some entry =>
      cases entry with
      | directory => simp [h.directory location hentry]
      | file content =>
          obtain ⟨content', hlater⟩ := h.file location content hentry
          simp [hlater]

/-- A file that was not written has the content it had. -/
theorem kept (h : WritesOnly written tree later) {location : Location}
    (hfile : tree.get? location = some (.file content)) (hnot : ∀ other, ¬ written location other) :
    later.get? location = some (.file content) := by
  obtain ⟨content', hlater⟩ := h.file location content hfile
  rcases h.changed location content' hlater with hsame | hwritten
  · rw [hlater, ← hsame, hfile]
  · exact absurd hwritten (hnot content')

end WritesOnly

theorem AddsDirectories.writesOnly (h : AddsDirectories tree later)
    (written : Location → Octets → Prop) : WritesOnly written tree later := by
  refine ⟨h.here, fun location => h.kept location .directory, ?_, ?_⟩
  · intro location content hfile
    exact ⟨content, h.kept location (.file content) hfile⟩
  · intro location content hlater
    cases hentry : tree.get? location with
    | none => exact absurd (h.added location _ hentry hlater) (by simp)
    | some entry =>
        have hkept := h.kept location entry hentry
        rw [hlater] at hkept
        exact .inl hkept.symm

/-! ## Writing -/

theorem write_eq_ok (h : tree.write path content = (.ok (), later)) :
    ∃ dir name, tree.slot path .isDirectory (some .isDirectory) = .ok (dir, name) ∧
      tree.get? (name :: dir) ≠ some .directory ∧ later = tree.place dir name (.file content) := by
  unfold write at h
  split at h
  · cases h
  next dir name hslot =>
    split at h
    · cases h
    next hfree => exact ⟨dir, name, hslot, hfree, (Prod.mk.inj h).2.symm⟩

/-- A write that fails changes nothing. -/
theorem write_eq_error {fault : FileFault} (h : tree.write path content = (.error fault, later)) :
    later = tree := by
  unfold write at h
  split at h
  · cases h
    rfl
  · split at h
    · cases h
      rfl
    · cases h

theorem writesOnly_place {dir : Location} {name : String}
    (hdir : tree.get? dir = some .directory) (hfree : tree.get? (name :: dir) ≠ some .directory) :
    WritesOnly (fun location written => location = name :: dir ∧ written = content) tree
      (tree.place dir name (.file content)) := by
  have hget := get?_place tree (.file content) hdir hfree
  refine ⟨here_place tree dir name _, ?_, ?_, ?_⟩
  · exact (grows_place (.file content) hdir hfree).directory
  · intro location old hold
    rw [hget]
    split
    · exact ⟨content, rfl⟩
    · exact ⟨old, hold⟩
  · intro location new hnew
    rw [hget] at hnew
    split at hnew
    next hlocation =>
      cases hnew
      exact .inr ⟨hlocation, rfl⟩
    · exact .inl hnew

/-- A write that went well has written the file that its path leads to. -/
theorem writesOnly_write (h : tree.write path content = (.ok (), later)) :
    WritesOnly (fun location written => later.resolve path = .ok location ∧ written = content)
      tree later := by
  obtain ⟨dir, name, hslot, hfree, rfl⟩ := write_eq_ok h
  have hresolve := (resolve_place (.file content) hslot hfree (.inl rfl)).1
  refine (writesOnly_place (slot_eq_ok hslot).2.1 hfree).mono ?_
  rintro location _ ⟨rfl, rfl⟩
  exact ⟨hresolve, rfl⟩

/-- What is read of a path is what stands where it leads. -/
theorem read_eq_content_iff {bytes : Octets} :
    tree.read path = .content bytes ↔
      ∃ location, tree.resolve path = .ok location ∧ tree.get? location = some (.file bytes) := by
  unfold read
  cases tree.resolve path with
  | error fault => simp
  | ok location =>
      cases hentry : tree.get? location with
      | none => simp [hentry]
      | some entry => cases entry <;> simp [hentry]

/-- A path that led somewhere leads there still. -/
theorem Grows.resolve (h : Grows tree later) {location : Location}
    (hresolve : tree.resolve path = .ok location) : later.resolve path = .ok location := by
  obtain ⟨hfault, hwalk⟩ := resolve_eq_ok hresolve
  rw [FileTree.resolve, hfault, h.start]
  exact h.walk hwalk

end TypeFixtures.FileTree
