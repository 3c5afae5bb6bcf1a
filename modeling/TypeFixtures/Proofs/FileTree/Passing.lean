import Mathlib.Data.List.Basic
import TypeFixtures.Proofs.FileTree.Ways

/-!
# What the way of a path passes

The way of a path passes the locations that its pieces lead to one after another.  A parent is what
stands before a slash, so its way is a start of the way of the path.  Making a directory and those
around it that are missing therefore adds nothing that the path does not pass, whether it ends well or
not.  Without a step up all that is passed lies around the end of the way.
-/

namespace TypeFixtures.FileTree

variable {tree between later : FileTree} {path home : String} {location reached : Location}

/-- The way of a path passes a location. -/
def Passes (tree : FileTree) (path : String) (location : Location) : Prop :=
  ∃ front rest, FilePath.pieces path = front ++ rest ∧
    tree.walk (tree.start path) front = .ok location

theorem get?_start (tree : FileTree) (path : String) :
    tree.get? (tree.start path) = some .directory := by
  unfold start
  split
  · exact tree.get?_nil
  · exact tree.get?_here

theorem passes_start (tree : FileTree) (path : String) : tree.Passes path (tree.start path) :=
  ⟨[], FilePath.pieces path, rfl, rfl⟩

theorem Grows.passes (h : Grows tree later) (hpasses : tree.Passes path location) :
    later.Passes path location := by
  obtain ⟨front, rest, hpieces, hwalk⟩ := hpasses
  refine ⟨front, rest, hpieces, ?_⟩
  rw [h.start]
  exact h.walk hwalk

namespace Passes

/-- A path without names passes its start only. -/
theorem eq_start (hidle : ∀ piece ∈ FilePath.pieces path, piece = "")
    (h : tree.Passes path location) : location = tree.start path := by
  obtain ⟨front, rest, hpieces, hwalk⟩ := h
  have hfront : ∀ piece ∈ front, piece = "" := fun piece hpiece =>
    hidle piece (hpieces ▸ List.mem_append_left rest hpiece)
  rw [walk_of_idle (tree.get?_start path) hfront] at hwalk
  exact (Except.ok.inj hwalk).symm

/-- What the parent of a path passes, the path passes too. -/
theorem of_parent (hhome : FilePath.parent? path = some home) (h : tree.Passes home location) :
    tree.Passes path location := by
  rcases FilePath.parent?_cases hhome with
    ⟨rfl, hrelative⟩ | ⟨rfl, habsolute⟩ | ⟨hne, rest, hpath⟩
  · have hstart : tree.start path = tree.start "" := by
      rw [start, start, hrelative]
      rfl
    rw [h.eq_start (by decide +kernel), ← hstart]
    exact passes_start tree path
  · have hstart : tree.start path = tree.start "/" := by
      rw [start, start, habsolute]
      rfl
    rw [h.eq_start (by decide +kernel), ← hstart]
    exact passes_start tree path
  · obtain ⟨front, more, hpieces, hwalk⟩ := h
    have hstart : tree.start path = tree.start home := by
      have hnonempty : home.toList ≠ [] := by simpa using hne
      obtain ⟨c, cs, hhead⟩ := List.exists_cons_of_ne_nil hnonempty
      simp [start, FilePath.isAbsolute, hpath, hhead]
    refine ⟨front, more ++ (FilePath.split rest).map String.ofList, ?_, by rwa [hstart]⟩
    rw [FilePath.pieces, hpath, FilePath.split_append_slash, List.map_append, ← List.append_assoc,
      ← hpieces]
    rfl

/-- Without a step up all that is passed lies around the end of the way. -/
theorem suffix (h : tree.Passes path location) (hup : ".." ∉ FilePath.pieces path)
    (hwalk : tree.walk (tree.start path) (FilePath.pieces path) = .ok reached) :
    location <:+ reached := by
  obtain ⟨front, rest, hpieces, hfront⟩ := h
  rw [hpieces] at hwalk hup
  obtain ⟨between, hbetween, hrest⟩ := walk_append_eq_ok hwalk
  cases hbetween.symm.trans hfront
  exact suffix_of_walk (fun hmem => hup (List.mem_append_right front hmem)) hrest

end Passes

/-! ## What making directories adds -/

/-- What is new in a later tree is passed by the way of a path. -/
def AddsOnWay (tree later : FileTree) (path : String) : Prop :=
  ∀ location, tree.get? location = none → later.get? location ≠ none → later.Passes path location

theorem AddsOnWay.refl (tree : FileTree) (path : String) : AddsOnWay tree tree path :=
  fun _ hnone hsome => absurd hnone hsome

theorem AddsOnWay.trans (h : AddsOnWay tree between path) (h' : AddsOnWay between later path)
    (hgrows : Grows between later) : AddsOnWay tree later path := by
  intro location hnone hsome
  by_cases hbetween : between.get? location = none
  · exact h' location hbetween hsome
  · exact hgrows.passes (h location hnone hbetween)

theorem addsOnWay_makeDir (h : tree.makeDir path = .ok later) : AddsOnWay tree later path := by
  obtain ⟨dir, name, hslot, hfree, rfl⟩ := makeDir_eq_ok h
  obtain ⟨-, hdir, hname, before, after, hpieces, hwalk, -⟩ := slot_eq_ok hslot
  have hnot : tree.get? (name :: dir) ≠ some .directory := by simp [hfree]
  have hgrows := grows_place .directory hdir hnot
  have hget := get?_place tree .directory hdir hnot
  intro location hnone hsome
  rw [hget] at hsome
  split at hsome
  next hlocation =>
    subst hlocation
    have hstep : (tree.place dir name .directory).step dir name = .ok (name :: dir) := by
      rw [step_of_name (hgrows.directory dir hdir) hname, if_neg (by simp [hget])]
    refine ⟨before ++ [name], after, by simp [hpieces], ?_⟩
    rw [hgrows.start, walk_append, hgrows.walk hwalk]
    exact walk_cons_of_step hstep
  next => exact absurd hnone hsome

theorem addsOnWay_ensureDir (tree : FileTree) (path : String) :
    AddsOnWay tree (tree.ensureDir path).2 path := by
  unfold ensureDir
  split
  next made hmade => exact addsOnWay_makeDir hmade
  · exact .refl tree path

theorem addsOnWay_makeDirsFrom (depth : Nat) (path : String) (tree : FileTree) :
    AddsOnWay tree (makeDirsFrom depth path tree).2 path := by
  induction depth generalizing path with
  | zero => exact .refl tree path
  | succ depth ih =>
      unfold makeDirsFrom
      split
      · exact .refl tree path
      · split
        next parent _ hparent =>
          have hadds : AddsOnWay tree (makeDirsFrom depth parent tree).2 path :=
            fun location hnone hsome => (ih parent location hnone hsome).of_parent hparent
          split
          next made hmade =>
            rw [hmade] at hadds
            exact hadds.trans (addsOnWay_ensureDir made path)
              (addsDirectories_ensureDir made path).grows
          next made hmade =>
            rw [hmade] at hadds
            exact hadds
        · exact addsOnWay_ensureDir tree path

/-- Nothing is made but what the path passes. -/
theorem addsOnWay_makeDirs (tree : FileTree) (path : String) :
    AddsOnWay tree (tree.makeDirs path).2 path :=
  addsOnWay_makeDirsFrom _ path tree

end TypeFixtures.FileTree
