import Mathlib.Data.List.Basic
import TypeFixtures.Proofs.FilePath.Pieces
import TypeFixtures.Proofs.FileTree.Directories

/-!
# Ways that lead to the same place

A way without a step up only goes down, so it passes nothing but the directories around its end.  If
these are there, the way is open, whatever other tree it was found in.  Idle pieces on a way make no
difference to where it leads, so two paths with the same steps and a name at their end lead to the
same place.
-/

namespace TypeFixtures.FileTree

variable {tree later : FileTree} {path : String} {location reached next : Location}
  {pieces : List String}

theorem step_eq_ok {piece : String} (h : tree.step location piece = .ok next) :
    tree.get? location = some .directory ∧
      ((FilePath.pieceStep? piece = none ∧ next = location) ∨ (piece = ".." ∧ next = location.tail) ∨
        (FilePath.pieceStep? piece = some (.name piece) ∧ piece.utf8ByteSize ≤ nameLimit ∧
          tree.get? (piece :: location) ≠ none ∧ next = piece :: location)) := by
  unfold step at h
  split at h
  · cases h
  next hdir =>
    refine ⟨not_not.mp hdir, ?_⟩
    split at h
    next hidle =>
      cases h
      exact .inl ⟨by simp [FilePath.pieceStep?, hidle], rfl⟩
    next hidle =>
      split at h
      next hup =>
        cases h
        exact .inr (.inl ⟨hup, rfl⟩)
      next hup =>
        split at h
        · cases h
        next hlong =>
          split at h
          · cases h
          next hthere =>
            cases h
            exact .inr (.inr ⟨by simp [FilePath.pieceStep?, hidle, hup], by omega, hthere, rfl⟩)

/-- An idle piece stays where it is. -/
theorem step_of_idle {piece : String} (hdir : tree.get? location = some .directory)
    (hidle : FilePath.pieceStep? piece = none) : tree.step location piece = .ok location := by
  unfold FilePath.pieceStep? at hidle
  split at hidle
  next hpiece => simp only [step, hdir, hpiece, ne_eq, not_true_eq_false, if_false, if_true]
  · split at hidle <;> cases hidle

theorem walk_cons_eq_ok {piece : String} (h : tree.walk location (piece :: pieces) = .ok reached) :
    ∃ next, tree.step location piece = .ok next ∧ tree.walk next pieces = .ok reached := by
  rw [walk_cons] at h
  cases hstep : tree.step location piece with
  | error fault =>
      rw [hstep] at h
      cases h
  | ok next =>
      rw [hstep] at h
      exact ⟨next, rfl, h⟩

theorem walk_cons_of_step {piece : String} (h : tree.step location piece = .ok next) :
    tree.walk location (piece :: pieces) = tree.walk next pieces := by
  rw [walk_cons, h]

/-! ## Ways down -/

/-- A way without two dots goes down only. -/
theorem suffix_of_walk (hup : ".." ∉ pieces) (h : tree.walk location pieces = .ok reached) :
    location <:+ reached := by
  induction pieces generalizing location with
  | nil =>
      cases h
      exact List.suffix_refl _
  | cons piece rest ih =>
      obtain ⟨next, hstep, hrest⟩ := walk_cons_eq_ok h
      have hbelow := ih (fun hmem => hup (List.mem_cons_of_mem piece hmem)) hrest
      obtain ⟨-, ⟨-, hsame⟩ | ⟨rfl, -⟩ | ⟨-, -, -, rfl⟩⟩ := step_eq_ok hstep
      · rwa [hsame] at hbelow
      · exact absurd List.mem_cons_self hup
      · exact (List.suffix_cons piece _).trans hbelow

/-- What a directory lies in is a directory. -/
theorem get?_of_suffix (h : location <:+ reached) (hdir : tree.get? reached = some .directory) :
    tree.get? location = some .directory := by
  obtain ⟨names, rfl⟩ := h
  induction names with
  | nil => exact hdir
  | cons name names ih => exact ih (tree.get?_tail hdir)

/-- A way down that is open in some tree is open wherever its end is a directory. -/
theorem walk_of_walk (hup : ".." ∉ pieces) (h : later.walk location pieces = .ok reached)
    (hdir : tree.get? reached = some .directory) : tree.walk location pieces = .ok reached := by
  induction pieces generalizing location with
  | nil => exact h
  | cons piece rest ih =>
      have hrest : ".." ∉ rest := fun hmem => hup (List.mem_cons_of_mem piece hmem)
      obtain ⟨next, hstep, hwalk⟩ := walk_cons_eq_ok h
      -- Both ends of the step lie around the end of the way, so the step finds the same there.
      have hthere : tree.get? next = some .directory :=
        get?_of_suffix (suffix_of_walk hrest hwalk) hdir
      have hhere : tree.get? location = some .directory :=
        get?_of_suffix (suffix_of_walk hup h) hdir
      have hsame : tree.step location piece = later.step location piece := by
        obtain ⟨hlater, ⟨hidle, -⟩ | ⟨rfl, -⟩ | ⟨-, -, hfound, rfl⟩⟩ := step_eq_ok hstep
        · rw [step_of_idle hhere hidle, step_of_idle hlater hidle]
        · simp [step, hhere, hlater]
        · have hthere' : tree.get? (piece :: location) ≠ none := by simp [hthere]
          simp only [step, hhere, hlater, hfound, hthere', if_false]
      rw [walk_cons_of_step (hsame.trans hstep)]
      exact ih hrest hwalk

/-! ## Idle pieces -/

/-- Without its idle pieces a way leads to the same place. -/
theorem walk_active (h : tree.walk location pieces = .ok reached) :
    tree.walk location (FilePath.active pieces) = .ok reached := by
  induction pieces generalizing location with
  | nil => exact h
  | cons piece rest ih =>
      obtain ⟨next, hstep, hrest⟩ := walk_cons_eq_ok h
      have hnext := ih hrest
      cases hpiece : FilePath.pieceStep? piece with
      | none =>
          obtain ⟨-, ⟨-, rfl⟩ | ⟨rfl, -⟩ | ⟨hname, -⟩⟩ := step_eq_ok hstep
          · simpa [FilePath.active, hpiece] using hnext
          · cases hpiece
          · rw [hpiece] at hname
            cases hname
      | some step =>
          have hactive : FilePath.active (piece :: rest) = piece :: FilePath.active rest := by
            simp [FilePath.active, hpiece]
          rw [hactive, walk_cons_of_step hstep]
          exact hnext

/-- Idle pieces in front of a name can be put in. -/
theorem walk_of_active {name : String} (hname : FilePath.pieceStep? name ≠ none)
    (h : tree.walk location (FilePath.active (pieces ++ [name])) = .ok reached) :
    tree.walk location (pieces ++ [name]) = .ok reached := by
  have hlast : FilePath.active [name] = [name] := by
    cases hstep : FilePath.pieceStep? name with
    | none => exact absurd hstep hname
    | some step => simp [FilePath.active, hstep]
  have hsplit : ∀ rest, FilePath.active (rest ++ [name]) = FilePath.active rest ++ [name] := by
    intro rest
    rw [FilePath.active, List.filter_append]
    exact congrArg _ hlast
  induction pieces generalizing location with
  | nil =>
      rw [List.nil_append, hlast] at h
      exact h
  | cons piece rest ih =>
      cases hpiece : FilePath.pieceStep? piece with
      | none =>
          have hactive : FilePath.active (piece :: rest ++ [name]) =
              FilePath.active (rest ++ [name]) := by
            simp [FilePath.active, hpiece]
          rw [hactive] at h
          -- The next piece that is not idle asks for a directory, and there is one at the end.
          have hdir : tree.get? location = some .directory := by
            obtain ⟨first, others, hfirst⟩ :=
              List.exists_cons_of_ne_nil (l := FilePath.active (rest ++ [name])) (by simp [hsplit])
            rw [hfirst] at h
            obtain ⟨next, hstep, -⟩ := walk_cons_eq_ok h
            exact (step_eq_ok hstep).1
          rw [List.cons_append, walk_cons_of_step (step_of_idle hdir hpiece)]
          exact ih h
      | some step =>
          have hactive : FilePath.active (piece :: rest ++ [name]) =
              piece :: FilePath.active (rest ++ [name]) := by
            simp [FilePath.active, hpiece]
          rw [hactive] at h
          obtain ⟨next, hstep, hrest⟩ := walk_cons_eq_ok h
          rw [List.cons_append, walk_cons_of_step hstep]
          exact ih hrest

/-- Two paths that go the same way to a name lead to the same place. -/
theorem resolve_of_steps_eq {path' name : String} {before : List String}
    (hsteps : FilePath.steps path = FilePath.steps path')
    (hpieces : FilePath.pieces path' = before ++ [name]) (hname : FilePath.pieceStep? name ≠ none)
    (hfault : pathFault? path' = none) (h : tree.resolve path = .ok location) :
    tree.resolve path' = .ok location := by
  obtain ⟨-, hwalk⟩ := resolve_eq_ok h
  have hstart : tree.start path = tree.start path' := by
    have habsolute : FilePath.isAbsolute path = FilePath.isAbsolute path' := by
      rw [Bool.eq_iff_iff, FilePath.isAbsolute_iff_root_mem, FilePath.isAbsolute_iff_root_mem,
        hsteps]
    rw [start, start, habsolute]
  have hactive := walk_active hwalk
  rw [FilePath.active_pieces_eq_of_steps_eq hsteps, hpieces, hstart] at hactive
  rw [resolve, hfault, hpieces]
  exact walk_of_active hname hactive

theorem start_join (tree : FileTree) (path : String) {inner : String}
    (hinner : FilePath.isAbsolute inner = false) :
    tree.start (FilePath.join path inner) = tree.start path := by
  rw [start, start, FilePath.isAbsolute_join path hinner]

/-- The way to a name in a directory is the way of the directory and one step more. -/
theorem resolve_join_eq_ok {name : String} {before : List String}
    (hname : FilePath.IsName name.toList) (hstep : FilePath.pieceStep? name = some (.name name))
    (hpieces : FilePath.pieces (FilePath.join path name) = before ++ [name])
    (h : tree.resolve (FilePath.join path name) = .ok location) :
    pathFault? (FilePath.join path name) = none ∧ name.utf8ByteSize ≤ nameLimit ∧
      ∃ dir, tree.walk (tree.start path) before = .ok dir ∧ location = name :: dir := by
  obtain ⟨hfault, hwalk⟩ := resolve_eq_ok h
  rw [hpieces, start_join tree path hname.not_isAbsolute] at hwalk
  obtain ⟨dir, hdir, hlast⟩ := walk_append_eq_ok hwalk
  obtain ⟨next, hnext, hend⟩ := walk_cons_eq_ok hlast
  cases hend
  obtain ⟨-, ⟨hidle, -⟩ | ⟨rfl, -⟩ | ⟨-, hshort, -, rfl⟩⟩ := step_eq_ok hnext
  · rw [hstep] at hidle
    cases hidle
  · cases hstep
  · exact ⟨hfault, hshort, dir, hdir, rfl⟩

end TypeFixtures.FileTree
