import Mathlib.Data.List.TakeWhile
import TypeFixtures.FileTree.Access

/-!
# Reading what was written

A write puts one file into a directory that is there already.  The tree grows by it: every way that
could be gone before leads to the same place afterwards.  So the way to the directory is still open,
and the path that was written leads to the new content.
-/

namespace TypeFixtures.FileTree

/-! ## Paths that can be used -/

theorem utf8ByteSize_eq_add {path : String} {front back : List Char}
    (h : path.toList = front ++ back) :
    path.utf8ByteSize = (String.ofList front).utf8ByteSize + (String.ofList back).utf8ByteSize := by
  rw [← String.ofList_toList (s := path), h, String.ofList_append, String.utf8ByteSize_append]

theorem pathFault?_eq_none_iff {path : String} :
    pathFault? path = none ↔
      '\x00' ∉ path.toList ∧ path ≠ "" ∧ path.utf8ByteSize ≤ pathLimit := by
  unfold pathFault?
  split_ifs with hnul hempty hlong
  · simp only [List.contains_eq_mem, decide_eq_true_eq] at hnul
    exact ⟨nofun, fun h => absurd hnul h.1⟩
  · exact ⟨nofun, fun h => absurd hempty h.2.1⟩
  · exact ⟨nofun, fun h => absurd h.2.2 (by omega)⟩
  · simp only [List.contains_eq_mem, decide_eq_true_eq] at hnul
    exact ⟨fun _ => ⟨hnul, hempty, by omega⟩, fun _ => rfl⟩

/-! ## Ways -/

/-- Where one piece of a path leads from a location. -/
def step (tree : FileTree) (location : Location) (piece : String) : Except FileFault Location :=
  if tree.get? location ≠ some .directory then .error .notDirectory
  else if piece = "" || piece = "." then .ok location
  else if piece = ".." then .ok location.tail
  else if nameLimit < piece.utf8ByteSize then .error .nameTooLong
  else if tree.get? (piece :: location) = none then .error .missing
  else .ok (piece :: location)

theorem walk_cons (tree : FileTree) (location : Location) (piece : String) (rest : List String) :
    tree.walk location (piece :: rest) =
      match tree.step location piece with
      | .ok next => tree.walk next rest
      | .error fault => .error fault := by
  rw [walk, step]
  split_ifs <;> rfl

theorem walk_append (tree : FileTree) (location : Location) (first second : List String) :
    tree.walk location (first ++ second) =
      match tree.walk location first with
      | .ok reached => tree.walk reached second
      | .error fault => .error fault := by
  induction first generalizing location with
  | nil => rfl
  | cons piece rest ih =>
      rw [List.cons_append, walk_cons, walk_cons]
      cases tree.step location piece with
      | ok next => exact ih next
      | error fault => rfl

/-- A name of its own leads one level down, if something stands there. -/
theorem step_of_name {tree : FileTree} {dir : Location} {name : String}
    (hdir : tree.get? dir = some .directory)
    (hname : name ≠ "" ∧ name ≠ "." ∧ name ≠ ".." ∧ name.utf8ByteSize ≤ nameLimit) :
    tree.step dir name =
      if tree.get? (name :: dir) = none then .error .missing else .ok (name :: dir) := by
  obtain ⟨hempty, hdot, hup, hshort⟩ := hname
  have hnot : ¬ nameLimit < name.utf8ByteSize := by omega
  simp [step, hdir, hempty, hdot, hup, hnot]

/-- Empty names lead nowhere else. -/
theorem walk_of_idle {tree : FileTree} {location : Location} {pieces : List String}
    (hdirectory : tree.get? location = some .directory) (hidle : ∀ piece ∈ pieces, piece = "") :
    tree.walk location pieces = .ok location := by
  induction pieces with
  | nil => rfl
  | cons piece rest ih =>
      have hpiece : piece = "" := hidle piece List.mem_cons_self
      have hstep : tree.step location piece = .ok location := by
        simp [step, hdirectory, hpiece]
      rw [walk_cons, hstep]
      exact ih fun next hnext => hidle next (List.mem_cons_of_mem piece hnext)

/-- A later tree has all places of an earlier one, and its directories are directories still. -/
structure Grows (tree later : FileTree) : Prop where
  here : later.here = tree.here
  directory : ∀ location, tree.get? location = some .directory →
    later.get? location = some .directory
  present : ∀ location, tree.get? location ≠ none → later.get? location ≠ none

theorem Grows.step {tree later : FileTree} (h : Grows tree later) {location next : Location}
    {piece : String} (hstep : tree.step location piece = .ok next) :
    later.step location piece = .ok next := by
  unfold FileTree.step at hstep ⊢
  by_cases hdirectory : tree.get? location = some .directory
  · rw [if_neg (not_not.mpr hdirectory)] at hstep
    rw [if_neg (not_not.mpr (h.directory location hdirectory))]
    -- Only a piece that names nothing new leads on where there is nothing below.
    by_cases hpresent : tree.get? (piece :: location) = none
    · simp only [hpresent, if_true] at hstep
      split at hstep
      next hidle => rw [if_pos hidle]; exact hstep
      next hidle =>
        split at hstep
        next hup => rw [if_neg hidle, if_pos hup]; exact hstep
        · split at hstep <;> contradiction
    · simp only [hpresent, h.present _ hpresent, if_false] at hstep ⊢
      exact hstep
  · rw [if_pos hdirectory] at hstep
    contradiction

theorem Grows.walk {tree later : FileTree} (h : Grows tree later) {location reached : Location}
    {pieces : List String} (hwalk : tree.walk location pieces = .ok reached) :
    later.walk location pieces = .ok reached := by
  induction pieces generalizing location with
  | nil => exact hwalk
  | cons piece rest ih =>
      rw [walk_cons] at hwalk ⊢
      cases hstep : tree.step location piece with
      | error fault =>
          rw [hstep] at hwalk
          contradiction
      | ok next =>
          rw [hstep] at hwalk
          rw [h.step hstep]
          exact ih hwalk

theorem Grows.start {tree later : FileTree} (h : Grows tree later) (path : String) :
    later.start path = tree.start path := by
  simp [FileTree.start, h.here]

theorem grows_place {tree : FileTree} {dir : Location} {name : String} (entry : Entry)
    (hdir : tree.get? dir = some .directory) (hfree : tree.get? (name :: dir) ≠ some .directory) :
    Grows tree (tree.place dir name entry) := by
  refine ⟨here_place tree dir name entry, ?_, ?_⟩
  · intro location hlocation
    rw [get?_place tree entry hdir hfree, if_neg]
    · exact hlocation
    · rintro rfl
      exact hfree hlocation
  · intro location hlocation
    rw [get?_place tree entry hdir hfree]
    split
    · simp
    · exact hlocation

/-! ## Places for something new -/

/-- The last piece that is not idle, with what stands before and after it. -/
theorem eq_append_of_dropWhile_reverse {pieces before : List String} {last : String}
    (h : pieces.reverse.dropWhile (· = "") = last :: before) :
    last ≠ "" ∧ ∃ after, pieces = before.reverse ++ last :: after ∧
      (∀ piece ∈ after, piece = "") ∧ (pieces.reverse.head? ≠ some "" → after = []) := by
  let idle := pieces.reverse.takeWhile (· = "")
  have hsplit : idle ++ last :: before = pieces.reverse := by
    rw [← h]
    exact List.takeWhile_append_dropWhile
  have hpieces : pieces = before.reverse ++ last :: idle.reverse := by
    have hreverse := congrArg List.reverse hsplit
    rw [List.reverse_reverse] at hreverse
    rw [← hreverse]
    simp
  have hidle : ∀ piece ∈ idle, piece = "" := by
    intro piece hpiece
    simpa using List.mem_takeWhile_imp hpiece
  refine ⟨?_, idle.reverse, hpieces, fun piece hpiece => hidle piece (by simpa using hpiece), ?_⟩
  · have hhead := List.head_dropWhile_not (fun piece : String => decide (piece = ""))
      (l := pieces.reverse) (by simp [h])
    simpa [h] using hhead
  · intro hlast
    cases hempty : idle with
    | nil => rfl
    | cons piece rest =>
        have hpiece := hidle piece (by simp [hempty])
        rw [← hsplit, hempty, hpiece] at hlast
        exact absurd rfl hlast

/-- A place for something new lies in a directory that the path leads to before its last name. -/
theorem slot_eq_ok {tree : FileTree} {path : String} {own : FileFault} {slash : Option FileFault}
    {dir : Location} {name : String} (h : tree.slot path own slash = .ok (dir, name)) :
    pathFault? path = none ∧ tree.get? dir = some .directory ∧
      (name ≠ "" ∧ name ≠ "." ∧ name ≠ ".." ∧ name.utf8ByteSize ≤ nameLimit) ∧
      ∃ before after, FilePath.pieces path = before ++ name :: after ∧
        tree.walk (tree.start path) before = .ok dir ∧
        (∀ piece ∈ after, piece = "") ∧ (slash.isSome → after = []) := by
  unfold slot at h
  cases hfault : pathFault? path with
  | some fault => simp [hfault] at h
  | none =>
      cases hnames : (FilePath.pieces path).reverse.dropWhile (· = "") with
      | nil => simp [hfault, hnames] at h
      | cons last before =>
          obtain ⟨hlast, after, hpieces, hidle, hafter⟩ := eq_append_of_dropWhile_reverse hnames
          cases hwalk : tree.walk (tree.start path) before.reverse with
          | error fault => simp [hfault, hnames, hwalk] at h
          | ok reached =>
              simp only [hfault, hnames, hwalk] at h
              split at h
              · contradiction
              next hdirectory =>
                split at h
                · contradiction
                next hdots =>
                  split at h
                  · contradiction
                  next hslash =>
                    split at h
                    · contradiction
                    next hlong =>
                      cases h
                      simp only [Bool.or_eq_true, decide_eq_true_eq, not_or] at hdots
                      refine ⟨rfl, not_not.mp hdirectory, ⟨hlast, hdots.1, hdots.2, by omega⟩,
                        before.reverse, after, hpieces, hwalk, hidle, ?_⟩
                      intro hsome
                      obtain ⟨fault, hsome⟩ := Option.isSome_iff_exists.mp hsome
                      exact hafter fun hhead => hslash fault (by simp [hhead]) hsome

/-- A name behind the way to a directory is a place for something new. -/
theorem slot_of_walk {tree : FileTree} {path name : String} {before : List String} {dir : Location}
    (own : FileFault) (slash : Option FileFault) (hfault : pathFault? path = none)
    (hpieces : FilePath.pieces path = before ++ [name])
    (hname : name ≠ "" ∧ name ≠ "." ∧ name ≠ ".." ∧ name.utf8ByteSize ≤ nameLimit)
    (hwalk : tree.walk (tree.start path) before = .ok dir)
    (hdir : tree.get? dir = some .directory) : tree.slot path own slash = .ok (dir, name) := by
  obtain ⟨hempty, hdot, hup, hshort⟩ := hname
  have hlong : ¬ nameLimit < name.utf8ByteSize := by omega
  have hnames : (FilePath.pieces path).reverse.dropWhile (· = "") = name :: before.reverse := by
    simp [hpieces, hempty]
  have hlast : ((FilePath.pieces path).reverse.head? == some "") = false := by
    simp [hpieces, hempty]
  unfold slot
  simp only [hfault, hnames, List.reverse_reverse, hwalk, hdir, hdot, hup, hlast, hlong]
  rfl

/-- A place is still there when the tree has grown. -/
theorem Grows.slot {tree later : FileTree} (h : Grows tree later) {path name : String}
    {own fault : FileFault} {dir : Location}
    (hslot : tree.slot path own (some fault) = .ok (dir, name)) :
    later.slot path own (some fault) = .ok (dir, name) := by
  obtain ⟨hfault, hdir, hname, before, after, hpieces, hwalk, -, hafter⟩ := slot_eq_ok hslot
  rw [hafter rfl] at hpieces
  refine slot_of_walk own _ hfault hpieces hname ?_ (h.directory dir hdir)
  rw [h.start]
  exact h.walk hwalk

/-- Something that stands at the place of a path is where the path leads. -/
theorem resolve_of_slot {tree : FileTree} {path name : String} {own fault : FileFault}
    {dir : Location} (hslot : tree.slot path own (some fault) = .ok (dir, name))
    (hthere : tree.get? (name :: dir) ≠ none) : tree.resolve path = .ok (name :: dir) := by
  obtain ⟨hfault, hdir, hname, before, after, hpieces, hwalk, -, hafter⟩ := slot_eq_ok hslot
  rw [hafter rfl] at hpieces
  rw [resolve, hfault, hpieces]
  change tree.walk _ (before ++ [name]) = _
  rw [walk_append, hwalk]
  change tree.walk dir [name] = _
  rw [walk_cons, step_of_name hdir hname, if_neg hthere]
  rfl

theorem write_of_slot {tree : FileTree} {path name : String} {dir : Location} (content : Octets)
    (hslot : tree.slot path .isDirectory (some .isDirectory) = .ok (dir, name))
    (hfree : tree.get? (name :: dir) ≠ some .directory) :
    tree.write path content = (.ok (), tree.place dir name (.file content)) := by
  simp only [write, hslot, hfree, if_false]

/-- What is put into the place of a path is where the path leads afterwards.  Idle names may follow
behind a directory only. -/
theorem resolve_place {tree : FileTree} {path : String} {own : FileFault} {slash : Option FileFault}
    {dir : Location} {name : String} (entry : Entry)
    (hslot : tree.slot path own slash = .ok (dir, name))
    (hfree : tree.get? (name :: dir) ≠ some .directory)
    (hend : slash.isSome ∨ entry = .directory) :
    (tree.place dir name entry).resolve path = .ok (name :: dir) ∧
      (tree.place dir name entry).get? (name :: dir) = some entry := by
  obtain ⟨hfault, hdir, hname, before, after, hpieces, hwalk, hidle, hafter⟩ := slot_eq_ok hslot
  have hgrows := grows_place entry hdir hfree
  have hentry : (tree.place dir name entry).get? (name :: dir) = some entry := by
    rw [get?_place tree entry hdir hfree, if_pos rfl]
  have hstep : (tree.place dir name entry).step dir name = .ok (name :: dir) := by
    rw [step_of_name (hgrows.directory dir hdir) hname, if_neg (by simp [hentry])]
  have hrest : (tree.place dir name entry).walk (name :: dir) after = .ok (name :: dir) := by
    rcases hend with hslash | rfl
    · rw [hafter hslash]
      rfl
    · exact walk_of_idle hentry hidle
  refine ⟨?_, hentry⟩
  -- The way to the directory is open still, and one more step leads to the entry.
  rw [resolve, hfault, hpieces, hgrows.start]
  change (tree.place dir name entry).walk _ (before ++ name :: after) = _
  rw [walk_append, hgrows.walk hwalk]
  change (tree.place dir name entry).walk dir (name :: after) = _
  rw [walk_cons, hstep]
  exact hrest

/-- The path of a write that went well leads to the content that was written. -/
theorem read_of_write {tree later : FileTree} {path : String} {content : Octets}
    (h : tree.write path content = (.ok (), later)) : later.read path = .content content := by
  unfold write at h
  cases hslot : tree.slot path .isDirectory (some .isDirectory) with
  | error fault => simp [hslot] at h
  | ok place =>
      obtain ⟨dir, name⟩ := place
      simp only [hslot] at h
      split at h
      · simp at h
      next hfree =>
        obtain ⟨-, rfl⟩ := Prod.mk.inj h
        obtain ⟨hresolve, hentry⟩ := resolve_place (.file content) hslot hfree (.inl rfl)
        simp [read, hresolve, hentry]

end TypeFixtures.FileTree
