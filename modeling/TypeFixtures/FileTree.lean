import TypeFixtures.Receiver

/-!
# File trees

A tree holds files and directories.  Whatever is in it lies in a directory that is in it too, and so
does the directory that relative paths start from.
-/

namespace TypeFixtures

/-- The names on the way to a file or directory, the last one first.  The root has none. -/
abbrev Location := List String

/-- What stands at a location. -/
inductive Entry where
  | directory
  | file (content : Octets)
  deriving DecidableEq, Repr

namespace FileTree

/-- What a list of entries holds at a location; the root is always a directory. -/
def find (entries : List (Location × Entry)) : Location → Option Entry
  | [] => some .directory
  | location => entries.lookup location

theorem find_cons (entries : List (Location × Entry)) (name : String) (dir : Location) :
    find entries (name :: dir) = entries.lookup (name :: dir) := rfl

/-- Put an entry at a location, in place of what stood there. -/
def put (entries : List (Location × Entry)) (location : Location) (entry : Entry) :
    List (Location × Entry) :=
  (location, entry) :: entries.filter fun e => e.1 != location

/-- Take a location and all below it away. -/
def cut (entries : List (Location × Entry)) (location : Location) : List (Location × Entry) :=
  entries.filter fun e => !location.isSuffixOf e.1

theorem lookup_filter_of_true {p : Location → Bool} {l : Location} (h : p l = true)
    (entries : List (Location × Entry)) :
    (entries.filter fun e => p e.1).lookup l = entries.lookup l := by
  induction entries with
  | nil => rfl
  | cons e rest ih =>
      obtain ⟨k, v⟩ := e
      by_cases hk : l = k
      · subst hk
        simp [List.filter, h]
      · have hb : (l == k) = false := by simpa using hk
        cases hp : p k <;> simp [List.filter, hp, List.lookup_cons, hb, ih]

theorem lookup_filter_of_false {p : Location → Bool} {l : Location} (h : p l = false)
    (entries : List (Location × Entry)) :
    (entries.filter fun e => p e.1).lookup l = none := by
  induction entries with
  | nil => rfl
  | cons e rest ih =>
      obtain ⟨k, v⟩ := e
      by_cases hk : l = k
      · subst hk
        simp [List.filter, h, ih]
      · have hb : (l == k) = false := by simpa using hk
        cases hp : p k <;> simp [List.filter, hp, List.lookup_cons, hb, ih]

theorem find_put_self (entries : List (Location × Entry)) (name : String) (dir : Location)
    (entry : Entry) : find (put entries (name :: dir) entry) (name :: dir) = some entry := by
  simp [find_cons, put]

theorem find_put_of_ne {entries : List (Location × Entry)} {location l : Location}
    (entry : Entry) (h : l ≠ location) :
    find (put entries location entry) l = find entries l := by
  cases l with
  | nil => rfl
  | cons name dir =>
      have hb : ((name :: dir) == location) = false := by simpa using h
      simp only [find_cons, put, List.lookup_cons, hb]
      exact lookup_filter_of_true (p := fun k => k != location) (by simpa using h) entries

theorem find_cut_of_not_isSuffix {entries : List (Location × Entry)} {location l : Location}
    (h : location.isSuffixOf l = false) : find (cut entries location) l = find entries l := by
  cases l with
  | nil => rfl
  | cons name dir =>
      exact lookup_filter_of_true (p := fun k => !location.isSuffixOf k) (by simp [h]) entries

theorem find_cut_of_isSuffix {entries : List (Location × Entry)} {location : Location}
    {name : String} {dir : Location} (h : location.isSuffixOf (name :: dir) = true) :
    find (cut entries location) (name :: dir) = none := by
  exact lookup_filter_of_false (p := fun k => !location.isSuffixOf k) (by simp [h]) entries

end FileTree

/-- Files and directories, and the directory that relative paths start from. -/
structure FileTree where
  entries : List (Location × Entry)
  here : Location
  closed : ∀ name dir, (FileTree.find entries (name :: dir)).isSome →
    FileTree.find entries dir = some .directory
  standing : FileTree.find entries here = some .directory

namespace FileTree

/-- What stands at a location. -/
def get? (tree : FileTree) (location : Location) : Option Entry :=
  find tree.entries location

/-- Nothing but an empty directory to start from. -/
def fresh (name : String) : FileTree where
  entries := [([name], .directory)]
  here := [name]
  closed := by
    intro other dir h
    cases dir with
    | nil => rfl
    | cons next rest => simp [find_cons, List.lookup_cons] at h
  standing := by simp [find_cons]

/-- Put an entry into a directory.  Nothing changes where there is no such directory or another
directory stands in the place. -/
def place (tree : FileTree) (dir : Location) (name : String) (entry : Entry) : FileTree :=
  if h : tree.get? dir = some .directory ∧ tree.get? (name :: dir) ≠ some .directory then
    { entries := put tree.entries (name :: dir) entry
      here := tree.here
      closed := by
        intro other around found
        have free : ∀ l, find tree.entries l = some .directory → l ≠ name :: dir :=
          fun l hl same => h.2 (by rw [← same]; exact hl)
        by_cases same : other :: around = name :: dir
        · have around_eq : around = dir := (List.cons.inj same).2
          rw [around_eq, find_put_of_ne entry (free dir h.1)]
          exact h.1
        · rw [find_put_of_ne entry same] at found
          have below := tree.closed other around found
          rw [find_put_of_ne entry (free around below)]
          exact below
      standing := by
        have free : tree.here ≠ name :: dir :=
          fun same => h.2 (by rw [← same]; exact tree.standing)
        rw [find_put_of_ne entry free]
        exact tree.standing }
  else tree

/-- Take away what stands at a location with all below it.  The directory that relative paths start
from and those around it stay. -/
def remove (tree : FileTree) (location : Location) : FileTree :=
  if h : location.isSuffixOf tree.here = false then
    { entries := cut tree.entries location
      here := tree.here
      closed := by
        intro name dir found
        cases hs : location.isSuffixOf (name :: dir) with
        | true => simp [find_cut_of_isSuffix hs] at found
        | false =>
            have hd : location.isSuffixOf dir = false := by
              cases hd : location.isSuffixOf dir with
              | false => rfl
              | true =>
                  have below : location <:+ dir := List.isSuffixOf_iff_suffix.mp hd
                  have : location.isSuffixOf (name :: dir) = true :=
                    List.isSuffixOf_iff_suffix.mpr (below.trans (List.suffix_cons name dir))
                  simp [hs] at this
            rw [find_cut_of_not_isSuffix hs] at found
            rw [find_cut_of_not_isSuffix hd]
            exact tree.closed name dir found
      standing := by
        rw [find_cut_of_not_isSuffix h]
        exact tree.standing }
  else tree

/-- Everything below the directory that relative paths start from, each with its relative path. -/
def below (tree : FileTree) : List (String × Entry) :=
  tree.entries.filterMap fun e =>
    if tree.here.isSuffixOf e.1 && e.1 != tree.here then
      some ("/".intercalate (e.1.take (e.1.length - tree.here.length)).reverse, e.2)
    else none

@[simp] theorem get?_nil (tree : FileTree) : tree.get? [] = some .directory := rfl

theorem get?_tail (tree : FileTree) {name : String} {dir : Location} {entry : Entry}
    (h : tree.get? (name :: dir) = some entry) : tree.get? dir = some .directory :=
  tree.closed name dir (by simpa [get?] using Option.isSome_iff_exists.mpr ⟨entry, h⟩)

theorem get?_here (tree : FileTree) : tree.get? tree.here = some .directory := tree.standing

theorem get?_place (tree : FileTree) {dir : Location} {name : String} (entry : Entry)
    (hdir : tree.get? dir = some .directory) (hfree : tree.get? (name :: dir) ≠ some .directory)
    (l : Location) :
    (tree.place dir name entry).get? l = if l = name :: dir then some entry else tree.get? l := by
  have h : tree.get? dir = some .directory ∧ tree.get? (name :: dir) ≠ some .directory :=
    ⟨hdir, hfree⟩
  have placed : (tree.place dir name entry).entries = put tree.entries (name :: dir) entry := by
    rw [place, dif_pos h]
  simp only [get?, placed]
  by_cases same : l = name :: dir
  · subst same
    rw [if_pos rfl]
    exact find_put_self tree.entries name dir entry
  · rw [if_neg same]
    exact find_put_of_ne entry same

@[simp] theorem here_place (tree : FileTree) (dir : Location) (name : String) (entry : Entry) :
    (tree.place dir name entry).here = tree.here := by
  unfold place
  split <;> rfl

end FileTree

end TypeFixtures
