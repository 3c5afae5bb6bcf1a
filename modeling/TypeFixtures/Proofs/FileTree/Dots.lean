import Mathlib.Data.List.Basic
import TypeFixtures.Proofs.FileTree.Ways

/-!
# Dots that mean nothing

A dot and a slash before a relative path make no difference to where it leads, and neither do any
number of slashes behind the dot.  They make the path longer, however, and a path that is too long
leads nowhere.
-/

namespace TypeFixtures

/-- A name in the working directory, behind a dot and any number of slashes. -/
def FilePath.dotted (count : Nat) (name : String) : String :=
  String.ofList ('.' :: (List.replicate count '/' ++ name.toList))

namespace FilePath

variable {name : String}

theorem toList_dotted (count : Nat) (name : String) :
    (dotted count name).toList = '.' :: (List.replicate count '/' ++ name.toList) :=
  String.toList_ofList

theorem isAbsolute_dotted (count : Nat) (name : String) :
    isAbsolute (dotted count name) = false := by
  rw [isAbsolute, toList_dotted]
  rfl

theorem pieces_dotted (count : Nat) (hname : IsName name.toList) :
    pieces (dotted (count + 1) name) = "." :: (List.replicate count "" ++ [name]) := by
  have hslashes : ∀ count, split (List.replicate count '/' ++ name.toList) =
      List.replicate count [] ++ [name.toList] := by
    intro count
    induction count with
    | zero => exact split_of_slash_not_mem hname.slash_not_mem
    | succ count ih =>
        rw [List.replicate_succ, List.cons_append, split, if_pos rfl, ih]
        rfl
  rw [pieces, toList_dotted, split, if_neg (by decide), List.replicate_succ, List.cons_append,
    split, if_pos rfl, hslashes]
  simp

theorem utf8ByteSize_dotted (count : Nat) (name : String) :
    (dotted count name).utf8ByteSize = 1 + count + name.utf8ByteSize := by
  have hslashes : (String.ofList (List.replicate count '/')).utf8ByteSize = count := by
    induction count with
    | zero => rfl
    | succ count ih =>
        rw [List.replicate_succ', String.ofList_append, String.utf8ByteSize_append, ih]
        rfl
  have hsplit : (dotted count name).toList = ('.' :: List.replicate count '/') ++ name.toList := by
    rw [toList_dotted, List.cons_append]
  have hfront : (String.ofList ('.' :: List.replicate count '/')).utf8ByteSize = 1 + count := by
    rw [← List.singleton_append, String.ofList_append, String.utf8ByteSize_append, hslashes]
    rfl
  rw [FileTree.utf8ByteSize_eq_add hsplit, hfront, String.ofList_toList]

theorem mem_dotted {count : Nat} {c : Char} (h : c ∈ (dotted count name).toList) :
    c = '.' ∨ c = '/' ∨ c ∈ name.toList := by
  rw [toList_dotted, List.mem_cons, List.mem_append] at h
  obtain h | h | h := h
  · exact .inl h
  · exact .inr (.inl (List.eq_of_mem_replicate h))
  · exact .inr (.inr h)

end FilePath

namespace FileTree

variable {tree : FileTree} {path : String}

/-! ## A dot before a path -/

/-- Two paths lead to the same place in every tree, also where something new is put there. -/
def SamePlace (path path' : String) : Prop :=
  ∀ tree : FileTree, tree.resolve path' = tree.resolve path ∧
    ∀ content, tree.write path' content = tree.write path content

theorem SamePlace.refl (path : String) : SamePlace path path :=
  fun _ => ⟨rfl, fun _ => rfl⟩

/-- A path that is not empty and that the two octets before it do not make too long, unless it is
too long by itself.  Nothing comes before a path that starts at the root. -/
structure BearsDot (path : String) : Prop where
  ne_empty : path ≠ ""
  short : FilePath.isAbsolute path = false → path.utf8ByteSize ≤ pathLimit →
    path.utf8ByteSize + 2 ≤ pathLimit

theorem toList_dot (path : String) : ("./" ++ path).toList = '.' :: '/' :: path.toList := by
  rw [String.toList_append]
  rfl

theorem pieces_dot (path : String) :
    FilePath.pieces ("./" ++ path) = "." :: FilePath.pieces path := by
  rw [FilePath.pieces, toList_dot]
  rfl

theorem pathFault?_dot (hne : path ≠ "")
    (hshort : path.utf8ByteSize ≤ pathLimit → path.utf8ByteSize + 2 ≤ pathLimit) :
    pathFault? ("./" ++ path) = pathFault? path := by
  have hsize : ("./" ++ path).utf8ByteSize = path.utf8ByteSize + 2 := by
    rw [String.utf8ByteSize_append, Nat.add_comm]
    rfl
  have hnul : ("./" ++ path).toList.contains '\x00' = path.toList.contains '\x00' := by
    rw [toList_dot]
    simp
  have hnonempty : "./" ++ path ≠ "" := by
    intro hempty
    have hlist := toList_dot path
    simp [hempty] at hlist
  have hlong : pathLimit < path.utf8ByteSize + 2 ↔ pathLimit < path.utf8ByteSize := by omega
  simp only [pathFault?, hnul, hnonempty, hne, hsize, hlong, if_false]

theorem start_of_relative (tree : FileTree) (hpath : FilePath.isAbsolute path = false) :
    tree.start path = tree.here := by
  simp [start, hpath]

theorem isAbsolute_dot (path : String) : FilePath.isAbsolute ("./" ++ path) = false := by
  rw [FilePath.isAbsolute, toList_dot]
  rfl

/-- A dot is a step that leads nowhere. -/
theorem walk_dot (tree : FileTree) (pieces : List String) :
    tree.walk tree.here ("." :: pieces) = tree.walk tree.here pieces :=
  walk_cons_of_step (step_of_idle tree.get?_here rfl)

/-- The same is found of a place for something new. -/
theorem slot_dot (tree : FileTree) (hne : path ≠ "") (hpath : FilePath.isAbsolute path = false)
    (hfault : pathFault? ("./" ++ path) = pathFault? path) (own : FileFault)
    (slash : Option FileFault) : tree.slot ("./" ++ path) own slash = tree.slot path own slash := by
  obtain ⟨piece, rest, hpiece, hpieces⟩ := FilePath.exists_pieces_eq_cons hne hpath
  have hfront : (FilePath.pieces path).reverse.dropWhile (· = "") ≠ [] := by
    intro hnone
    have hidle := List.dropWhile_eq_nil_iff.mp hnone piece (by simp [hpieces])
    exact hpiece (by simpa using hidle)
  obtain ⟨last, before, hnames⟩ := List.exists_cons_of_ne_nil hfront
  have hnames' : (FilePath.pieces ("./" ++ path)).reverse.dropWhile (· = "") =
      last :: (before ++ ["."]) := by
    rw [pieces_dot, List.reverse_cons, List.dropWhile_append, hnames]
    rfl
  have hhead : (FilePath.pieces ("./" ++ path)).reverse.head? =
      (FilePath.pieces path).reverse.head? := by
    rw [pieces_dot, List.reverse_cons, hpieces]
    simp
  have hwalk : tree.walk (tree.start ("./" ++ path)) (before ++ ["."]).reverse =
      tree.walk (tree.start path) before.reverse := by
    rw [start_of_relative tree (isAbsolute_dot path), start_of_relative tree hpath,
      List.reverse_append]
    exact walk_dot tree before.reverse
  unfold slot
  simp only [hfault, hnames, hnames', hhead, hwalk]

theorem BearsDot.samePlace (h : BearsDot path) (hpath : FilePath.isAbsolute path = false) :
    SamePlace path ("./" ++ path) := by
  have hfault := pathFault?_dot h.ne_empty (h.short hpath)
  refine fun tree => ⟨?_, fun content => ?_⟩
  · rw [resolve, resolve, hfault, pieces_dot, start_of_relative tree (isAbsolute_dot path),
      start_of_relative tree hpath, walk_dot]
  · rw [write, write, slot_dot tree h.ne_empty hpath hfault]

/-- A path that is too long leads nowhere. -/
theorem isThere_of_long (tree : FileTree) (h : pathLimit < path.utf8ByteSize) :
    tree.isThere path = false := by
  have hfault : pathFault? path ≠ none := by
    intro hnone
    have hshort := (pathFault?_eq_none_iff.mp hnone).2.2
    omega
  obtain ⟨fault, hfault⟩ := Option.ne_none_iff_exists'.mp hfault
  simp only [isThere, resolve, hfault]
  rfl

/-! ## Slashes behind a dot -/

theorem pathFault?_dotted {count : Nat} {name : String} (hnul : '\x00' ∉ name.toList)
    (hsize : 1 + count + name.utf8ByteSize ≤ pathLimit) :
    pathFault? (FilePath.dotted count name) = none := by
  refine pathFault?_eq_none_iff.mpr ⟨fun hmem => ?_, fun hempty => ?_, ?_⟩
  · obtain hdot | hslash | hmem := FilePath.mem_dotted hmem
    · cases hdot
    · cases hslash
    · exact hnul hmem
  · have hlist := FilePath.toList_dotted count name
    simp [hempty] at hlist
  · rwa [FilePath.utf8ByteSize_dotted]

/-- Such a path leads to the name in the working directory. -/
theorem resolve_dotted {tree : FileTree} {name : String} (count : Nat)
    (hname : FilePath.IsName name.toList)
    (hfault : pathFault? (FilePath.dotted (count + 1) name) = none)
    (hproper : name ≠ "" ∧ name ≠ "." ∧ name ≠ ".." ∧ name.utf8ByteSize ≤ nameLimit)
    (hthere : tree.get? (name :: tree.here) ≠ none) :
    tree.resolve (FilePath.dotted (count + 1) name) = .ok (name :: tree.here) := by
  have hidle : tree.walk tree.here (List.replicate count "") = .ok tree.here :=
    walk_of_idle tree.get?_here fun piece hpiece => List.eq_of_mem_replicate hpiece
  rw [resolve, hfault, FilePath.pieces_dotted count hname,
    start_of_relative tree (FilePath.isAbsolute_dotted _ name), walk_dot]
  change tree.walk tree.here (List.replicate count "" ++ [name]) = _
  rw [walk_append, hidle]
  change tree.walk tree.here [name] = _
  rw [walk_cons, step_of_name tree.get?_here hproper, if_neg hthere]
  rfl

end FileTree

end TypeFixtures
