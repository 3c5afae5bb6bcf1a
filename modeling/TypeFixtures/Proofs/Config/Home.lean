import Mathlib.Data.List.Basic
import TypeFixtures.Proofs.Config.Reading
import TypeFixtures.Proofs.FileTree.Ways

/-!
# Paths seen from the directory of a project

A project is read by way of a directory, and its paths are seen from the parent of its file.  That
parent is the directory without the slashes and dots at its end that mean nothing.  So a path leads
to the same place from both, unless it is too long to be used when it is seen from the directory as
it was given.
-/

namespace TypeFixtures

namespace FileTree

/-- A path that leaves something out of another one can be used if the other one can. -/
theorem pathFault?_of_shorter {path path' : String} {front more tail : List Char}
    (hpath : path.toList = front ++ more ++ tail) (hpath' : path'.toList = front ++ tail)
    (hne : path' ≠ "") (h : pathFault? path = none) : pathFault? path' = none := by
  obtain ⟨hnul, -, hshort⟩ := pathFault?_eq_none_iff.mp h
  refine pathFault?_eq_none_iff.mpr ⟨?_, hne, ?_⟩
  · rw [hpath] at hnul
    rw [hpath']
    simp only [List.mem_append, not_or] at hnul ⊢
    exact ⟨hnul.1.1, hnul.2⟩
  · have hsize := utf8ByteSize_eq_add hpath
    have hfront : (String.ofList (front ++ more)).utf8ByteSize =
        (String.ofList front).utf8ByteSize + (String.ofList more).utf8ByteSize := by
      rw [String.ofList_append, String.utf8ByteSize_append]
    have hsize' := utf8ByteSize_eq_add hpath'
    omega

end FileTree

namespace Config

variable {tree : FileTree} {location : Location} {directory inner : String}

theorem pieceStep?_projectFile :
    FilePath.pieceStep? projectFile = some (.name projectFile) := by
  decide +kernel

theorem home_empty : home (some "") = "" := by
  decide +kernel

/-- A path seen from the directory that a project is read by is written like one seen from the given
directory, but for some slashes and dots that are left out. -/
theorem pathFault?_join_home (hinner : FilePath.isAbsolute inner = false)
    (h : FileTree.pathFault? (FilePath.join directory inner) = none) :
    FileTree.pathFault? (FilePath.join (home (some directory)) inner) = none := by
  by_cases hempty : directory = ""
  · rwa [hempty, home_empty, ← hempty]
  · obtain ⟨parent, hparent, hne, -⟩ := FilePath.parent?_join hempty isName_projectFile
    have hhome : home (some directory) = parent := by
      rw [home, projectPath, hparent, Option.getD_some]
    obtain ⟨front, -, hjoin⟩ := FilePath.exists_toList_join hempty
    obtain ⟨front', hfront', hjoin'⟩ := FilePath.exists_toList_join hne
    have hnonempty : FilePath.join parent inner ≠ "" := by
      intro hnone
      have hlist := hjoin' inner hinner
      simp [hnone] at hlist
    have hproject := hjoin _ isName_projectFile.not_isAbsolute
    rw [hhome]
    rcases FilePath.isPrefix_toList_parent? isName_projectFile hproject hparent with hprefix | hroot
    -- The parent starts the given directory, or it is the root, and the path follows right after it.
    · have hstart : front' <+: front := by
        refine List.IsPrefix.trans ?_ hprefix
        rcases hfront' with hfront' | hfront'
        · exact hfront' ▸ List.prefix_rfl
        · exact hfront' ▸ List.prefix_append _ _
      obtain ⟨more, rfl⟩ := hstart
      exact FileTree.pathFault?_of_shorter (hjoin inner hinner) (hjoin' inner hinner) hnonempty h
    · have hslash : (FilePath.join parent inner).toList = [] ++ '/' :: inner.toList := by
        simp [hroot, FilePath.join, hinner]
      exact FileTree.pathFault?_of_shorter (hjoin inner hinner) hslash hnonempty h

/-- A name is found by way of the directory that a project is read by. -/
theorem resolve_join_home {name : String} (hname : FilePath.IsName name.toList)
    (hstep : FilePath.pieceStep? name ≠ none)
    (h : tree.resolve (FilePath.join directory name) = .ok location) :
    tree.resolve (FilePath.join (home (some directory)) name) = .ok location := by
  obtain ⟨before, -, hpieces⟩ := FilePath.exists_pieces_join (home (some directory))
  exact FileTree.resolve_of_steps_eq (steps_join_home (some directory) name).symm
    (hpieces name hname) hstep
    (pathFault?_join_home hname.not_isAbsolute (FileTree.resolve_eq_ok h).1) h

/-- Behind a directory that holds a project file every path that can be used leads where it leads
from the directory that the project is read by. -/
theorem resolve_join_home_eq (hproject : tree.resolve (projectPath (some directory)) = .ok location)
    (hfault : FileTree.pathFault? (FilePath.join directory inner) = none) :
    tree.resolve (FilePath.join (home (some directory)) inner) =
      tree.resolve (FilePath.join directory inner) := by
  cases hinner : FilePath.isAbsolute inner with
  | true => rw [FilePath.join_of_isAbsolute hinner, FilePath.join_of_isAbsolute hinner]
  | false =>
      obtain ⟨before, -, hjoin⟩ := FilePath.exists_pieces_join_relative directory
      obtain ⟨before', -, hjoin'⟩ :=
        FilePath.exists_pieces_join_relative (home (some directory))
      have hpiece : FilePath.pieces projectFile = [projectFile] := by decide +kernel
      have hpieces := hjoin projectFile isName_projectFile.not_isAbsolute
      have hpieces' := hjoin' projectFile isName_projectFile.not_isAbsolute
      rw [hpiece] at hpieces hpieces'
      -- Both ways to the project file come by the same directory.
      have hhome := resolve_join_home isName_projectFile (by rw [pieceStep?_projectFile]; simp)
        hproject
      obtain ⟨-, -, dir, hwalk, rfl⟩ := FileTree.resolve_join_eq_ok isName_projectFile
        pieceStep?_projectFile hpieces hproject
      obtain ⟨-, -, dir', hwalk', hsame⟩ := FileTree.resolve_join_eq_ok isName_projectFile
        pieceStep?_projectFile hpieces' hhome
      obtain rfl := (List.cons.inj hsame).2
      rw [FileTree.resolve, FileTree.resolve, hfault, pathFault?_join_home hinner hfault,
        hjoin inner hinner, hjoin' inner hinner, FileTree.start_join tree _ hinner,
        FileTree.start_join tree _ hinner]
      change tree.walk _ (before' ++ _) = tree.walk _ (before ++ _)
      rw [FileTree.walk_append, FileTree.walk_append, hwalk, hwalk']

end Config

end TypeFixtures
