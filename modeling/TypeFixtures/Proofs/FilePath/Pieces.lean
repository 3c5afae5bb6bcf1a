import Mathlib.Data.List.Basic
import TypeFixtures.Proofs.FilePath.Steps

/-!
# Pieces of joined paths

A name that is joined to a directory is the last piece of the path, behind the pieces of the
directory.  The pieces that make a step can be told from the steps, and the parent of a name is
written with the start of the path before the name.
-/

namespace TypeFixtures.FilePath

/-! ## Pieces that make a step -/

/-- The pieces that make a step, without the idle ones. -/
def active (pieces : List String) : List String :=
  pieces.filter fun piece => (pieceStep? piece).isSome

/-- What is written for a step. -/
def Step.piece : Step → String
  | .up => ".."
  | .name text => text
  | _ => ""

theorem piece_of_pieceStep? {piece : String} {step : Step} (h : pieceStep? piece = some step) :
    step.piece = piece := by
  unfold pieceStep? at h
  split at h
  · cases h
  · split at h
    next hup =>
      cases h
      exact hup.symm
    · cases h
      rfl

theorem ne_of_pieceStep? {piece name : String} (h : pieceStep? piece = some (.name name)) :
    piece ≠ "" ∧ piece ≠ "." ∧ piece ≠ ".." := by
  refine ⟨?_, ?_, ?_⟩ <;> rintro rfl <;> cases h

theorem map_piece_filterMap (pieces : List String) :
    (pieces.filterMap pieceStep?).map Step.piece = active pieces := by
  induction pieces with
  | nil => rfl
  | cons piece rest ih =>
      cases hstep : pieceStep? piece with
      | none => simpa [active, hstep] using ih
      | some step =>
          have hpiece := piece_of_pieceStep? hstep
          simpa [active, hstep, hpiece] using ih

/-- No step of a piece is that of a head. -/
theorem not_head_of_mem_named {cs : List Char} {step : Step} (h : step ∈ named cs) :
    step ≠ .root ∧ step ≠ .here := by
  obtain ⟨piece, -, hstep⟩ := List.mem_filterMap.mp h
  unfold pieceStep? at hstep
  split at hstep
  · cases hstep
  · split at hstep <;> cases hstep <;> simp

/-- A path starts at the root exactly if its way does. -/
theorem isAbsolute_iff_root_mem (path : String) :
    isAbsolute path = true ↔ Step.root ∈ steps path := by
  have hnamed : Step.root ∉ named path.toList := fun h => (not_head_of_mem_named h).1 rfl
  rw [isAbsolute_iff, steps_eq, List.mem_append, or_iff_left hnamed]
  cases path.toList with
  | nil => simp [headStep, splitHead]
  | cons c cs =>
      by_cases hslash : c = '/'
      · subst hslash
        simp [headStep, splitHead]
      by_cases hdot : c = '.'
      · subst hdot
        cases cs with
        | nil => simp [headStep, splitHead]
        | cons next cs =>
            by_cases hnext : next = '/'
            · subst hnext
              simp [headStep, splitHead]
            · simp [headStep_dotted hnext]
      · simp [headStep_name hslash hdot, hslash]

/-- The pieces that make a step are told by the way alone. -/
theorem active_pieces_eq_of_steps_eq {path path' : String} (h : steps path = steps path') :
    active (pieces path) = active (pieces path') := by
  -- The head of a path gives at most one of two steps, which no piece gives.
  let tail (way : List Step) : List Step := way.filter fun step => step != .root && step != .here
  have htail : ∀ path : String, tail (steps path) = named path.toList := by
    intro path
    have hnamed : tail (named path.toList) = named path.toList := by
      refine List.filter_eq_self.mpr fun step hstep => ?_
      obtain ⟨hroot, hhere⟩ := not_head_of_mem_named hstep
      simp [hroot, hhere]
    have hhead : tail (headStep path.toList) = [] := by
      unfold headStep
      split_ifs <;> rfl
    simp only [tail] at hnamed hhead ⊢
    rw [steps_eq, List.filter_append, hhead, hnamed, List.nil_append]
  have hnamed : named path.toList = named path'.toList := by
    rw [← htail, ← htail, h]
  have hmap := congrArg (List.map Step.piece) hnamed
  rwa [named, named, map_piece_filterMap, map_piece_filterMap] at hmap

/-! ## Names in a directory -/

theorem split_of_slash_not_mem {cs : List Char} (h : '/' ∉ cs) : split cs = [cs] := by
  induction cs with
  | nil => rfl
  | cons c cs ih =>
      have hc : c ≠ '/' := fun hc => h (by simp [hc])
      have hcs : '/' ∉ cs := fun hcs => h (List.mem_cons_of_mem c hcs)
      simp [split, hc, ih hcs]

theorem IsName.not_isAbsolute {name : String} (h : IsName name.toList) :
    isAbsolute name = false := by
  rw [← Bool.not_eq_true, isAbsolute_iff]
  rintro ⟨rest, hrest⟩
  exact h.slash_not_mem (by simp [hrest])

/-- What is seen from a directory starts where the directory does. -/
theorem isAbsolute_join (path : String) {inner : String} (hinner : isAbsolute inner = false) :
    isAbsolute (join path inner) = isAbsolute path := by
  by_cases hpath : path = ""
  · subst hpath
    have hjoin : join "" inner = inner := by simp [join]
    rw [hjoin, hinner]
    rfl
  · obtain ⟨front, hjoin, hfront⟩ := toList_join hpath hinner
    have hempty : path.toList ≠ [] := by simpa using hpath
    unfold isAbsolute
    rw [hjoin]
    rcases hfront with hfront | hfront <;> rw [hfront] at hempty ⊢ <;> cases front <;> simp_all

/-- What comes before the slash of a join is the directory without a last slash, whatever is seen
from there. -/
theorem exists_toList_join {path : String} (hpath : path ≠ "") :
    ∃ front : List Char, (path.toList = front ∨ path.toList = front ++ ['/']) ∧
      ∀ inner : String, isAbsolute inner = false →
        (join path inner).toList = front ++ '/' :: inner.toList := by
  by_cases hlast : path.toList.getLast? = some '/'
  · obtain ⟨front, hfront⟩ := List.getLast?_eq_some_iff.mp hlast
    refine ⟨front, .inr hfront, fun inner hinner => ?_⟩
    simp [join, hinner, hpath, hfront]
  · refine ⟨path.toList, .inl rfl, fun inner hinner => ?_⟩
    simp [join, hinner, hpath, hlast]

/-- What is seen from a directory stands behind the same pieces, which are those of the directory
but for an empty one at the end. -/
theorem exists_pieces_join_relative (path : String) :
    ∃ before, (pieces path = before ∨ pieces path = before ++ [""]) ∧
      ∀ inner : String, isAbsolute inner = false →
        pieces (join path inner) = before ++ pieces inner := by
  by_cases hpath : path = ""
  · subst hpath
    exact ⟨[], .inr rfl, fun inner _ => by simp [join]⟩
  · obtain ⟨front, hfront, hjoin⟩ := exists_toList_join hpath
    refine ⟨(split front).map String.ofList, ?_, fun inner hinner => ?_⟩
    · rcases hfront with hfront | hfront
      · exact .inl (by rw [pieces, hfront])
      · refine .inr ?_
        rw [pieces, hfront, split_append_slash]
        simp [split]
    · rw [pieces, pieces, hjoin inner hinner, split_append_slash, List.map_append]

/-- So does a name, which is one piece. -/
theorem exists_pieces_join (path : String) :
    ∃ before, (pieces path = before ∨ pieces path = before ++ [""]) ∧
      ∀ name : String, IsName name.toList → pieces (join path name) = before ++ [name] := by
  obtain ⟨before, hbefore, hjoin⟩ := exists_pieces_join_relative path
  refine ⟨before, hbefore, fun name hname => ?_⟩
  rw [hjoin name hname.not_isAbsolute, pieces, split_of_slash_not_mem hname.slash_not_mem]
  simp

/-- A path without a step up has no two dots among its pieces. -/
theorem up_mem_steps_of_mem_pieces {path : String} (h : ".." ∈ pieces path) :
    Step.up ∈ steps path := by
  rw [steps_eq]
  exact List.mem_append_right _ (List.mem_filterMap.mpr ⟨"..", h, rfl⟩)

/-! ## The text of a parent -/

theorem splitHead_append_slash {front : List Char} (hfront : front ≠ []) (name : List Char) :
    ∃ head rest, splitHead (front ++ '/' :: name) = (head, rest ++ '/' :: name) ∧
      head ++ rest = front := by
  cases front with
  | nil => exact absurd rfl hfront
  | cons c front =>
      by_cases hslash : c = '/'
      · subst hslash
        exact ⟨['/'], front, rfl, rfl⟩
      by_cases hdot : c = '.'
      · subst hdot
        cases front with
        | nil => exact ⟨['.'], [], rfl, rfl⟩
        | cons next front =>
            by_cases hnext : next = '/'
            · subst hnext
              exact ⟨['.'], '/' :: front, rfl, rfl⟩
            · exact ⟨[], '.' :: next :: front, by simp [splitHead, hnext], rfl⟩
      · exact ⟨[], c :: front, by simp [splitHead, hslash, hdot], rfl⟩

/-- The parent of a name is written with a start of what stands before the name. -/
theorem isPrefix_toList_parent? {path home : String} {front name : List Char} (hname : IsName name)
    (hpath : path.toList = front ++ '/' :: name) (hhome : parent? path = some home) :
    home.toList <+: front ∨ home = "/" := by
  by_cases hfront : front = []
  · subst hfront
    rw [parent?_of_root hname hpath] at hhome
    exact .inr (Option.some.inj hhome).symm
  · obtain ⟨head, rest, hsplit, rfl⟩ := splitHead_append_slash hfront name
    rw [← hpath] at hsplit
    rw [parent?_of_splitHead hname hsplit] at hhome
    rw [← Option.some.inj hhome, String.toList_ofList]
    have hkept := dropIdle_reverse_prefix rest
    exact .inl ((List.prefix_append_right_inj head).mpr hkept)

/-- The head of a path is a slash, or a dot with nothing or a slash behind it, or nothing. -/
theorem splitHead_cases (cs : List Char) :
    (∃ body, cs = '/' :: body ∧ splitHead cs = (['/'], body)) ∨
    (∃ body, cs = '.' :: body ∧ splitHead cs = (['.'], body) ∧
      (body = [] ∨ ∃ rest, body = '/' :: rest)) ∨
    (cs.head? ≠ some '/' ∧ splitHead cs = ([], cs)) := by
  cases cs with
  | nil => exact .inr (.inr ⟨nofun, rfl⟩)
  | cons c body =>
      by_cases hslash : c = '/'
      · subst hslash
        exact .inl ⟨body, rfl, rfl⟩
      by_cases hdot : c = '.'
      · subst hdot
        cases body with
        | nil => exact .inr (.inl ⟨[], rfl, rfl, .inl rfl⟩)
        | cons next body =>
            by_cases hnext : next = '/'
            · subst hnext
              exact .inr (.inl ⟨'/' :: body, rfl, rfl, .inr ⟨body, rfl⟩⟩)
            · exact .inr (.inr ⟨by simp, by simp [splitHead, hnext]⟩)
      · exact .inr (.inr ⟨by simpa using hslash, by simp [splitHead, hslash, hdot]⟩)

/-- Without its last name the body of a path is empty or ends before a slash. -/
theorem exists_dropIdle_dropWhile {body : List Char}
    (h : dropIdle ((dropIdle body.reverse).dropWhile (· != '/')) ≠ []) :
    ∃ rest, body =
      (dropIdle ((dropIdle body.reverse).dropWhile (· != '/'))).reverse ++ '/' :: rest := by
  obtain ⟨front, hfront⟩ := (List.dropWhile_suffix (· != '/')).trans (dropIdle_suffix body.reverse)
  have hslash : ∀ c cs, (dropIdle body.reverse).dropWhile (· != '/') = c :: cs → c = '/' := by
    intro c cs hcs
    have hhead := List.head_dropWhile_not (fun c : Char => c != '/') (l := dropIdle body.reverse)
      (by simp [hcs])
    simpa [hcs] using hhead
  generalize (dropIdle body.reverse).dropWhile (· != '/') = left at h hfront hslash
  cases left with
  | nil => exact absurd rfl h
  | cons c left =>
      obtain rfl := hslash c left rfl
      rw [dropIdle] at h ⊢
      have hbody : ∃ more, body.reverse = more ++ '/' :: dropIdle left := by
        rcases dropIdle_cases left with hnil | hself | ⟨more, hmore⟩
        · exact absurd hnil h
        · exact ⟨front, by rw [hself, hfront]⟩
        · refine ⟨front ++ '/' :: more, ?_⟩
          rw [← hfront, List.append_assoc, List.cons_append, ← hmore]
      obtain ⟨more, hmore⟩ := hbody
      refine ⟨more.reverse, ?_⟩
      rw [← List.reverse_reverse body, hmore]
      simp

/-- A parent is written with the head of the path and what stands before a slash of its body. -/
theorem parent?_eq_some {path home : String} {head body : List Char}
    (hsplit : splitHead path.toList = (head, body)) (h : parent? path = some home) :
    (home = "" ∧ head = ['.']) ∨
      ∃ left, home.toList = head ++ left ∧ (left = [] ∨ ∃ rest, body = left ++ '/' :: rest) := by
  unfold parent? at h
  rw [hsplit] at h
  simp only at h
  split at h
  · split at h
    next hdot => exact .inl ⟨(Option.some.inj h).symm, hdot⟩
    · cases h
  · refine .inr ⟨_, by rw [← Option.some.inj h, String.toList_ofList], ?_⟩
    by_cases hleft : dropIdle ((dropIdle body.reverse).dropWhile (· != '/')) = []
    · exact .inl (by rw [hleft, List.reverse_nil])
    · exact .inr (exists_dropIdle_dropWhile hleft)

/-- A parent is the empty path, or the root, or what stands before a slash of the path. -/
theorem parent?_cases {path home : String} (h : parent? path = some home) :
    (home = "" ∧ isAbsolute path = false) ∨ (home = "/" ∧ isAbsolute path = true) ∨
      (home ≠ "" ∧ ∃ rest, path.toList = home.toList ++ '/' :: rest) := by
  have hof : ∀ text : List Char, home.toList = text → home = String.ofList text :=
    fun text htext => by rw [← htext, String.ofList_toList]
  rcases splitHead_cases path.toList with
    ⟨body, hpath, hsplit⟩ | ⟨body, hpath, hsplit, hbody⟩ | ⟨hrelative, hsplit⟩
  -- The path starts at the root.
  · obtain ⟨-, hhead⟩ | ⟨left, hhome, rfl | ⟨rest, rfl⟩⟩ := parent?_eq_some hsplit h
    · simp at hhead
    · exact .inr (.inl ⟨hof _ hhome, (isAbsolute_iff path).mpr ⟨body, hpath⟩⟩)
    · exact .inr (.inr ⟨fun hnone => by simp [hnone] at hhome, rest, by simp [hpath, hhome]⟩)
  -- The path starts with a dot.
  · have hrelative : isAbsolute path = false := by simp [isAbsolute, hpath]
    obtain ⟨hhome, -⟩ | ⟨left, hhome, rfl | ⟨rest, rfl⟩⟩ := parent?_eq_some hsplit h
    · exact .inl ⟨hhome, hrelative⟩
    · rcases hbody with rfl | ⟨rest, rfl⟩
      -- A dot alone has the empty parent.
      · have hdot : parent? path = some "" := by simp [parent?, hsplit, dropIdle]
        exact .inl ⟨Option.some.inj (h.symm.trans hdot), hrelative⟩
      · exact .inr (.inr ⟨fun hnone => by simp [hnone] at hhome, rest, by simp [hpath, hhome]⟩)
    · exact .inr (.inr ⟨fun hnone => by simp [hnone] at hhome, rest, by simp [hpath, hhome]⟩)
  · have hpathRelative : isAbsolute path = false := by simpa [isAbsolute] using hrelative
    obtain ⟨hhome, -⟩ | ⟨left, hhome, rfl | ⟨rest, hrest⟩⟩ := parent?_eq_some hsplit h
    · exact .inl ⟨hhome, hpathRelative⟩
    · exact .inl ⟨hof _ hhome, hpathRelative⟩
    · by_cases hempty : home = ""
      · exact .inl ⟨hempty, hpathRelative⟩
      · exact .inr (.inr ⟨hempty, rest, by rw [hrest, hhome, List.nil_append]⟩)

/-- A relative path starts with a name or with dots. -/
theorem exists_pieces_eq_cons {path : String} (hne : path ≠ "") (hpath : isAbsolute path = false) :
    ∃ piece rest, piece ≠ "" ∧ pieces path = piece :: rest := by
  have hlist : path.toList ≠ [] := by simpa using hne
  obtain ⟨c, cs, hcs⟩ := List.exists_cons_of_ne_nil hlist
  have hslash : c ≠ '/' := by
    rintro rfl
    rw [isAbsolute, hcs] at hpath
    cases hpath
  obtain ⟨piece, rest, hsplit⟩ := List.exists_cons_of_ne_nil (split_ne_nil cs)
  refine ⟨String.ofList (c :: piece), rest.map String.ofList, ?_, ?_⟩
  · intro hempty
    have hnone := congrArg String.toList hempty
    simp at hnone
  · rw [pieces, hcs, split, if_neg hslash, hsplit]
    rfl

end TypeFixtures.FilePath
