import Mathlib.Data.List.TakeWhile
import TypeFixtures.FilePath

/-!
# Steps of joined paths

The way of a path is that of its head and of its pieces.  Joining adds the pieces of what is joined,
and the parent of a name in a directory describes the way of the directory: taking idle slashes and
dots off its end changes neither its head nor what its pieces mean.
-/

namespace TypeFixtures.FilePath

/-- The step of a piece; idle pieces make none. -/
def pieceStep? (piece : String) : Option Step :=
  if piece = "" || piece = "." then none
  else if piece = ".." then some .up
  else some (.name piece)

/-- The steps of the pieces between slashes. -/
def named (cs : List Char) : List Step :=
  ((split cs).map String.ofList).filterMap pieceStep?

/-- The step that only the start of a path can make. -/
def headStep (cs : List Char) : List Step :=
  if (splitHead cs).1 = ['/'] then [.root]
  else if (splitHead cs).1 = ['.'] then [.here]
  else []

theorem steps_eq (path : String) :
    steps path = headStep path.toList ++ named path.toList := by
  unfold steps headStep
  generalize (splitHead path.toList).1 = head
  split
  · rfl
  · rfl
  next hroot hhere =>
    rw [if_neg hroot, if_neg hhere]
    rfl

/-! ## Pieces -/

theorem split_ne_nil (cs : List Char) : split cs ≠ [] := by
  cases cs with
  | nil => simp [split]
  | cons c rest =>
      unfold split
      split
      · simp
      · split <;> simp

theorem split_append_slash (a b : List Char) : split (a ++ '/' :: b) = split a ++ split b := by
  induction a with
  | nil => simp [split]
  | cons c rest ih =>
      by_cases hc : c = '/'
      · simp [split, hc, ih]
      · cases hrest : split rest with
        | nil => exact absurd hrest (split_ne_nil rest)
        | cons piece pieces => simp [split, hc, ih, hrest]

theorem named_append_slash (a b : List Char) : named (a ++ '/' :: b) = named a ++ named b := by
  simp [named, split_append_slash]

@[simp] theorem named_nil : named [] = [] := by decide

@[simp] theorem named_dot : named ['.'] = [] := by decide

@[simp] theorem named_slash_cons (cs : List Char) : named ('/' :: cs) = named cs := by
  have h := named_append_slash [] cs
  simpa using h

@[simp] theorem named_append_singleton_slash (cs : List Char) :
    named (cs ++ ['/']) = named cs := by
  simp [named_append_slash]

/-- Idle slashes and dots at the end make no steps. -/
theorem named_dropIdle (cs : List Char) : named (dropIdle cs).reverse = named cs.reverse := by
  induction cs using dropIdle.induct with
  | case1 rest ih => simp [dropIdle, ih]
  | case2 rest ih =>
      have h := named_append_slash rest.reverse ['.']
      simp [dropIdle, ih, h]
  | case3 => simp [dropIdle]
  | case4 cs hslash hdot hlone => rw [dropIdle] <;> assumption

/-! ## Heads -/

/-- A path that starts with a name makes no step of its head. -/
theorem headStep_name {c : Char} (hslash : c ≠ '/') (hdot : c ≠ '.') (cs : List Char) :
    headStep (c :: cs) = [] := by
  simp [headStep, splitHead, hslash, hdot]

theorem headStep_dotted {c : Char} (hslash : c ≠ '/') (cs : List Char) :
    headStep ('.' :: c :: cs) = [] := by
  simp [headStep, splitHead, hslash]

/-- The head is decided before the first slash that follows something. -/
theorem headStep_append_slash {cs : List Char} (hcs : cs ≠ []) (rest : List Char) :
    headStep (cs ++ '/' :: rest) = headStep cs := by
  cases cs with
  | nil => exact absurd rfl hcs
  | cons c cs =>
      by_cases hslash : c = '/'
      · subst hslash
        rfl
      by_cases hdot : c = '.'
      · subst hdot
        cases cs with
        | nil => rfl
        | cons next cs =>
            by_cases hnext : next = '/'
            · subst hnext
              rfl
            · rw [List.cons_append, List.cons_append, headStep_dotted hnext, headStep_dotted hnext]
      · rw [List.cons_append, headStep_name hslash hdot, headStep_name hslash hdot]

/-! ## Joining -/

theorem isAbsolute_iff (path : String) :
    isAbsolute path = true ↔ ∃ rest, path.toList = '/' :: rest := by
  unfold isAbsolute
  cases path.toList <;> simp

theorem join_of_isAbsolute {path : String} (h : isAbsolute path = true) (root : String) :
    join root path = path := by
  simp [join, h]

/-- Joining puts one slash between a directory and a path, unless one is there already. -/
theorem toList_join {root path : String} (hroot : root ≠ "") (hpath : isAbsolute path = false) :
    ∃ front, (join root path).toList = front ++ '/' :: path.toList ∧
      (root.toList = front ∨ root.toList = front ++ ['/']) := by
  unfold join
  rw [hpath, if_neg (by simpa using hroot)]
  split
  next hlast =>
    obtain ⟨front, hfront⟩ := List.getLast?_eq_some_iff.mp (by simpa using hlast)
    exact ⟨front, by simp [hfront], Or.inr hfront⟩
  next => exact ⟨root.toList, by simp, Or.inl rfl⟩

theorem steps_join {root path : String} (hroot : root ≠ "") (hpath : isAbsolute path = false) :
    steps (join root path) = steps root ++ named path.toList := by
  obtain ⟨front, hjoin, hfront⟩ := toList_join hroot hpath
  rw [steps_eq, steps_eq, hjoin, named_append_slash]
  rcases hfront with hfront | hfront
  · have hne : front ≠ [] := by
      rw [← hfront]
      simpa using hroot
    rw [hfront, headStep_append_slash hne, List.append_assoc]
  · rw [hfront, named_append_singleton_slash]
    cases front with
    | nil => rfl
    | cons c front =>
        rw [headStep_append_slash (by simp), headStep_append_slash (by simp), List.append_assoc]

/-- Directories with the same way give the same way to what is joined to them. -/
theorem steps_join_congr {root root' : String} (hroot : root ≠ "") (hroot' : root' ≠ "")
    (h : steps root = steps root') (path : String) :
    steps (join root path) = steps (join root' path) := by
  cases hpath : isAbsolute path with
  | true => rw [join_of_isAbsolute hpath, join_of_isAbsolute hpath]
  | false => rw [steps_join hroot hpath, steps_join hroot' hpath, h]

/-! ## The directory of a name -/

theorem dropIdle_eq_self {cs : List Char} (hslash : ∀ rest, cs ≠ '/' :: rest)
    (hdot : ∀ rest, cs ≠ '.' :: '/' :: rest) (hlone : cs ≠ ['.']) : dropIdle cs = cs := by
  rw [dropIdle] <;> assumption

/-- A name of its own: no slash in it, and it is neither empty nor the single dot. -/
structure IsName (cs : List Char) : Prop where
  ne_nil : cs ≠ []
  ne_dot : cs ≠ ['.']
  slash_not_mem : '/' ∉ cs

theorem IsName.reverse {cs : List Char} (h : IsName cs) : IsName cs.reverse := by
  refine ⟨by simpa using h.ne_nil, ?_, by simpa using h.slash_not_mem⟩
  intro hdot
  have hcs := congrArg List.reverse hdot
  rw [List.reverse_reverse] at hcs
  exact h.ne_dot hcs

/-- A name at the end of a path is not idle. -/
theorem IsName.dropIdle_append {cs : List Char} (h : IsName cs) (rest : List Char) :
    dropIdle (cs ++ rest) = cs ++ rest := by
  obtain ⟨hne, hdot, hslash⟩ := h
  cases cs with
  | nil => exact absurd rfl hne
  | cons c cs =>
      have hc : c ≠ '/' := fun hc => hslash (by simp [hc])
      refine dropIdle_eq_self ?_ ?_ ?_
      · intro more hmore
        exact hc (List.cons.inj hmore).1
      · intro more hmore
        obtain ⟨hc', htail⟩ := List.cons.inj hmore
        cases cs with
        | nil => exact hdot (by rw [hc'])
        | cons next cs => exact hslash (by simp [(List.cons.inj htail).1])
      · intro hlone
        obtain ⟨hc', htail⟩ := List.cons.inj hlone
        have hcs := (List.append_eq_nil_iff.mp htail).1
        exact hdot (by rw [hc', hcs])

theorem IsName.dropWhile_append {cs : List Char} (h : IsName cs) (rest : List Char) :
    (cs ++ '/' :: rest).dropWhile (· != '/') = '/' :: rest := by
  rw [List.dropWhile_append_of_pos]
  · simp
  · intro c hc
    have hne : c ≠ '/' := fun hslash => h.slash_not_mem (hslash ▸ hc)
    simpa using hne

/-- The parent of a name keeps the head of the path and drops what is idle before the name. -/
theorem parent?_of_splitHead {path : String} {head front name : List Char} (hname : IsName name)
    (hpath : splitHead path.toList = (head, front ++ '/' :: name)) :
    parent? path = some (String.ofList (head ++ (dropIdle front.reverse).reverse)) := by
  have hreverse : (front ++ '/' :: name).reverse = name.reverse ++ '/' :: front.reverse := by simp
  have hkept := hname.reverse.dropIdle_append ('/' :: front.reverse)
  have hdrop := hname.reverse.dropWhile_append front.reverse
  unfold parent?
  rw [hpath]
  simp only [hreverse, hkept]
  split
  next h => simp at h
  next =>
    rw [hdrop]
    simp [dropIdle]

/-- Taking what is idle off an end leaves nothing, or takes nothing, or stops behind a slash. -/
theorem dropIdle_cases (cs : List Char) :
    dropIdle cs = [] ∨ dropIdle cs = cs ∨ ∃ front, cs = front ++ '/' :: dropIdle cs := by
  induction cs using dropIdle.induct with
  | case1 rest ih =>
      rw [dropIdle]
      rcases ih with hnil | hself | ⟨front, hfront⟩
      · exact .inl hnil
      · exact .inr (.inr ⟨[], by rw [hself, List.nil_append]⟩)
      · exact .inr (.inr ⟨'/' :: front, by rw [List.cons_append, ← hfront]⟩)
  | case2 rest ih =>
      rw [dropIdle]
      rcases ih with hnil | hself | ⟨front, hfront⟩
      · exact .inl hnil
      · exact .inr (.inr ⟨['.'], by rw [hself, List.singleton_append]⟩)
      · exact .inr (.inr ⟨'.' :: '/' :: front, by rw [List.cons_append, List.cons_append, ← hfront]⟩)
  | case3 => exact .inl rfl
  | case4 cs hslash hdot hlone => exact .inr (.inl (dropIdle_eq_self hslash hdot hlone))

theorem dropIdle_suffix (cs : List Char) : dropIdle cs <:+ cs := by
  rcases dropIdle_cases cs with hnil | hself | ⟨front, hfront⟩
  · rw [hnil]
    exact List.nil_suffix
  · exact ⟨[], by rw [hself, List.nil_append]⟩
  · exact ⟨front ++ ['/'], by rw [List.append_assoc, List.singleton_append, ← hfront]⟩

/-- What is taken off an end leaves a start. -/
theorem dropIdle_reverse_prefix (cs : List Char) : (dropIdle cs.reverse).reverse <+: cs := by
  have h := List.reverse_prefix.mpr (dropIdle_suffix cs.reverse)
  rwa [List.reverse_reverse] at h

/-- Something that is not idle at the start stays. -/
theorem dropIdle_append_of_kept {kept : List Char} (hslash : kept.head? ≠ some '/')
    (hne : kept ≠ []) (hkept : dropIdle kept = kept) (cs : List Char) :
    kept <:+ dropIdle (cs ++ kept) := by
  induction cs using dropIdle.induct with
  | case1 rest ih => simpa [dropIdle] using ih
  | case2 rest ih => simpa [dropIdle] using ih
  | case3 =>
      cases kept with
      | nil => exact absurd rfl hne
      | cons c kept =>
          have hc : c ≠ '/' := by simpa using hslash
          have hself : dropIdle ('.' :: c :: kept) = '.' :: c :: kept :=
            dropIdle_eq_self (by simp) (by simp [hc]) (by simp)
          rw [List.singleton_append, hself]
          exact List.suffix_cons _ _
  | case4 cs hroot hhere hlone =>
      cases cs with
      | nil => simp [hkept]
      | cons c cs =>
          have hself : dropIdle (c :: cs ++ kept) = c :: cs ++ kept := by
            refine dropIdle_eq_self ?_ ?_ ?_
            · intro rest hrest
              exact hroot cs (by rw [(List.cons.inj hrest).1])
            · intro rest hrest
              obtain ⟨hc, htail⟩ := List.cons.inj hrest
              cases cs with
              | nil => exact hslash (by simpa using congrArg List.head? htail)
              | cons next cs => exact hhere cs (by rw [hc, (List.cons.inj htail).1])
            · intro hrest
              exact hne (List.append_eq_nil_iff.mp (List.cons.inj hrest).2).2
          rw [hself]
          exact List.suffix_append _ _

theorem named_dropIdle_reverse (cs : List Char) :
    named (dropIdle cs.reverse).reverse = named cs := by
  rw [named_dropIdle, List.reverse_reverse]

/-- A path that starts with a name of its own still starts with it when its end is taken off. -/
theorem headStep_dropIdle_reverse {start : List Char} (hslash : start.getLast? ≠ some '/')
    (hne : start ≠ []) (hkept : dropIdle start.reverse = start.reverse)
    (hstart : ∀ rest, headStep (start ++ rest) = []) (cs : List Char) :
    (dropIdle (start ++ cs).reverse).reverse ≠ [] ∧
      headStep (dropIdle (start ++ cs).reverse).reverse = [] := by
  have hsuffix := dropIdle_append_of_kept (by simpa using hslash) (by simpa using hne) hkept
    cs.reverse
  rw [← List.reverse_append] at hsuffix
  obtain ⟨rest, hrest⟩ := hsuffix
  rw [← hrest, List.reverse_append, List.reverse_reverse]
  exact ⟨by simp [hne], hstart _⟩

/-- The way of a path is that of `front`. -/
def Leads (home : String) (front : List Char) : Prop :=
  home.toList ≠ [] ∧ headStep home.toList = headStep front ∧ named home.toList = named front

theorem leads_root (front : List Char) :
    Leads (String.ofList (['/'] ++ (dropIdle front.reverse).reverse)) ('/' :: front) := by
  refine ⟨by simp, ?_, ?_⟩
  · rw [String.toList_ofList]
    rfl
  · rw [String.toList_ofList, List.singleton_append, named_slash_cons, named_slash_cons,
      named_dropIdle_reverse]

/-- Behind a leading dot there is nothing left or a slash. -/
theorem leads_here (front : List Char) :
    Leads (String.ofList (['.'] ++ (dropIdle ('/' :: front).reverse).reverse))
      ('.' :: '/' :: front) := by
  have hprefix := dropIdle_reverse_prefix ('/' :: front)
  have hnamed := named_dropIdle_reverse ('/' :: front)
  have hdot : named ('.' :: '/' :: front) = named ('/' :: front) := by
    have h := named_append_slash ['.'] front
    simpa using h
  unfold Leads
  rw [String.toList_ofList, hdot, ← hnamed]
  generalize (dropIdle ('/' :: front).reverse).reverse = left at hprefix
  cases left with
  | nil => exact ⟨by simp, rfl, by simp⟩
  | cons c left =>
      obtain ⟨rfl, -⟩ := List.cons_prefix_cons.mp hprefix
      refine ⟨by simp, rfl, ?_⟩
      have h := named_append_slash ['.'] left
      simpa using h

theorem leads_plain {start : List Char} (hslash : start.getLast? ≠ some '/') (hne : start ≠ [])
    (hkept : dropIdle start.reverse = start.reverse)
    (hstart : ∀ rest, headStep (start ++ rest) = []) (cs : List Char) :
    Leads (String.ofList ([] ++ (dropIdle (start ++ cs).reverse).reverse)) (start ++ cs) := by
  obtain ⟨hleft, hhead⟩ := headStep_dropIdle_reverse hslash hne hkept hstart cs
  unfold Leads
  rw [String.toList_ofList, List.nil_append, hhead, hstart]
  exact ⟨hleft, rfl, named_dropIdle_reverse _⟩

/-- The parent of a name leads where the directory before the name leads. -/
theorem parent?_of_toList {path : String} {front name : List Char} (hname : IsName name)
    (hfront : front ≠ []) (hpath : path.toList = front ++ '/' :: name) :
    ∃ home, parent? path = some home ∧ Leads home front := by
  cases front with
  | nil => exact absurd rfl hfront
  | cons c front =>
      -- The head of a path is a leading slash, or a dot with nothing or a slash behind it.
      by_cases hslash : c = '/'
      · subst hslash
        exact ⟨_, parent?_of_splitHead hname (by rw [hpath]; rfl), leads_root front⟩
      by_cases hdot : c = '.'
      · subst hdot
        cases front with
        | nil =>
            have hsplit : splitHead path.toList = (['.'], [] ++ '/' :: name) := by
              rw [hpath]
              rfl
            exact ⟨_, parent?_of_splitHead hname hsplit, by simp [Leads, dropIdle]⟩
        | cons next front =>
            by_cases hnext : next = '/'
            · subst hnext
              exact ⟨_, parent?_of_splitHead hname (by rw [hpath]; rfl), leads_here front⟩
            · have hsplit : splitHead path.toList = ([], ['.', next] ++ front ++ '/' :: name) := by
                rw [hpath]
                simp [splitHead, hnext]
              exact ⟨_, parent?_of_splitHead hname hsplit,
                leads_plain (by simpa using hnext) (by simp)
                  (dropIdle_eq_self (by simp [hnext]) (by simp) (by simp))
                  (fun rest => headStep_dotted hnext rest) front⟩
      · have hsplit : splitHead path.toList = ([], [c] ++ front ++ '/' :: name) := by
          rw [hpath]
          simp [splitHead, hslash, hdot]
        exact ⟨_, parent?_of_splitHead hname hsplit,
          leads_plain (by simpa using hslash) (by simp)
            (dropIdle_eq_self (by simp [hslash]) (by simp) (by simp [hdot]))
            (fun rest => headStep_name hslash hdot rest) front⟩

theorem parent?_of_root {path : String} {name : List Char} (hname : IsName name)
    (hpath : path.toList = '/' :: name) : parent? path = some "/" := by
  have hkept := hname.reverse.dropIdle_append []
  have hdrop : name.reverse.dropWhile (· != '/') = [] := by
    rw [List.dropWhile_eq_nil_iff]
    intro c hc
    have hne : c ≠ '/' := fun hslash => hname.slash_not_mem (hslash ▸ List.mem_reverse.mp hc)
    simpa using hne
  rw [List.append_nil] at hkept
  unfold parent?
  rw [hpath]
  simp only [splitHead, hkept]
  split
  next h => exact absurd h (by simpa using hname.ne_nil)
  next => rw [hdrop]; rfl

/-- The parent of a name in a directory describes the way of the directory. -/
theorem parent?_join {directory name : String} (hdirectory : directory ≠ "")
    (hname : IsName name.toList) :
    ∃ home, parent? (join directory name) = some home ∧ home ≠ "" ∧
      steps home = steps directory := by
  have hrelative : isAbsolute name = false := by
    rw [← Bool.not_eq_true, isAbsolute_iff]
    rintro ⟨rest, hrest⟩
    exact hname.slash_not_mem (by simp [hrest])
  obtain ⟨front, hjoin, hfront⟩ := toList_join hdirectory hrelative
  by_cases hne : front = []
  · subst hne
    rcases hfront with hfront | hfront
    · exact absurd hfront (by simpa using hdirectory)
    · refine ⟨"/", parent?_of_root hname hjoin, by simp, ?_⟩
      rw [steps_eq, steps_eq, hfront]
      rfl
  · obtain ⟨home, hparent, hleft, hhead, hnamed⟩ := parent?_of_toList hname hne hjoin
    refine ⟨home, hparent, by simpa using hleft, ?_⟩
    rw [steps_eq, steps_eq, hhead, hnamed]
    rcases hfront with hfront | hfront
    · rw [hfront]
    · rw [hfront, headStep_append_slash hne, named_append_singleton_slash]

end TypeFixtures.FilePath
