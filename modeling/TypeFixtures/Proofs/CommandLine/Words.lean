import Mathlib.Data.List.Basic
import TypeFixtures.CommandLine
import TypeFixtures.Proofs.Computation

/-!
# Words for arguments

An argument is given by a word or two: a flag by its name, with its value behind an equals sign or
in the next word, and an operand by itself.  Whatever stands behind such words, reading takes them
off as that argument.
-/

namespace TypeFixtures

/-- The word for a command. -/
def Verb.word : Verb → String
  | generate => "generate"
  | list => "list"
  | init => "init"

@[simp] theorem Verb.ofName?_word (verb : Verb) : ofName? verb.word = some verb := by
  cases verb <;> rfl

namespace Argument

/-- The flag that an argument gives. -/
def flag? : Argument → Option Flag
  | switch flag => some flag
  | valued flag _ => some flag
  | operand _ => none
  | help => none

/-- The arguments for a value that may be asked for. -/
def given (flag : Flag) (value : Option String) : List Argument :=
  (value.map (valued flag)).toList

/-- The arguments for what may be switched on. -/
def switched (flag : Flag) (isOn : Bool) : List Argument :=
  if isOn then [switch flag] else []

/-- The words for one argument.  A value that starts with a dash cannot stand alone. -/
inductive Spelled : Argument → List String → Prop
  | switch {flag : Flag} (hflag : flag.takes = .nothing) :
      Spelled (.switch flag) ["--" ++ flag.long]
  | attached {flag : Flag} {value : String} (hflag : flag.takes ≠ .nothing) :
      Spelled (.valued flag value) ["--" ++ flag.long ++ "=" ++ value]
  | apart {flag : Flag} {value : String} (hflag : flag.takes ≠ .nothing)
      (hvalue : value.toList.head? ≠ some '-') :
      Spelled (.valued flag value) ["--" ++ flag.long, value]
  | operand {value : String} (hvalue : value.toList.head? ≠ some '-') :
      Spelled (.operand value) [value]

/-- The words for arguments one after another. -/
inductive SpelledAll : List Argument → List String → Prop
  | nil : SpelledAll [] []
  | cons {argument : Argument} {arguments : List Argument} {words rest : List String}
      (h : Spelled argument words) (hrest : SpelledAll arguments rest) :
      SpelledAll (argument :: arguments) (words ++ rest)

end Argument

/-! ## How a word starts -/

/-- Flags have different names. -/
theorem Flag.eq_of_toList_long_eq {flag other : Flag}
    (h : other.long.toList = flag.long.toList) : other = flag := by
  revert h
  cases flag <;> cases other <;> decide +kernel

namespace Argument

variable {flags : List Flag} {flag : Flag} {value : String} {argument more : Argument}
  {arguments : List Argument} {words rest : List String}

theorem splitEquals_of_not_mem {name : List Char} (h : '=' ∉ name) :
    splitEquals name = (name, none) := by
  induction name with
  | nil => rfl
  | cons c name ih =>
      simp only [List.mem_cons, not_or] at h
      rw [splitEquals, ih h.2]
      exact fun hc => h.1 hc.symm

theorem splitEquals_append {name : List Char} (value : List Char) (h : '=' ∉ name) :
    splitEquals (name ++ '=' :: value) = (name, some value) := by
  induction name with
  | nil => rfl
  | cons c name ih =>
      simp only [List.mem_cons, not_or] at h
      rw [List.cons_append, splitEquals, ih h.2]
      exact fun hc => h.1 hc.symm

theorem equals_not_mem_long (flag : Flag) : '=' ∉ flag.long.toList := by
  cases flag <;> decide +kernel

/-- A flag is found by its name. -/
theorem find?_long (hflag : flag ∈ flags) :
    flags.find? (fun other => other.long.toList == flag.long.toList) = some flag := by
  cases hfind : flags.find? (fun other => other.long.toList == flag.long.toList) with
  | none =>
      have hnone := List.find?_eq_none.mp hfind flag hflag
      simp at hnone
  | some other =>
      have hsame := List.find?_some hfind
      rw [Flag.eq_of_toList_long_eq (beq_iff_eq.mp hsame)]

theorem opening_long {tail : List Char} (hword : value.toList = '-' :: '-' :: tail) :
    opening flags value = openLong flags tail := by
  unfold opening
  simp only [hword]

theorem opening_flag (hflag : flag ∈ flags) :
    opening flags ("--" ++ flag.long) = attach flag none := by
  have hword : ("--" ++ flag.long).toList = '-' :: '-' :: flag.long.toList := by
    rw [String.toList_append]
    rfl
  rw [opening_long hword, openLong, splitEquals_of_not_mem (equals_not_mem_long flag)]
  simp only [find?_long hflag]

theorem opening_attached (hflag : flag ∈ flags) (value : String) :
    opening flags ("--" ++ flag.long ++ "=" ++ value) = attach flag (some value.toList) := by
  have hword : ("--" ++ flag.long ++ "=" ++ value).toList =
      '-' :: '-' :: (flag.long.toList ++ '=' :: value.toList) := by
    simp [String.toList_append]
  rw [opening_long hword, openLong, splitEquals_append _ (equals_not_mem_long flag)]
  simp only [find?_long hflag]

theorem opening_operand (hvalue : value.toList.head? ≠ some '-') :
    opening flags value = .whole (.operand value) := by
  unfold opening
  cases hlist : value.toList with
  | nil => rfl
  | cons c rest =>
      rw [hlist] at hvalue
      simp only [List.head?_cons, ne_eq, Option.some.injEq] at hvalue
      split
      · simp_all
      · simp_all
      · rfl

theorem isValue_of_head? (hvalue : value.toList.head? ≠ some '-') : isValue value = true := by
  unfold isValue
  split
  · simp_all
  · rfl

/-- Two dashes alone name no flag. -/
theorem long_ne_dashes (flag : Flag) (tail : String) : "--" ++ flag.long ++ tail ≠ "--" := by
  intro h
  have hlist := congrArg String.toList h
  have hname : flag.long.toList ≠ [] := by cases flag <;> decide +kernel
  simp [String.toList_append, hname] at hlist

/-! ### Reading on -/

theorem readAll_cons_of_whole (hdashes : value ≠ "--") (hhelp : argument ≠ .help)
    (hopening : opening flags value = .whole argument) :
    readAll flags (value :: rest) = (readAll flags rest).map (argument :: ·) := by
  cases rest with
  | nil =>
      rw [readAll, readAll, if_neg hdashes, hopening]
      rfl
  | cons next rest =>
      rw [readAll, if_neg hdashes, hopening]
      cases argument <;> first | rfl | exact absurd rfl hhelp

theorem readAll_cons_of_awaits (hdashes : value ≠ "--")
    (hopening : opening flags value = .awaits flag) {next : String}
    (hnext : isValue next = true) :
    readAll flags (value :: next :: rest) = (readAll flags rest).map (valued flag next :: ·) := by
  rw [readAll, if_neg hdashes, hopening]
  simp only [hnext, if_true]

theorem attach_none_of_switch (hflag : flag.takes = .nothing) :
    attach flag none = .whole (.switch flag) := by
  unfold attach
  rw [hflag]

theorem attach_none_of_valued (hflag : flag.takes ≠ .nothing) :
    attach flag none = .awaits flag := by
  cases flag <;> first | rfl | exact absurd rfl hflag

theorem attach_some_of_valued (hflag : flag.takes ≠ .nothing) :
    attach flag (some value.toList) = .whole (.valued flag value) := by
  cases flag <;> first
    | exact absurd rfl hflag
    | simp only [attach, Flag.takes, String.ofList_toList]

/-- The words of one argument are read as that argument, whatever stands behind them. -/
theorem Spelled.readAll_append (h : Spelled argument words)
    (hflags : ∀ flag, argument.flag? = some flag → flag ∈ flags) (rest : List String) :
    readAll flags (words ++ rest) = (readAll flags rest).map (argument :: ·) := by
  cases h with
  | @switch flag hflag =>
      have hopening := opening_flag (hflags flag rfl)
      rw [attach_none_of_switch hflag] at hopening
      exact readAll_cons_of_whole (by simpa using long_ne_dashes flag "") nofun hopening
  | @attached flag value hflag =>
      have hopening := opening_attached (hflags flag rfl) value
      rw [attach_some_of_valued hflag] at hopening
      have hdashes := long_ne_dashes flag ("=" ++ value)
      rw [← String.append_assoc] at hdashes
      exact readAll_cons_of_whole hdashes nofun hopening
  | @apart flag value hflag hvalue =>
      have hopening := opening_flag (hflags flag rfl)
      rw [attach_none_of_valued hflag] at hopening
      exact readAll_cons_of_awaits (by simpa using long_ne_dashes flag "") hopening
        (isValue_of_head? hvalue)
  | @operand value hvalue =>
      have hdashes : value ≠ "--" := by
        rintro rfl
        exact hvalue rfl
      exact readAll_cons_of_whole hdashes nofun (opening_operand hvalue)

/-- Words for arguments are read as those arguments. -/
theorem SpelledAll.readAll_eq (h : SpelledAll arguments words)
    (hflags : ∀ argument ∈ arguments, ∀ flag, argument.flag? = some flag → flag ∈ flags) :
    readAll flags words = .ok arguments := by
  induction h with
  | nil => rfl
  | cons h hrest ih =>
      rw [h.readAll_append (hflags _ List.mem_cons_self),
        ih fun argument hmem => hflags argument (List.mem_cons_of_mem _ hmem)]
      rfl

theorem SpelledAll.append {others : List Argument} (h : SpelledAll arguments words)
    (hothers : SpelledAll others rest) : SpelledAll (arguments ++ others) (words ++ rest) := by
  induction h with
  | nil => exact hothers
  | cons h hrest ih =>
      rw [List.cons_append, List.append_assoc]
      exact .cons h ih

/-- The directory of the configuration is read ahead of a command. -/
theorem readBefore_of_spelledAll {configPath : Option String} {verb : Verb}
    (h : SpelledAll (given .configPath configPath) words) :
    readBefore [.configPath] (words ++ verb.word :: rest) =
      .ok (given .configPath configPath, verb.word :: rest) := by
  have hverb : opening [.configPath] verb.word = .whole (.operand verb.word) := by
    refine opening_operand ?_
    cases verb <;> decide +kernel
  have hstop : readBefore [.configPath] (verb.word :: rest) = .ok ([], verb.word :: rest) := by
    cases rest with
    | nil => rw [readBefore, hverb]
    | cons next rest => rw [readBefore, hverb]
  cases configPath with
  | none =>
      cases h
      exact hstop
  | some value =>
      obtain _ | ⟨hspelled, hrest⟩ := h
      cases hrest
      rw [List.append_nil]
      cases hspelled with
      | attached hflag =>
          have hopening := opening_attached (List.mem_singleton_self Flag.configPath) value
          rw [attach_some_of_valued hflag] at hopening
          rw [List.singleton_append, readBefore, hopening]
          simp only [hstop]
          rfl
      | apart hflag hvalue =>
          have hopening := opening_flag (List.mem_singleton_self Flag.configPath)
          rw [attach_none_of_valued hflag] at hopening
          rw [List.cons_append, List.singleton_append, readBefore, hopening]
          simp only [isValue_of_head? hvalue, if_true, hstop]
          rfl

end Argument

end TypeFixtures
