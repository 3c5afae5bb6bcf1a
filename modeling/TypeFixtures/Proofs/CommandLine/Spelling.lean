import Mathlib.Data.List.Basic
import TypeFixtures.Proofs.CommandLine.Arguments

/-!
# Spellings of command lines

A command can be asked for in many ways: its arguments stand in any order, a value stands behind an
equals sign or in a word of its own, and the directory of the configuration comes before the command
or after it.  Reading undoes them all: it cuts the words into arguments one at a time, and what the
arguments ask for does not depend on their order.

A flag of the command that is given once more asks for nothing.
-/

namespace TypeFixtures

namespace CommandLine

/-- The paths on a command line. -/
def paths (line : CommandLine) : List String :=
  line.configPath.toList ++ line.command.paths

/-- The words for a command line whose command is asked for by some arguments.  They stand in any
order, and the directory of the configuration stands before the command or among them. -/
inductive Spelling (line : CommandLine) (own : List Argument) : List String → Prop
  | ahead {arguments : List Argument} {front words : List String}
      (hfront : Argument.SpelledAll (Argument.given .configPath line.configPath) front)
      (horder : arguments.Perm own) (hwords : Argument.SpelledAll arguments words) :
      Spelling line own (front ++ line.command.verb.word :: words)
  | behind {arguments : List Argument} {words : List String}
      (horder : arguments.Perm (Argument.given .configPath line.configPath ++ own))
      (hwords : Argument.SpelledAll arguments words) :
      Spelling line own (line.command.verb.word :: words)

open Argument

variable {line : CommandLine} {own arguments : List Argument} {front words : List String}
  {verb : Verb} {outer inner : Option String}

/-- The words ahead of a command and those behind it are read apart. -/
theorem parse_of_spelledAll (hfront : SpelledAll (given .configPath outer) front)
    (houter : outer ≠ some "") (hwords : SpelledAll arguments words)
    (hflags : ∀ argument ∈ arguments, ∀ flag, argument.flag? = some flag → flag ∈ verb.flags) :
    parse (front ++ verb.word :: words) =
      (valueOf .configPath arguments).bind fun inner =>
        (Command.ofArguments verb arguments).map fun command => ⟨inner <|> outer, command⟩ := by
  have hvalue : valueOf .configPath (given .configPath outer) = .ok outer :=
    valueOf_of_valuesOf (by simp) fun _ => houter
  have hhelp : (given .configPath outer).contains .help = false := by simp
  unfold parse
  rw [readBefore_of_spelledAll hfront]
  simp only [bind, Except.bind, hvalue, hhelp, Bool.false_eq_true, if_false, Verb.ofName?_word,
    hwords.readAll_eq hflags]
  cases valueOf .configPath arguments with
  | error refusal => rfl
  | ok inner => cases Command.ofArguments verb arguments <;> rfl

/-- Every spelling parts into words ahead of the command and words behind it, and the directory of
the configuration is among one of them. -/
theorem Spelling.exists_parts (h : Spelling line own words) (hconfig : line.configPath ≠ some "") :
    ∃ outer inner front rest arguments,
      words = front ++ line.command.verb.word :: rest ∧
      SpelledAll (given .configPath outer) front ∧ SpelledAll arguments rest ∧
      arguments.Perm (given .configPath inner ++ own) ∧
      (inner <|> outer) = line.configPath ∧ outer ≠ some "" ∧ inner ≠ some "" := by
  cases h with
  | @ahead arguments front words hfront horder hwords =>
      exact ⟨line.configPath, none, front, words, arguments, rfl, hfront, hwords, horder, rfl,
        hconfig, nofun⟩
  | @behind arguments words horder hwords =>
      refine ⟨none, line.configPath, [], words, arguments, rfl, .nil, hwords, horder, ?_, nofun,
        hconfig⟩
      cases line.configPath <;> rfl

/-- Every spelling of a command line is read as that line, and none can be read any more when a flag
of the command itself is given once more behind it. -/
theorem parse_of_spelling (hasks : line.command.AskedBy own)
    (hpaths : ∀ path ∈ line.paths, path ≠ "") (h : Spelling line own words) :
    parse words = .ok line ∧
    ∀ (first more : Argument) (flag : Flag) (again : List String), first ∈ own →
      first.flag? = some flag → more.flag? = some flag → Spelled more again →
        parse (words ++ again) = .error .misuse := by
  have hconfig : line.configPath ≠ some "" := fun hempty =>
    hpaths "" (by simp [paths, hempty]) rfl
  have hcommand : ∀ path ∈ line.command.paths, path ≠ "" := fun path hmem =>
    hpaths path (List.mem_append_right _ hmem)
  obtain ⟨outer, inner, front, rest, arguments, rfl, hfront, hrest, horder, hsame, houter,
    hinner⟩ := h.exists_parts hconfig
  have hflags : ∀ argument ∈ arguments, ∀ flag, argument.flag? = some flag →
      flag ∈ line.command.verb.flags := by
    intro argument hmem flag hgives
    rcases List.mem_append.mp (horder.mem_iff.mp hmem) with hmem | hmem
    · rw [Option.some.inj (hgives.symm.trans (flag?_of_mem_given hmem))]
      cases line.command.verb <;> decide
    · exact (hasks.mem_flags hmem hgives).1
  have hvalue : valueOf .configPath arguments = .ok inner := by
    have hnone : valuesOf .configPath own = [] :=
      valuesOf_eq_nil fun argument hmem hgives => (hasks.mem_flags hmem hgives).2 rfl
    rw [valueOf_of_perm horder]
    exact valueOf_of_valuesOf (by simp [hnone]) fun _ => hinner
  constructor
  · rw [parse_of_spelledAll hfront houter hrest hflags, hvalue, Command.ofArguments_of_perm horder,
      Command.ofArguments_of_askedBy inner hasks hcommand]
    simp only [Except.bind, Except.map, hsame]
  · intro first more flag again hmem hfirst hmore hagain
    obtain ⟨hflag, hown⟩ := hasks.mem_flags hmem hfirst
    have hspelled : SpelledAll (arguments ++ [more]) (rest ++ again) := by
      have hlast := hrest.append (.cons hagain .nil)
      rwa [List.append_nil] at hlast
    have hflags' : ∀ argument ∈ arguments ++ [more], ∀ flag, argument.flag? = some flag →
        flag ∈ line.command.verb.flags := by
      intro argument hmem' other hgives
      rcases List.mem_append.mp hmem' with hmem' | hmem'
      · exact hflags argument hmem' other hgives
      · rw [List.mem_singleton.mp hmem', hmore] at hgives
        exact Option.some.inj hgives ▸ hflag
    have hother : more.flag? ≠ some .configPath := fun hconfig =>
      hown (Option.some.inj (hmore.symm.trans hconfig))
    have hthere : first ∈ arguments := horder.mem_iff.mpr (List.mem_append_right _ hmem)
    rw [List.append_assoc, List.cons_append, parse_of_spelledAll hfront houter hspelled hflags',
      valueOf_append_other hother, hvalue,
      Command.ofArguments_of_misused hflag hown
        (hrest.misused_append hthere hfirst hagain hmore)]
    rfl

/-- Values that look like other words, and a flag that is given twice. -/
theorem parse_of_spelling_words :
    let call : Generate := ⟨some "a=b", none, some "", some "list", true⟩
    let line : CommandLine := ⟨some "generate", .generate call⟩
    let words := ["--config-path", "generate", "generate", "--engine", "list",
      "--nested-low-cardinality", "--prefix", "", "--catalog=a=b"]
    (∀ path ∈ line.paths, path ≠ "") ∧ parse words = .ok line ∧
      parse (words ++ ["--engine="]) = .error .misuse := by
  intro call line words
  let own : List Argument := [.valued .catalog "a=b", .valued .tablePrefix "",
    .valued .engine "list", .switch .nested]
  let arguments : List Argument := [.valued .engine "list", .switch .nested,
    .valued .tablePrefix "", .valued .catalog "a=b"]
  have hpaths : ∀ path ∈ line.paths, path ≠ "" := by decide +kernel
  have hasks : line.command.AskedBy own := .generate call
  have hfront : SpelledAll (given .configPath line.configPath) ["--config-path", "generate"] :=
    .cons (.apart (by decide) (by decide +kernel)) .nil
  have hwords : SpelledAll arguments
      ["--engine", "list", "--nested-low-cardinality", "--prefix", "", "--catalog=a=b"] :=
    .cons (.apart (by decide) (by decide +kernel)) <| .cons (.switch rfl) <|
      .cons (.apart (by decide) (by decide +kernel)) <| .cons (.attached (by decide)) .nil
  have horder : arguments.Perm own := by decide +kernel
  have hspelling : Spelling line own words := .ahead hfront horder hwords
  obtain ⟨hread, hagain⟩ := parse_of_spelling hasks hpaths hspelling
  refine ⟨hpaths, hread, ?_⟩
  exact hagain (.valued .engine "list") (.valued .engine "") .engine _ (by decide +kernel) rfl rfl
    (.attached (by decide))

end CommandLine

end TypeFixtures
