import Mathlib.Data.List.Basic
import TypeFixtures.Proofs.CommandLine.Words

/-!
# What arguments ask for

A command is asked for by its flags and its operand, in any order, and what is said of the
configuration makes no difference to it.  A flag that is given twice asks for nothing, and neither
does anything that stands beside it.
-/

namespace TypeFixtures

namespace Command

/-- The word that a command starts with. -/
def verb : Command → Verb
  | generate _ => .generate
  | list _ => .list
  | init _ => .init

/-- The paths among what a command asks for. -/
def paths : Command → List String
  | generate call => call.catalog.toList ++ call.output.toList
  | list call => call.catalog.toList
  | init call => [call.path]

/-- The arguments that ask for a command, in one order.  The path of a new project may be left out
where it is the working directory. -/
inductive AskedBy : Command → List Argument → Prop
  | generate (call : Generate) :
      AskedBy (.generate call)
        (Argument.given .catalog call.catalog ++ Argument.given .output call.output ++
          Argument.given .tablePrefix call.tablePrefix ++ Argument.given .engine call.engine ++
          Argument.switched .nested call.nested)
  | list (call : Listing) :
      AskedBy (.list call)
        (Argument.given .catalog call.catalog ++ Argument.switched .json call.json)
  | init (call : Scaffold) :
      AskedBy (.init call) (.operand call.path :: Argument.given .name call.name)
  | initHere (name : Option String) :
      AskedBy (.init ⟨".", name⟩) (Argument.given .name name)

end Command

namespace Argument

variable {flags : List Flag} {flag : Flag} {value : String} {argument more : Argument}
  {arguments : List Argument} {words : List String}

/-! ## What is given -/

/-- The operands among arguments. -/
def operandsIn (arguments : List Argument) : List String :=
  arguments.filterMap fun
    | operand value => some value
    | _ => none

theorem operandsOf_eq (most : Nat) (arguments : List Argument) :
    operandsOf most arguments =
      if most < (operandsIn arguments).length || (operandsIn arguments).contains "" then
        .error .misuse
      else .ok (operandsIn arguments) :=
  rfl

@[simp] theorem valuesOf_append (flag : Flag) (arguments others : List Argument) :
    valuesOf flag (arguments ++ others) = valuesOf flag arguments ++ valuesOf flag others :=
  List.filterMap_append

@[simp] theorem operandsIn_append (arguments others : List Argument) :
    operandsIn (arguments ++ others) = operandsIn arguments ++ operandsIn others :=
  List.filterMap_append

@[simp] theorem valuesOf_given (flag other : Flag) (value : Option String) :
    valuesOf flag (given other value) = if other = flag then value.toList else [] := by
  cases value with
  | none => simp [given, valuesOf]
  | some value => by_cases hsame : other = flag <;> simp [given, valuesOf, hsame]

@[simp] theorem valuesOf_switched (flag other : Flag) (isOn : Bool) :
    valuesOf flag (switched other isOn) = [] := by
  cases isOn <;> rfl

@[simp] theorem valuesOf_operand (flag : Flag) (value : String) (arguments : List Argument) :
    valuesOf flag (operand value :: arguments) = valuesOf flag arguments :=
  rfl

@[simp] theorem operandsIn_given (flag : Flag) (value : Option String) :
    operandsIn (given flag value) = [] := by
  cases value <;> rfl

@[simp] theorem operandsIn_switched (flag : Flag) (isOn : Bool) :
    operandsIn (switched flag isOn) = [] := by
  cases isOn <;> rfl

@[simp] theorem operandsIn_operand (value : String) (arguments : List Argument) :
    operandsIn (operand value :: arguments) = value :: operandsIn arguments :=
  rfl

@[simp] theorem filter_given (flag other : Flag) (value : Option String) :
    (given other value).filter (· == switch flag) = [] := by
  cases value <;> simp [given]

@[simp] theorem filter_switched (flag : Flag) (isOn : Bool) :
    (switched flag isOn).filter (· == switch flag) = switched flag isOn := by
  cases isOn <;> simp [switched]

@[simp] theorem help_not_mem_given (flag : Flag) (value : Option String) :
    .help ∉ given flag value := by
  cases value <;> simp [given]

@[simp] theorem help_not_mem_switched (flag : Flag) (isOn : Bool) :
    .help ∉ switched flag isOn := by
  cases isOn <;> simp [switched]

theorem flag?_of_mem_given {other : Flag} {value? : Option String}
    (h : argument ∈ given other value?) : argument.flag? = some other := by
  cases value? with
  | none => cases h
  | some value =>
      rw [List.mem_singleton.mp h]
      rfl

theorem flag?_of_mem_switched {other : Flag} {isOn : Bool} (h : argument ∈ switched other isOn) :
    argument.flag? = some other := by
  cases isOn with
  | false => cases h
  | true =>
      rw [List.mem_singleton.mp h]
      rfl

/-! ### More than once -/

theorem valueOf_of_two_le (h : 2 ≤ (valuesOf flag arguments).length) :
    valueOf flag arguments = .error .misuse := by
  unfold valueOf
  cases hvalues : valuesOf flag arguments with
  | nil => simp [hvalues] at h
  | cons first rest =>
      cases rest with
      | nil => simp [hvalues] at h
      | cons second rest => rfl

theorem isGiven_of_two_le (h : 2 ≤ (arguments.filter (· == switch flag)).length) :
    isGiven flag arguments = .error .misuse := by
  unfold isGiven
  cases hfound : arguments.filter (· == switch flag) with
  | nil => simp [hfound] at h
  | cons first rest =>
      cases rest with
      | nil => simp [hfound] at h
      | cons second rest => rfl

theorem operandsOf_of_two_le {most : Nat} (hmost : most ≤ 1)
    (h : 2 ≤ (operandsIn arguments).length) : operandsOf most arguments = .error .misuse := by
  have hmore : most < (operandsIn arguments).length := by omega
  simp [operandsOf_eq, hmore]

/-! ### Another order -/

/-- Only where there are two things at least can their order differ. -/
theorem eq_or_two_le_of_perm {α : Type} {xs ys : List α} (h : xs.Perm ys) :
    xs = ys ∨ (2 ≤ xs.length ∧ 2 ≤ ys.length) := by
  have hlength := h.length_eq
  cases ys with
  | nil => exact .inl (List.perm_nil.mp h)
  | cons y rest =>
      cases rest with
      | nil => exact .inl (List.perm_singleton.mp h)
      | cons z rest =>
          simp only [List.length_cons] at hlength ⊢
          exact .inr (by omega)

variable {others : List Argument}

theorem valueOf_of_perm (h : arguments.Perm others) (flag : Flag) :
    valueOf flag arguments = valueOf flag others := by
  have hvalues : (valuesOf flag arguments).Perm (valuesOf flag others) := h.filterMap _
  obtain hsame | ⟨hmore, hmore'⟩ := eq_or_two_le_of_perm hvalues
  · rw [valueOf, hsame, valueOf]
  · rw [valueOf_of_two_le hmore, valueOf_of_two_le hmore']

theorem isGiven_of_perm (h : arguments.Perm others) (flag : Flag) :
    isGiven flag arguments = isGiven flag others := by
  obtain hsame | ⟨hmore, hmore'⟩ := eq_or_two_le_of_perm (h.filter (· == switch flag))
  · rw [isGiven, hsame, isGiven]
  · rw [isGiven_of_two_le hmore, isGiven_of_two_le hmore']

theorem operandsOf_of_perm {most : Nat} (hmost : most ≤ 1) (h : arguments.Perm others) :
    operandsOf most arguments = operandsOf most others := by
  have hoperands : (operandsIn arguments).Perm (operandsIn others) := h.filterMap _
  obtain hsame | ⟨hmore, hmore'⟩ := eq_or_two_le_of_perm hoperands
  · rw [operandsOf_eq, hsame, operandsOf_eq]
  · rw [operandsOf_of_two_le hmost hmore, operandsOf_of_two_le hmost hmore']

/-! ### At most once -/

/-- A value that is given once is the value of its flag. -/
theorem valueOf_of_valuesOf {value : Option String} (h : valuesOf flag arguments = value.toList)
    (hpath : flag.takes = .path → value ≠ some "") : valueOf flag arguments = .ok value := by
  unfold valueOf
  rw [h]
  cases value with
  | none => rfl
  | some value =>
      have hfine : ¬(flag.takes = .path ∧ value = "") :=
        fun hboth => hpath hboth.1 (congrArg some hboth.2)
      simp [hfine]

theorem isGiven_of_filter {isOn : Bool}
    (h : arguments.filter (· == switch flag) = switched flag isOn) :
    isGiven flag arguments = .ok isOn := by
  unfold isGiven
  rw [h]
  cases isOn <;> rfl

theorem operandsOf_of_operandsIn {most : Nat} {operands : List String}
    (h : operandsIn arguments = operands) (hmost : operands.length ≤ most) (hpath : "" ∉ operands) :
    operandsOf most arguments = .ok operands := by
  have hfew : ¬most < operands.length := by omega
  simp [operandsOf_eq, h, hfew, hpath]

theorem valuesOf_eq_nil (h : ∀ argument ∈ arguments, argument.flag? ≠ some flag) :
    valuesOf flag arguments = [] := by
  refine List.filterMap_eq_nil_iff.mpr fun argument hmem => ?_
  have hother := h argument hmem
  cases argument with
  | valued other value => simpa [flag?] using hother
  | switch other => rfl
  | operand value => rfl
  | help => rfl

/-- What another flag is given makes no difference. -/
theorem valueOf_append_other (h : more.flag? ≠ some flag) :
    valueOf flag (arguments ++ [more]) = valueOf flag arguments := by
  have hnone : valuesOf flag [more] = [] :=
    valuesOf_eq_nil fun argument hmem => List.mem_singleton.mp hmem ▸ h
  rw [valueOf, valuesOf_append, hnone, List.append_nil, valueOf]

theorem Spelled.eq_switch (h : Spelled argument words) (hgives : argument.flag? = some flag)
    (hflag : flag.takes = .nothing) : argument = .switch flag := by
  cases h with
  | switch _ => rw [Option.some.inj hgives]
  | attached hvalued => exact absurd (Option.some.inj hgives ▸ hflag) hvalued
  | apart hvalued _ => exact absurd (Option.some.inj hgives ▸ hflag) hvalued
  | operand _ => cases hgives

theorem Spelled.exists_eq_valued (h : Spelled argument words)
    (hgives : argument.flag? = some flag) (hflag : flag.takes ≠ .nothing) :
    ∃ value, argument = .valued flag value := by
  cases h with
  | switch hswitch => exact absurd (Option.some.inj hgives ▸ hswitch) hflag
  | attached _ => exact ⟨_, by rw [Option.some.inj hgives]⟩
  | apart _ _ => exact ⟨_, by rw [Option.some.inj hgives]⟩
  | operand _ => cases hgives

theorem SpelledAll.exists_spelled (h : SpelledAll arguments words) (hmem : argument ∈ arguments) :
    ∃ words, Spelled argument words := by
  induction h with
  | nil => cases hmem
  | cons h hrest ih =>
      rcases List.mem_cons.mp hmem with rfl | hmem
      · exact ⟨_, h⟩
      · exact ih hmem

/-- A switch is on once. -/
theorem isGiven_append_again (hmem : switch flag ∈ arguments) :
    isGiven flag (arguments ++ [switch flag]) = .error .misuse := by
  have hfirst : switch flag ∈ arguments.filter (· == switch flag) :=
    List.mem_filter.mpr ⟨hmem, by simp⟩
  have hlength := List.length_pos_of_mem hfirst
  refine isGiven_of_two_le ?_
  simp only [List.filter_append, List.length_append, List.filter_cons, beq_self_eq_true, if_true,
    List.filter_nil, List.length_singleton]
  omega

/-- A flag has one value. -/
theorem valueOf_append_again {again : String} (hmem : valued flag value ∈ arguments) :
    valueOf flag (arguments ++ [valued flag again]) = .error .misuse := by
  have hfirst : value ∈ valuesOf flag arguments :=
    List.mem_filterMap.mpr ⟨_, hmem, by simp⟩
  have hlength := List.length_pos_of_mem hfirst
  have hagain : valuesOf flag [valued flag again] = [again] := by simp [valuesOf]
  refine valueOf_of_two_le ?_
  rw [valuesOf_append, hagain, List.length_append, List.length_singleton]
  omega

/-- There is no reading of a flag that is given twice. -/
def Misused (flag : Flag) (arguments : List Argument) : Prop :=
  (flag.takes = .nothing → isGiven flag arguments = .error .misuse) ∧
    (flag.takes ≠ .nothing → valueOf flag arguments = .error .misuse)

theorem Misused.value_ne_ok (h : Misused flag arguments) (hflag : flag.takes ≠ .nothing)
    {value : Option String} : valueOf flag arguments ≠ .ok value := by
  rw [h.2 hflag]
  exact nofun

theorem Misused.isGiven_ne_ok (h : Misused flag arguments) (hflag : flag.takes = .nothing)
    {isOn : Bool} : isGiven flag arguments ≠ .ok isOn := by
  rw [h.1 hflag]
  exact nofun

theorem SpelledAll.misused_append (h : SpelledAll arguments words) (hmem : argument ∈ arguments)
    (hgives : argument.flag? = some flag) {again : List String} (hagain : Spelled more again)
    (hmore : more.flag? = some flag) : Misused flag (arguments ++ [more]) := by
  obtain ⟨_, hfirst⟩ := h.exists_spelled hmem
  refine ⟨fun hflag => ?_, fun hflag => ?_⟩
  · rw [hfirst.eq_switch hgives hflag] at hmem
    rw [hagain.eq_switch hmore hflag]
    exact isGiven_append_again hmem
  · obtain ⟨value, hvalue⟩ := hfirst.exists_eq_valued hgives hflag
    obtain ⟨value', hvalue'⟩ := hagain.exists_eq_valued hmore hflag
    rw [hvalue] at hmem
    rw [hvalue']
    exact valueOf_append_again hmem

theorem valueOf_eq_error {refusal : Refusal} (h : valueOf flag arguments = .error refusal) :
    refusal = .misuse := by
  unfold valueOf at h
  split at h
  · cases h
  · split at h
    · exact (Except.error.inj h).symm
    · cases h
  · exact (Except.error.inj h).symm

theorem isGiven_eq_error {refusal : Refusal} (h : isGiven flag arguments = .error refusal) :
    refusal = .misuse := by
  unfold isGiven at h
  split at h
  · cases h
  · cases h
  · exact (Except.error.inj h).symm

theorem operandsOf_eq_error {most : Nat} {refusal : Refusal}
    (h : operandsOf most arguments = .error refusal) : refusal = .misuse := by
  rw [operandsOf_eq] at h
  split at h
  · exact (Except.error.inj h).symm
  · cases h

end Argument

namespace Command

variable {command : Command} {arguments others own : List Argument} {verb : Verb} {flag : Flag}

theorem ofArguments_of_perm (h : arguments.Perm others) :
    ofArguments verb arguments = ofArguments verb others := by
  have hhelp : arguments.contains .help = others.contains .help := by
    rw [Bool.eq_iff_iff, List.contains_iff_mem, List.contains_iff_mem, h.mem_iff]
  have hmost : verb.operands ≤ 1 := by cases verb <;> decide
  unfold ofArguments
  simp only [Argument.operandsOf_of_perm hmost h, Argument.valueOf_of_perm h,
    Argument.isGiven_of_perm h, hhelp]

theorem bind_eq_misuse {α β : Type} {x : Except Refusal α} {f : α → Except Refusal β}
    (hx : ∀ refusal, x = .error refusal → refusal = .misuse)
    (hf : ∀ a, x = .ok a → f a = .error .misuse) : x >>= f = .error .misuse := by
  cases x with
  | ok a => exact hf a rfl
  | error refusal =>
      rw [hx refusal rfl]
      rfl

/-- A command is not read if one of its own flags is not. -/
theorem ofArguments_of_misused (hflag : flag ∈ verb.flags) (hown : flag ≠ .configPath)
    (h : Argument.Misused flag arguments) : ofArguments verb arguments = .error .misuse := by
  refine bind_eq_misuse (fun _ => Argument.operandsOf_eq_error) fun operands _ => ?_
  -- What comes before the flag is read or ends the reading alike.
  cases verb with
  | generate =>
      refine bind_eq_misuse (fun _ => Argument.valueOf_eq_error) fun _ hcatalog => ?_
      refine bind_eq_misuse (fun _ => Argument.valueOf_eq_error) fun _ houtput => ?_
      refine bind_eq_misuse (fun _ => Argument.valueOf_eq_error) fun _ hprefix => ?_
      refine bind_eq_misuse (fun _ => Argument.valueOf_eq_error) fun _ hengine => ?_
      refine bind_eq_misuse (fun _ => Argument.isGiven_eq_error) fun _ hnested => ?_
      simp only [Verb.flags, List.mem_cons, hown, List.not_mem_nil, or_false, false_or] at hflag
      obtain rfl | rfl | rfl | rfl | rfl := hflag
      · exact absurd hcatalog (h.value_ne_ok nofun)
      · exact absurd houtput (h.value_ne_ok nofun)
      · exact absurd hprefix (h.value_ne_ok nofun)
      · exact absurd hengine (h.value_ne_ok nofun)
      · exact absurd hnested (h.isGiven_ne_ok rfl)
  | list =>
      refine bind_eq_misuse (fun _ => Argument.valueOf_eq_error) fun _ hcatalog => ?_
      refine bind_eq_misuse (fun _ => Argument.isGiven_eq_error) fun _ hjson => ?_
      simp only [Verb.flags, List.mem_cons, hown, List.not_mem_nil, or_false, false_or] at hflag
      obtain rfl | rfl := hflag
      · exact absurd hcatalog (h.value_ne_ok nofun)
      · exact absurd hjson (h.isGiven_ne_ok rfl)
  | init =>
      refine bind_eq_misuse (fun _ => Argument.valueOf_eq_error) fun _ hname => ?_
      simp only [Verb.flags, List.mem_cons, hown, List.not_mem_nil, or_false, false_or] at hflag
      obtain rfl := hflag
      exact absurd hname (h.value_ne_ok nofun)

/-! ### The arguments of a command -/

section AskedBy

open Argument

variable (configPath : Option String)

theorem ofArguments_generate (call : Generate) (hcatalog : call.catalog ≠ some "")
    (houtput : call.output ≠ some "") :
    ofArguments .generate (given .configPath configPath ++
      (given .catalog call.catalog ++ given .output call.output ++
        given .tablePrefix call.tablePrefix ++ given .engine call.engine ++
        switched .nested call.nested)) = .ok (.generate call) := by
  generalize harguments : given .configPath configPath ++ _ = arguments
  have hoperands : operandsOf Verb.generate.operands arguments = .ok [] :=
    operandsOf_of_operandsIn (by simp [← harguments]) (Nat.zero_le _) List.not_mem_nil
  have hcatalog' : valueOf .catalog arguments = .ok call.catalog :=
    valueOf_of_valuesOf (by simp [← harguments]) fun _ => hcatalog
  have houtput' : valueOf .output arguments = .ok call.output :=
    valueOf_of_valuesOf (by simp [← harguments]) fun _ => houtput
  have hprefix : valueOf .tablePrefix arguments = .ok call.tablePrefix :=
    valueOf_of_valuesOf (by simp [← harguments]) nofun
  have hengine : valueOf .engine arguments = .ok call.engine :=
    valueOf_of_valuesOf (by simp [← harguments]) nofun
  have hnested : isGiven .nested arguments = .ok call.nested :=
    isGiven_of_filter (by simp [← harguments])
  have hhelp : arguments.contains .help = false := by simp [← harguments]
  unfold ofArguments
  simp only [hoperands, hcatalog', houtput', hprefix, hengine, hnested, hhelp]
  rfl

theorem ofArguments_list (call : Listing) (hcatalog : call.catalog ≠ some "") :
    ofArguments .list (given .configPath configPath ++
      (given .catalog call.catalog ++ switched .json call.json)) = .ok (.list call) := by
  generalize harguments : given .configPath configPath ++ _ = arguments
  have hoperands : operandsOf Verb.list.operands arguments = .ok [] :=
    operandsOf_of_operandsIn (by simp [← harguments]) (Nat.zero_le _) List.not_mem_nil
  have hcatalog' : valueOf .catalog arguments = .ok call.catalog :=
    valueOf_of_valuesOf (by simp [← harguments]) fun _ => hcatalog
  have hjson : isGiven .json arguments = .ok call.json :=
    isGiven_of_filter (by simp [← harguments])
  have hhelp : arguments.contains .help = false := by simp [← harguments]
  unfold ofArguments
  simp only [hoperands, hcatalog', hjson, hhelp]
  rfl

/-- The operands of a new project name its path, if there are any. -/
theorem ofArguments_init {operands : List String} {name : Option String}
    (hown : operandsIn own = operands) (hfew : operands.length ≤ 1) (hpath : "" ∉ operands)
    (hname : valuesOf .name own = name.toList) (hhelp : .help ∉ own) :
    ofArguments .init (given .configPath configPath ++ own) =
      .ok (.init ⟨operands.head?.getD ".", name⟩) := by
  generalize harguments : given .configPath configPath ++ own = arguments
  have hoperands : operandsOf Verb.init.operands arguments = .ok operands :=
    operandsOf_of_operandsIn (by simp [← harguments, hown]) hfew hpath
  have hname' : valueOf .name arguments = .ok name :=
    valueOf_of_valuesOf (by simp [← harguments, hname]) nofun
  have hhelp' : arguments.contains .help = false := by simp [← harguments, hhelp]
  unfold ofArguments
  simp only [hoperands, hname', hhelp']
  rfl

/-- What asks for a command is read as that command, whatever is said of the configuration. -/
theorem ofArguments_of_askedBy (hasks : command.AskedBy own)
    (hpaths : ∀ path ∈ command.paths, path ≠ "") :
    ofArguments command.verb (given .configPath configPath ++ own) = .ok command := by
  cases hasks with
  | generate call =>
      have hcatalog : call.catalog ≠ some "" := fun h => hpaths "" (by simp [paths, h]) rfl
      have houtput : call.output ≠ some "" := fun h => hpaths "" (by simp [paths, h]) rfl
      exact ofArguments_generate configPath call hcatalog houtput
  | list call =>
      have hcatalog : call.catalog ≠ some "" := fun h => hpaths "" (by simp [paths, h]) rfl
      exact ofArguments_list configPath call hcatalog
  | init call =>
      have hpath : "" ∉ [call.path] := fun h => hpaths "" h rfl
      have hoperands : operandsIn (.operand call.path :: given .name call.name) = [call.path] := by
        simp
      exact ofArguments_init configPath hoperands (Nat.le_refl 1) hpath (by simp) (by simp)
  | initHere name =>
      exact ofArguments_init configPath (operandsIn_given _ _) (Nat.zero_le 1) List.not_mem_nil
        (by simp) (by simp)

/-- A command is asked for by flags of its own. -/
theorem AskedBy.mem_flags (hasks : command.AskedBy own) {argument : Argument}
    (hmem : argument ∈ own) (hgives : argument.flag? = some flag) :
    flag ∈ command.verb.flags ∧ flag ≠ .configPath := by
  have hgiven : ∀ {other : Flag} {value : Option String}, argument ∈ given other value →
      flag = other :=
    fun h => Option.some.inj (hgives.symm.trans (flag?_of_mem_given h))
  have hswitched : ∀ {other : Flag} {isOn : Bool}, argument ∈ switched other isOn → flag = other :=
    fun h => Option.some.inj (hgives.symm.trans (flag?_of_mem_switched h))
  cases hasks with
  | generate call =>
      change flag ∈ Verb.generate.flags ∧ flag ≠ .configPath
      simp only [List.mem_append] at hmem
      obtain (((h | h) | h) | h) | h := hmem
      · rw [hgiven h]; decide
      · rw [hgiven h]; decide
      · rw [hgiven h]; decide
      · rw [hgiven h]; decide
      · rw [hswitched h]; decide
  | list call =>
      change flag ∈ Verb.list.flags ∧ flag ≠ .configPath
      obtain h | h := List.mem_append.mp hmem
      · rw [hgiven h]; decide
      · rw [hswitched h]; decide
  | init call =>
      change flag ∈ Verb.init.flags ∧ flag ≠ .configPath
      obtain rfl | h := List.mem_cons.mp hmem
      · cases hgives
      · rw [hgiven h]; decide
  | initHere name =>
      change flag ∈ Verb.init.flags ∧ flag ≠ .configPath
      rw [hgiven hmem]; decide

end AskedBy

end Command

end TypeFixtures
