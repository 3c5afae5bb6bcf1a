import TypeFixtures.Generate
import TypeFixtures.Listing
import TypeFixtures.Scaffold

/-!
# Command lines

A command line names a command among its flags.  The value of a flag stands behind an equals sign or
in the next argument; a flag is given at most once, a path is never empty, and an argument that
starts with a dash is no value of its own.  The directory of the configuration may stand before the
command or after it.
-/

namespace TypeFixtures

/-- The flags. -/
inductive Flag where
  | configPath
  | catalog
  | output
  | tablePrefix
  | engine
  | nested
  | json
  | name
  deriving DecidableEq, Repr

namespace Flag

/-- What a flag takes. -/
inductive Takes where
  | path
  | text
  | nothing
  deriving DecidableEq, Repr

/-- The name after two dashes. -/
def long : Flag → String
  | configPath => "config-path"
  | catalog => "catalog"
  | output => "output"
  | tablePrefix => "prefix"
  | engine => "engine"
  | nested => "nested-low-cardinality"
  | json => "json"
  | name => "name"

/-- The letter after one dash. -/
def short : Flag → Option Char
  | configPath => some 'c'
  | output => some 'o'
  | _ => none

/-- What a flag takes. -/
def takes : Flag → Takes
  | configPath | catalog | output => .path
  | tablePrefix | engine | name => .text
  | nested | json => .nothing

end Flag

/-- The commands. -/
inductive Verb where
  | generate
  | list
  | init
  deriving DecidableEq, Repr

namespace Verb

/-- The command with a name. -/
def ofName? : String → Option Verb
  | "generate" => some generate
  | "list" => some list
  | "init" => some init
  | _ => none

/-- The flags that may stand after a command. -/
def flags : Verb → List Flag
  | generate => [.configPath, .catalog, .output, .tablePrefix, .engine, .nested]
  | list => [.configPath, .catalog, .json]
  | init => [.configPath, .name]

/-- How many operands a command takes at most. -/
def operands : Verb → Nat
  | generate => 0
  | list => 0
  | init => 1

end Verb

/-- Why a command line starts no command. -/
inductive Refusal where
  /-- Help was asked for. -/
  | help
  | misuse
  deriving DecidableEq, Repr

/-- One flag or operand of a command line. -/
inductive Argument where
  | switch (flag : Flag)
  | valued (flag : Flag) (value : String)
  | operand (value : String)
  /-- A wish for help; whatever stands behind it does not matter. -/
  | help
  deriving DecidableEq, Repr

namespace Argument

/-- How an argument starts. -/
inductive Opening where
  | whole (argument : Argument)
  /-- A flag whose value is the next argument. -/
  | awaits (flag : Flag)
  | misused
  deriving DecidableEq, Repr

/-- The text up to an equals sign, and the text after it if there is one. -/
def splitEquals : List Char → List Char × Option (List Char)
  | [] => ([], none)
  | '=' :: rest => ([], some rest)
  | c :: rest => (c :: (splitEquals rest).1, (splitEquals rest).2)

/-- A flag with the value that is attached to it, if any. -/
def attach (flag : Flag) (value : Option (List Char)) : Opening :=
  match flag.takes, value with
  | .nothing, none => .whole (.switch flag)
  | .nothing, some _ => .misused
  | _, some value => .whole (.valued flag (String.ofList value))
  | _, none => .awaits flag

/-- An argument after its two dashes. -/
def openLong (flags : List Flag) (cs : List Char) : Opening :=
  let (name, value) := splitEquals cs
  match flags.find? (·.long.toList == name) with
  | some flag => attach flag value
  | none =>
      if name = "help".toList && value.isNone then .whole .help else .misused

/-- An argument after its dash: a letter and the value that is attached to it. -/
def openShort (flags : List Flag) (letter : Char) (rest : List Char) : Opening :=
  match flags.find? (·.short == some letter) with
  | some flag =>
      match rest with
      | [] => attach flag none
      | '=' :: value => attach flag (some value)
      | value => attach flag (some value)
  | none => if letter = 'h' then .whole .help else .misused

/-- How an argument starts; a dash alone is an operand. -/
def opening (flags : List Flag) (argument : String) : Opening :=
  match argument.toList with
  | '-' :: '-' :: rest => openLong flags rest
  | '-' :: letter :: rest => openShort flags letter rest
  | _ => .whole (.operand argument)

/-- Whether an argument can be the value of the flag before it. -/
def isValue (argument : String) : Bool :=
  match argument.toList with
  | '-' :: _ :: _ => false
  | _ => true

/-- Read the arguments after a command, up to a wish for help.  After two dashes all are
operands. -/
def readAll (flags : List Flag) : List String → Except Refusal (List Argument)
  | [] => .ok []
  | [argument] =>
      if argument = "--" then .ok []
      else match opening flags argument with
        | .whole read => .ok [read]
        | .awaits _ | .misused => .error .misuse
  | argument :: next :: rest =>
      if argument = "--" then .ok ((next :: rest).map operand)
      else match opening flags argument with
        | .whole .help => .ok [.help]
        | .whole read => (readAll flags (next :: rest)).map (read :: ·)
        | .awaits flag =>
            if isValue next then (readAll flags rest).map (valued flag next :: ·)
            else .error .misuse
        | .misused => .error .misuse

/-- Read the flags before a command; the value holds the rest from the command on. -/
def readBefore (flags : List Flag) : List String → Except Refusal (List Argument × List String)
  | [] => .ok ([], [])
  | [argument] =>
      match opening flags argument with
      | .whole (.operand _) => .ok ([], [argument])
      | .whole read => .ok ([read], [])
      | .awaits _ | .misused => .error .misuse
  | argument :: next :: rest =>
      match opening flags argument with
      | .whole (.operand _) => .ok ([], argument :: next :: rest)
      | .whole .help => .ok ([.help], [])
      | .whole read =>
          (readBefore flags (next :: rest)).map fun (found, rest) => (read :: found, rest)
      | .awaits flag =>
          if isValue next then
            (readBefore flags rest).map fun (found, rest) => (valued flag next :: found, rest)
          else .error .misuse
      | .misused => .error .misuse

/-- The values that a flag is given. -/
def valuesOf (flag : Flag) (arguments : List Argument) : List String :=
  arguments.filterMap fun
    | valued other value => if other = flag then some value else none
    | _ => none

/-- The value of a flag that is given at most once; a path is not empty. -/
def valueOf (flag : Flag) (arguments : List Argument) : Except Refusal (Option String) :=
  match valuesOf flag arguments with
  | [] => .ok none
  | [value] => if flag.takes = .path && value = "" then .error .misuse else .ok (some value)
  | _ => .error .misuse

/-- Whether a flag that takes nothing is given; it is given at most once. -/
def isGiven (flag : Flag) (arguments : List Argument) : Except Refusal Bool :=
  match arguments.filter (· == switch flag) with
  | [] => .ok false
  | [_] => .ok true
  | _ => .error .misuse

/-- The operands, of which there are at most a number. -/
def operandsOf (most : Nat) (arguments : List Argument) : Except Refusal (List String) :=
  let operands := arguments.filterMap fun
    | operand value => some value
    | _ => none
  if most < operands.length || operands.contains "" then .error .misuse else .ok operands

end Argument

/-- A command with all it asks for. -/
inductive Command where
  | generate (call : Generate)
  | list (call : Listing)
  | init (call : Scaffold)
  deriving DecidableEq, Repr

namespace Command

/-- The command that its arguments ask for, unless help is wished for. -/
def ofArguments (verb : Verb) (arguments : List Argument) : Except Refusal Command := do
  let operands ← Argument.operandsOf verb.operands arguments
  let command ← match verb with
    | .generate => do
        pure (generate {
          catalog := ← Argument.valueOf .catalog arguments
          output := ← Argument.valueOf .output arguments
          tablePrefix := ← Argument.valueOf .tablePrefix arguments
          engine := ← Argument.valueOf .engine arguments
          nested := ← Argument.isGiven .nested arguments })
    | .list => do
        pure (list {
          catalog := ← Argument.valueOf .catalog arguments
          json := ← Argument.isGiven .json arguments })
    | .init => do
        pure (init {
          path := operands.head?.getD "."
          name := ← Argument.valueOf .name arguments })
  if arguments.contains .help then throw .help
  pure command

end Command

/-- A command and the directory of its configuration. -/
structure CommandLine where
  configPath : Option String
  command : Command
  deriving DecidableEq, Repr

namespace CommandLine

/-- What asking for help by name comes to: the words behind it name at most one command. -/
def helpOn : List String → Refusal
  | [] => .help
  | [word] => if (Verb.ofName? word).isSome || word = "help" then .help else .misuse
  | _ => .misuse

/-- Read a command line.  A directory given after the command counts before one given ahead. -/
def parse (arguments : List String) : Except Refusal CommandLine := do
  let (before, rest) ← Argument.readBefore [.configPath] arguments
  let outer ← Argument.valueOf .configPath before
  if before.contains .help then throw .help
  match rest with
  | [] => throw .misuse
  | word :: rest =>
      match Verb.ofName? word with
      | none => throw (if word = "help" then helpOn rest else .misuse)
      | some verb => do
          let arguments ← Argument.readAll verb.flags rest
          let inner ← Argument.valueOf .configPath arguments
          let command ← Command.ofArguments verb arguments
          pure ⟨inner <|> outer, command⟩

end CommandLine

end TypeFixtures
