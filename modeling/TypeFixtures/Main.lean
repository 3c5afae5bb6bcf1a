import TypeFixtures.CommandLine.Run

/-!
# The program

The commands run on the files of the machine.  Nothing is decided here: arguments, results and the
errors of the machine are handed on.
-/

namespace TypeFixtures.Machine

/-- The number of an error of the machine. -/
def number : IO.Error → UInt32
  | .alreadyExists _ code _ => code
  | .otherError code _ => code
  | .noFileOrDirectory _ code _ => code
  | .invalidArgument _ code _ => code
  | .permissionDenied _ code _ => code
  | .resourceExhausted _ code _ => code
  | .inappropriateType _ code _ => code
  | .noSuchThing _ code _ => code
  | _ => 0

/-- An error of the machine as a fault of a path.  Some calls give the number negated. -/
def fault (error : IO.Error) : FileFault :=
  match min (number error) (0 - number error) with
  | 2 => .missing
  | 17 => .present
  | 20 => .notDirectory
  | 21 => .isDirectory
  | 36 => .nameTooLong
  | _ => .other (toString error)

/-- Do something to a path and report how it went. -/
def attempt (action : IO Unit) : IO (Except FileFault Unit) := do
  try
    action
    pure (.ok ())
  catch error => pure (.error (fault error))

/-- The files of the machine. -/
def files : FileSystem IO where
  isThere path := do
    try
      let _ ← IO.FS.realPath path
      pure true
    catch _ => pure false
  read path := do
    try
      let bytes ← IO.FS.readBinFile path
      pure (.content bytes.data.toList)
    catch error =>
      match fault error with
      | .isDirectory => pure (.notRead .isDirectory)
      | other => pure (.notOpened other)
  makeDirs path := attempt (IO.FS.createDirAll path)
  write path content := attempt (IO.FS.writeBinFile path ⟨content.toArray⟩)

end TypeFixtures.Machine

open TypeFixtures in
/-- Run what the arguments ask for. -/
def main (arguments : List String) : IO UInt32 := do
  let outcome ← CommandLine.run Machine.files arguments
  let stdout ← IO.getStdout
  stdout.write ⟨outcome.printed.toArray⟩
  stdout.flush
  match outcome.complaint with
  | some line => IO.eprintln line
  | none => if outcome.status = 2 then IO.eprint CommandLine.usage
  pure (UInt32.ofNat outcome.status)
