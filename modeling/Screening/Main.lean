import Screening.Command

/-!
# The program

Reads what the command line asks for, lets `Command.run` answer it, and prints the answer.
-/

open Screening

/-- Why a file or the standard input cannot be read. -/
def reasonOf : IO.Error → String
  | .noFileOrDirectory .. => "No such file or directory (os error 2)"
  | other => toString other

/-- The contents of a file, or why it cannot be read. -/
def readFile (path : String) : IO (Except String String) := do
  try return .ok (← IO.FS.readFile path)
  catch e => return .error (reasonOf e)

/-- Everything on the standard input. -/
partial def readStream (input : IO.FS.Stream) (before : String) : IO String := do
  let line ← input.getLine
  if line.isEmpty then return before else readStream input (before ++ line)

/-- The files that a request names. -/
def namedFiles : Command.Request → List String
  | .version => []
  | .invocation i =>
      i.settings.toList ++
        match i.task with
        | .score rules .. => [rules]
        | _ => []

/-- Whether a request reads the standard input. -/
def needsInput : Command.Request → Bool
  | .version => false
  | .invocation i =>
      match i.task with
      | .evaluate _ none _ | .score _ none _ => true
      | _ => false

def main (args : List String) : IO UInt32 := do
  let request := Command.Request.parse? args
  let files ← ((request.map namedFiles).getD []).mapM fun path => return (path, ← readFile path)
  let input ←
    if (request.map needsInput).getD false then
      try pure (Except.ok (← readStream (← IO.getStdin) ""))
      catch e => pure (Except.error (reasonOf e))
    else pure (Except.ok "")
  let inputs : Command.Inputs := ⟨fun path => (files.lookup path).getD (.ok ""), input⟩
  let outcome := Command.run args inputs
  IO.print outcome.output
  IO.eprint outcome.errors
  return outcome.exitCode.toUInt32
