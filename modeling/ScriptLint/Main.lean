/-
The program. Its arguments are those of the command line; the files it works on come from standard
input as a workspace in JSON, since scripts are parsed by another program.
-/
import ScriptLint.Cli.Run

open ScriptLint

/-- Reads all of standard input. -/
partial def readAll (input : IO.FS.Stream) (text : String) : IO String := do
  let line ← input.getLine
  if line.isEmpty then return text else readAll input (text ++ line)

def main (args : List String) : IO UInt32 := do
  let text ← readAll (← IO.getStdin) ""
  match (Json.read? .standard text).bind (Workspace.ofJson? "/") with
  | none =>
    IO.eprintln "The workspace on standard input is not understood."
    return 2
  | some files =>
    match Cli.run files args with
    | .error f =>
      IO.eprintln (f.kind ++ ": " ++ f.message)
      return 1
    | .ok outcome =>
      for notice in outcome.notices do
        IO.eprintln (notice.level ++ ": " ++ notice.message)
      IO.eprint outcome.errors
      IO.print outcome.output
      return outcome.exitCode.toUInt32
