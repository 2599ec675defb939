import DebugShell.Program

/-!
# Running the program

Reads the command line, the environment, files and standard input, and writes what the program has
to say.
-/

namespace DebugShell.Program

/-- The words in which the operating system says why a file cannot be read. -/
def systemMessage : IO.Error → String
  | .noFileOrDirectory _ code _ => s!"No such file or directory (os error {code})"
  | .permissionDenied _ code _ => s!"Permission denied (os error {code})"
  | .inappropriateType _ code _ => s!"Is a directory (os error {code})"
  | e => toString e

/-- Read a file. -/
def readText (path : String) : IO (Except String String) := do
  try
    return .ok (← IO.FS.readFile path)
  catch e => return .error (systemMessage e)

/-- Write what the program has to say. -/
def Written.put (w : Written) : IO Unit := do
  IO.print w.out
  (← IO.getStdout).flush
  IO.eprint w.err

/-- Whether colours are shown: where the environment asks for them, or on a terminal unless it asks
for none. -/
def wantsColour : IO Bool := do
  if (← IO.getEnv "NO_COLOR").isSome then return false
  match ← IO.getEnv "CLICOLOR_FORCE" with
  | some value => return value != "0"
  | none => (← IO.getStdout).isTty

/-- Take lines from standard input up to the one that leaves or to the end. -/
partial def takeInput (frontEnd : FrontEnd) (colour : Bool) (shell : Shell) : IO Unit := do
  (shownPrompt frontEnd colour).put
  let line ← (← IO.getStdin).getLine
  if line != "" then
    let (shell, output, control) := takeLine frontEnd colour shell line
    output.put
    match control with
    | .proceed => takeInput frontEnd colour shell
    | .leave => return

end DebugShell.Program

open DebugShell.Program

def main (words : List String) : IO UInt32 := do
  let request := (Request.ofWords words).toOption.getD {}
  let texts ← request.files.mapM fun path => return (path, ← readText path)
  let input ←
    if request.script = some "-" then (← IO.getStdin).readToEnd else pure ""
  let surroundings : Surroundings :=
    { words
      colour := ← wantsColour
      logFilter := ← IO.getEnv "PWNGATE_LOG"
      fileText := fun path => (texts.lookup path).getD (.error "No such file or directory")
      input }
  match start surroundings with
  | .ended written status =>
    written.put
    return status
  | .ready shell =>
    let colour := surroundings.colour
    let terminal ← (← IO.getStdin).isTty
    (banner colour).put
    takeInput ⟨terminal, !terminal⟩ colour shell
    return 0
