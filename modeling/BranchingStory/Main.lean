import BranchingStory.Terminal.Linter
import BranchingStory.Terminal.Player

/-!
# The command line

The first argument names the program, the content linter or the player; the other arguments are for
that program.
-/

namespace BranchingStory

/-- The text of a file, if the file can be read. -/
def readFileText (path : String) : IO FileText := do
  try return some (← IO.FS.readFile path)
  catch _ => return none

/-- The files with the given paths. -/
def readFiles (paths : List String) : IO Files := do
  let entries ← paths.mapM fun path => do return (path, ← readFileText path)
  return fun path => ((entries.find? fun entry => entry.1 == path).bind Prod.snd)

/-- Write what a program has written and give its exit code. -/
def finish (output : Output) : IO UInt32 := do
  IO.print output.out
  IO.eprint output.err
  return output.code

/-- A source that differs from run to run. -/
def freshSource : IO Source := do
  let bytes ← IO.getRandomBytes 8
  return .seeded (bytes.data.foldl (fun seed byte => seed * 256 + byte.toUInt64) 0)

/-- Read lines and answer them until the session or the input ends. -/
partial def converse (session : Session) : IO Unit := do
  let stdout ← IO.getStdout
  stdout.putStr Session.prompt
  stdout.flush
  let line ← (← IO.getStdin).getLine
  if line.isEmpty then return
  let reply := session.step line
  stdout.putStr reply.printed
  match reply.next with
  | some session => converse session
  | none => return

/-- Run the content linter. -/
def runLinter (args : List String) : IO UInt32 := do
  let job := Linter.Job.ofArgs args
  finish (job.run (← readFiles job.files))

/-- Run the player. -/
def runPlayer (args : List String) : IO UInt32 := do
  let job := Player.Job.ofArgs args
  match job.opened (← readFiles job.files) (← freshSource) with
  | .ended output => finish output
  | .running printed session =>
      IO.print printed
      converse session
      return 0

end BranchingStory

/-- Run the program that the first argument names. -/
def main : List String → IO UInt32
  | "content_linter" :: args => BranchingStory.runLinter args
  | "play" :: args => BranchingStory.runPlayer args
  | _ => do
      IO.eprintln BranchingStory.Linter.usage
      IO.eprintln BranchingStory.Player.usage
      return 1
