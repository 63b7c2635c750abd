import BranchingStory.Game.Settings
import BranchingStory.Lint.Report
import BranchingStory.Story.Decode

/-!
# The content linter

A terminal program that reports what is wrong with a story file.  What it shares with the other
terminal program stands in front of it: the output, the files that are read, and the question for
help.
-/

namespace BranchingStory

/-! ## Terminal programs -/

/-- What a terminal program has written, and its exit code. -/
structure Output where
  code : UInt32
  out : String
  err : String
deriving DecidableEq, Repr

namespace Output

/-- A program that succeeds. -/
def success (out : String) : Output :=
  ⟨0, out, ""⟩

/-- A program that fails with a message. -/
def failure (out message : String) : Output :=
  ⟨1, out, message ++ "\n"⟩

end Output

/-- The files that a program can read, by path. -/
abbrev Files := String → FileText

/-- Lines, each with a line break at its end. -/
def asLines (lines : List String) : String :=
  String.join (lines.map (· ++ "\n"))

/-- Whether the first argument asks for help, or there is none. -/
def asksForHelp : List String → Bool
  | [] => true
  | first :: _ => first == "--help" || first == "-h"

/-!
## The linter

The linter fails if the story does not load or has lint errors.
-/

namespace Linter

/-- How the linter is called. -/
def usage : String :=
  "Usage: content_linter <catalog.json> [--start <node_id>]"

/-- What the linter is asked to do. -/
inductive Job where
  | help
  | check (file start : String)
deriving DecidableEq, Repr

/-- The start node that arguments ask for; the last one counts, and other arguments are passed
over. -/
def startOf (start : String) : List String → String
  | "--start" :: node :: rest => startOf node rest
  | _ :: rest => startOf start rest
  | [] => start

/-- The job that arguments ask for. -/
def Job.ofArgs (args : List String) : Job :=
  match asksForHelp args, args with
  | false, file :: rest => .check file (startOf ({} : Settings).startNode rest)
  | _, _ => .help

/-- The file that a job reads. -/
def Job.files : Job → List String
  | help => []
  | check file _ => [file]

/-- The lines about a story. -/
def reportLines (story : Story) (report : LintReport) : List String :=
  ["Loaded " ++ toString story.nodes.size ++ " nodes, " ++ toString story.personas.size
      ++ " personas, " ++ toString story.locations.size ++ " locations",
    "", "=== Content Lint Report ===", ""]
    ++ (if report.isClean then ["All checks passed!"] else [])
    ++ report.warnings.map ("WARNING: " ++ ·)
    ++ report.errors.map ("ERROR: " ++ ·)
    ++ ["", "Summary: " ++ toString report.errors.length ++ " errors, "
      ++ toString report.warnings.length ++ " warnings"]

/-- Do a job. -/
def Job.run (files : Files) : Job → Output
  | help => .success (asLines [usage])
  | check file start =>
      match Story.loadFile (files file) with
      | .error e => .failure "" ("ERROR: Failed to load catalog: " ++ e.message)
      | .ok story =>
          let report := story.lintReport start
          ⟨if report.errors.isEmpty then 0 else 1, asLines (reportLines story report), ""⟩

end Linter
end BranchingStory
