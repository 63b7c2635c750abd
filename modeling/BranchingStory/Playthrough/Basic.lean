import BranchingStory.Sorted.Names
import BranchingStory.Stat

/-!
# Playthroughs

A `Playthrough` is a snapshot of one game: where the player is, the stats and flags collected so
far, what was visited, and the pending stops of a feedback excursion.  Every action makes a new
snapshot, so earlier ones stay valid.

Flags are what authored conditions can ask for.  Marks record which fan-out routers have fired; they
are kept apart, so that no condition can see them.
-/

namespace BranchingStory

/-- One step taken: a node that was continued, or a choice made there. -/
structure Visit where
  node : String
  choice : Option String
deriving DecidableEq, Repr

/-- A rubric rule that counted in the end. -/
structure Credit where
  id : String
  dimension : Option String
  explanation : Option String
deriving DecidableEq, Repr

/-- The rubric result of a finished playthrough. -/
structure Scorecard where
  score : Amount
  maxScore : Amount
  credits : List Credit
deriving DecidableEq, Repr

/-- A snapshot of one game. -/
structure Playthrough where
  node : String
  persona : String
  location : String
  stats : Stats
  flags : Names
  /-- Fan-out routers that have fired. -/
  marks : Names
  history : List Visit
  /-- Stops of a feedback excursion that are still to come. -/
  queue : List String
  /-- Where the story goes on after a feedback excursion. -/
  returnNode : Option String
  outcome : Option String
  outcomeDescription : Option String
  scorecard : Option Scorecard
deriving DecidableEq, Repr

namespace Playthrough

/-- A playthrough that has just begun. -/
def start (node persona location : String) (stats : Stats) : Playthrough where
  node := node
  persona := persona
  location := location
  stats := stats
  flags := ∅
  marks := ∅
  history := []
  queue := []
  returnNode := none
  outcome := none
  outcomeDescription := none
  scorecard := none

/-- The value of a stat. -/
def value (s : Playthrough) (stat : Stat) : Amount :=
  s.stats.get stat

/-- Whether a flag is set. -/
def hasFlag (s : Playthrough) (flag : String) : Bool :=
  decide (flag ∈ s.flags)

/-- Set a flag. -/
def addFlag (s : Playthrough) (flag : String) : Playthrough :=
  { s with flags := s.flags.insert flag }

/-- Whether an outcome has been scored. -/
def isFinished (s : Playthrough) : Bool :=
  s.scorecard.isSome

/-- Whether a feedback excursion is pending. -/
def inFeedback (s : Playthrough) : Bool :=
  !s.queue.isEmpty || s.returnNode.isSome

end Playthrough
end BranchingStory
