import BranchingStory.Game.Setup
import BranchingStory.Terminal.Session

/-!
# The player

A terminal program for playing a story.  It sets up a game from its arguments, shows where a random
playthrough begins, and then obeys the lines of its input.
-/

namespace BranchingStory
namespace Player

/-- How the player is called. -/
def usage : String :=
  "Usage: play --catalog <path> [--config <path>] [--seed <n>]"

/-! ## Arguments -/

/-- What the arguments name. -/
structure Options where
  storyPath : Option String := none
  settingsPath : Option String := none
  /-- A seed that is no number counts as none. -/
  seed : Option UInt64 := none
deriving DecidableEq, Repr

/-- What the player is asked to do. -/
inductive Job where
  | help
  | reject (argument : String)
  | play (options : Options)
deriving DecidableEq, Repr

/-- Read arguments from left to right; the last of equal ones counts. -/
def optionsOf (options : Options) : List String → Except String Options
  | "--catalog" :: path :: rest => optionsOf { options with storyPath := some path } rest
  | "--config" :: path :: rest => optionsOf { options with settingsPath := some path } rest
  | "--seed" :: seed :: rest => optionsOf { options with seed := wordOfText? seed } rest
  | argument :: _ => .error argument
  | [] => .ok options

/-- The job that arguments ask for. -/
def Job.ofArgs (args : List String) : Job :=
  if asksForHelp args then .help
  else
    match optionsOf {} args with
    | .error argument => .reject argument
    | .ok options => .play options

/-- The files that a job reads. -/
def Job.files : Job → List String
  | play options => options.storyPath.toList ++ options.settingsPath.toList
  | _ => []

/-! ## Opening a session -/

/-- The program so far: it has ended, or text was printed and a session is running. -/
inductive Opened where
  | ended (output : Output)
  | running (printed : String) (session : Session)

/-- The lines that introduce a session. -/
def greeting (session : Session) : List String :=
  ["Loaded " ++ toString session.game.story.nodes.size ++ " nodes",
    match session.game.settings.seed with
    | some seed => "Seed: " ++ toString seed.toNat
    | none => "Seed: entropy",
    "Type 'help' for commands.", ""]

/-- The line about lint errors, if there are any. -/
def lintNotice (report : LintReport) : List String :=
  if report.errors.isEmpty then []
  else ["Catalog has " ++ toString report.errors.length
    ++ " lint errors; run content_linter for details."]

/-- Begin a random playthrough of a game. -/
def openGame (game : Game) : Opened :=
  let notice := asLines (lintNotice game.lintReport)
  let played := game.beginRandom.value
  match played.result with
  | .error e => .ended (.failure notice ("ERROR: " ++ e.message))
  | .ok s =>
      let session : Session := ⟨played.game, s⟩
      .running (notice ++ asLines (greeting session ++ session.shown)) session

/-- Open a session for options.  Without a seed the game uses the given source. -/
def openOptions (files : Files) (unseeded : Source) (options : Options) : Opened :=
  match options.storyPath with
  | none => .ended (.failure (asLines [usage]) "ERROR: --catalog is required")
  | some path =>
      let setup : Setup := {
        storyFile := some (files path)
        settingsFile := options.settingsPath.map files
        seed := options.seed }
      match (setup.build unseeded).value with
      | .error e => .ended (.failure "" ("ERROR: " ++ e.message))
      | .ok game => openGame game

/-- Start a job. -/
def Job.opened (files : Files) (unseeded : Source) : Job → Opened
  | help => .ended (.success (asLines [usage]))
  | reject argument => .ended (.failure (asLines [usage]) ("Unknown argument: " ++ argument))
  | play options => openOptions files unseeded options

/-- The lines of an input; a line break at the end does not begin a line. -/
def linesOf (input : String) : List String :=
  let lines := (input.splitOn "\n")
  if lines.getLast? = some "" then lines.dropLast else lines

/-- Everything that a job writes for an input. -/
def Job.run (files : Files) (unseeded : Source) (input : String) (job : Job) : Output :=
  match job.opened files unseeded with
  | .ended output => output
  | .running printed session => .success (printed ++ session.transcript (linesOf input))

end Player
end BranchingStory
