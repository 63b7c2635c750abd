import BranchingStory.Game.Basic
import BranchingStory.Lint.Report
import BranchingStory.Play.View
import BranchingStory.Playthrough.Json

/-!
# Exchange with a front end

A front end sends requests and gets JSON values: playthroughs, views, readings of stats, tables of
personas and locations, lint reports.  It keeps the playthroughs itself and sends them back with the
next request.
-/

namespace BranchingStory

open Json

/-! ## Values for the front end -/

/-- A reading of a stat. -/
def Reading.toJson (r : Reading) : Json :=
  .object [("stat", .text r.stat.key), ("label", .text r.stat.label), ("value", .int r.value.toInt),
    ("min", .int r.bounds.min.toInt), ("max", .int r.bounds.max.toInt)]

/-- A choice as the player sees it. -/
def ChoiceView.toJson (c : ChoiceView) : Json :=
  .object [("id", .text c.id), ("label", .text c.label), ("locked", .bool c.locked)]

/-- The name of the kind of view. -/
def View.kind : View → String
  | narrative .. => "narrative"
  | decision .. => "decision"
  | outcome .. => "outcome"
  | stalled .. => "stalled"
  | missing .. => "missing"

/-- The members of a view beside its kind. -/
def View.toMembers : View → List (String × Json)
  | narrative node body => [("node", .text node), ("text", .text body)]
  | decision node body choices =>
      [("node", .text node), ("text", .text body),
        ("options", .array (choices.map ChoiceView.toJson))]
  | outcome node body result description scorecard skill =>
      [("node", .text node), ("text", .text body), ("outcome", textOrNull result),
        ("description", textOrNull description),
        ("literacy", orNull Playthrough.scorecardToJson scorecard),
        ("skill", orNull Reading.toJson skill)]
  | stalled node | missing node => [("node", .text node)]

/-- A view, tagged by its kind. -/
def View.toJson (v : View) : Json :=
  .object (("kind", .text v.kind) :: v.toMembers)

/-- A lint report. -/
def LintReport.toJson (report : LintReport) : Json :=
  .object [("errors", .texts report.errors), ("warnings", .texts report.warnings)]

/-- Names with the notes on them. -/
def profilesToJson (names : List String) (notes : Table String) : Json :=
  .array (names.map fun name =>
    .object [("id", .text name), ("info", textOrNull (notes.get? name))])

/-- The version of a story, and its personas and locations. -/
def Story.infoToJson (story : Story) : Json :=
  .object [("version", textOrNull story.version),
    ("personas", profilesToJson story.personas.keys story.personaInfo),
    ("locations", profilesToJson story.locations.keys story.locationInfo)]

/-! ## Requests -/

/-- What a front end can ask for. -/
inductive Request where
  | begin (persona location : String)
  | beginRandom
  /-- Apply the choice with an id; the empty id is to continue. -/
  | play (s : Playthrough) (choice : String)
  | view (s : Playthrough)
  | readings (s : Playthrough)
  | info
  | lint
  | reseed (seed : UInt64)

/-- The answer to a request, and the game after it. -/
structure Answer where
  result : Except GameError Json
  game : Game

namespace Game

/-- The lint report of the story from the start node of the game. -/
def lintReport (game : Game) : LintReport :=
  game.story.lintReport game.settings.startNode

/-- An answer with a playthrough. -/
def answerPlayed (played : Played) : Answer where
  result := played.result.map Playthrough.toJson
  game := played.game

/-- Answer a request. -/
def answer (game : Game) : Request → Traced Answer
  | .begin persona location => do
      return answerPlayed ⟨← game.begin persona location, game⟩
  | .beginRandom => answerPlayed <$> game.beginRandom
  | .play s choice =>
      answerPlayed <$> game.playById s (if choice.isEmpty then none else some choice)
  | .view s => return ⟨.ok (game.story.view s).toJson, game⟩
  | .readings s => return ⟨.ok (.array ((game.story.readings s).map Reading.toJson)), game⟩
  | .info => return ⟨.ok game.story.infoToJson, game⟩
  | .lint => return ⟨.ok game.lintReport.toJson, game⟩
  | .reseed seed => return ⟨.ok .null, game.reseed seed⟩

end Game
end BranchingStory
