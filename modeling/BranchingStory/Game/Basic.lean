import BranchingStory.Game.Settings
import BranchingStory.Play.Action
import BranchingStory.Story.Decode

/-!
# Games

A `Game` is a story together with the settings in force and the source of everything random.
Playing gives a new playthrough and the game with the rest of its source, so playthroughs can be
kept, compared and taken up again.

Main results:

- `Game.begin_unknownPersona`, `Game.begin_unknownLocation`: when a game cannot begin.
-/

namespace BranchingStory

/-- Why a game cannot be set up or go on. -/
inductive GameError where
  | load (error : LoadError)
  | noSettingsFile
  | malformedSettings
  | routing (error : RoutingError)
  | noStory
  | unknownPersona (name : String)
  | unknownLocation (name : String)
deriving DecidableEq, Repr

/-- The wording of an error.  Details of malformed settings are not given. -/
def GameError.message : GameError → String
  | load error => "catalog error: " ++ error.message
  | noSettingsFile => noFileMessage
  | malformedSettings => "RON error"
  | routing error => "routing error: " ++ error.message
  | noStory => "no catalog provided to the builder"
  | unknownPersona name => "unknown persona: " ++ name
  | unknownLocation name => "unknown location: " ++ name

/-- A story that is played. -/
structure Game where
  story : Story
  settings : Settings
  source : Source

/-- What came of an action, and the game after it. -/
structure Played where
  result : Except GameError Playthrough
  game : Game

namespace Game

/-- Begin the random stream anew from a seed. -/
def reseed (game : Game) (seed : UInt64) : Game where
  story := game.story
  settings := { game.settings with seed := some seed }
  source := .seeded seed

/-! ## Beginning -/

/-- The playthrough before the story moves on from the start node.  The adjustment of the persona
counts for the status variables only; the one of the location follows it and counts for every
stat. -/
def opening (game : Game) (persona location : String) (ofPersona ofLocation : Adjustment) :
    Playthrough :=
  let story := game.story
  let stats := (ofPersona.restrictedTo Stat.statusVariables).applyTo story.bounds story.initialStats
  .start game.settings.startNode persona location (ofLocation.applyTo story.bounds stats)

/-- A playthrough for a persona at a location. -/
def begin (game : Game) (persona location : String) : Traced (Except GameError Playthrough) := do
  match game.story.personas.get? persona, game.story.locations.get? location with
  | none, _ => return .error (.unknownPersona persona)
  | some _, none => return .error (.unknownLocation location)
  | some ofPersona, some ofLocation =>
      Traced.note (.gameStarted persona location)
      let arrived ← game.story.arrive game.settings.maxHops
        (game.opening persona location ofPersona ofLocation)
      return arrived.mapError .routing

/-- No game begins for a persona that is not authored. -/
theorem begin_unknownPersona {game : Game} {persona : String} (location : String)
    (h : game.story.personas.get? persona = none) :
    (game.begin persona location).value = .error (.unknownPersona persona) := by
  simp [begin, h]

/-- No game begins at a location that is not authored. -/
theorem begin_unknownLocation {game : Game} {persona location : String} {ofPersona : Adjustment}
    (hpersona : game.story.personas.get? persona = some ofPersona)
    (hlocation : game.story.locations.get? location = none) :
    (game.begin persona location).value = .error (.unknownLocation location) := by
  simp [begin, hpersona, hlocation]

/-- A key of a table drawn at random, and the source after the draw. -/
def drawKey {α : Type} (table : Table α) (source : Source) : Option String × Source :=
  if table.isEmpty then (none, source)
  else
    let (i, source) := source.index table.size
    (table.keys[i]?, source)

/-- A playthrough for a random persona at a random location. -/
def beginRandom (game : Game) : Traced Played := do
  let (persona, source) := drawKey game.story.personas game.source
  match persona with
  | none => return ⟨.error (.unknownPersona ""), { game with source := source }⟩
  | some persona =>
      let (location, source) := drawKey game.story.locations source
      let game := { game with source := source }
      match location with
      | none => return ⟨.error (.unknownLocation ""), game⟩
      | some location => return ⟨← game.begin persona location, game⟩

/-! ## Playing -/

/-- The choice with an id at a decision. -/
def findChoice (game : Game) (node id : String) : Traced (Option Choice) := do
  match (game.story.node? node).bind fun n => n.choices.find? fun choice => choice.id == id with
  | some choice => return some choice
  | none =>
      Traced.note (.noSuchOption id node)
      return none

/-- Apply a choice, or continue without one. -/
def play (game : Game) (s : Playthrough) (choice : Option Choice) : Traced Played := do
  let turn ← game.story.act game.settings.maxHops s choice game.source
  return ⟨turn.result.mapError .routing, { game with source := turn.source }⟩

/-- Apply the choice with an id, or continue without one.  An id that no choice at the node has
counts as no choice. -/
def playById (game : Game) (s : Playthrough) : Option String → Traced Played
  | some id => do game.play s (← game.findChoice s.node id)
  | none => game.play s none

end Game
end BranchingStory
