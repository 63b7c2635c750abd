import BranchingStory.Game.Basic

/-!
# Setting up a game

A `Setup` lists what a game is made of: a story or the file that holds it, settings or the file that
holds them, and values that override single settings.  Settings are read before the story, so a
fault in both shows as one of the settings.
-/

namespace BranchingStory

/-- What a game is made of. -/
structure Setup where
  story : Option Story := none
  /-- Read if no story is given. -/
  storyFile : Option FileText := none
  settings : Option Settings := none
  /-- Read if no settings are given. -/
  settingsFile : Option FileText := none
  startNode : Option String := none
  maxHops : Option Nat := none
  seed : Option UInt64 := none

namespace Setup

/-- The settings in a file. -/
def readSettings : FileText → Except GameError Settings
  | none => .error .noSettingsFile
  | some text =>
      match Settings.read? text with
      | some settings => .ok settings
      | none => .error .malformedSettings

/-- The settings before single values are overridden. -/
def baseSettings (setup : Setup) : Except GameError Settings :=
  match setup.settings, setup.settingsFile with
  | some settings, _ => .ok settings
  | none, some file => readSettings file
  | none, none => .ok {}

/-- Settings with the single values of the setup in place of their own. -/
def override (setup : Setup) (settings : Settings) : Settings where
  startNode := setup.startNode.getD settings.startNode
  maxHops := setup.maxHops.getD settings.maxHops
  seed := setup.seed.or settings.seed

/-- The story of the setup. -/
def findStory (setup : Setup) : Except GameError Story :=
  match setup.story, setup.storyFile with
  | some story, _ => .ok story
  | none, some file => (Story.loadFile file).mapError .load
  | none, none => .error .noStory

/-- The settings and the story, or the first error. -/
def parts (setup : Setup) : Except GameError (Settings × Story) := do
  let settings ← setup.baseSettings
  let story ← setup.findStory
  return (setup.override settings, story)

/-- The game of a setup.  Without a seed it uses the given source. -/
def build (setup : Setup) (unseeded : Source) : Traced (Except GameError Game) := do
  match setup.parts with
  | .error e => return .error e
  | .ok (settings, story) =>
      if (story.node? settings.startNode).isNone then
        Traced.note (.startMissing settings.startNode)
      return .ok {
        story := story
        settings := settings
        source := (settings.seed.map Source.seeded).getD unseeded }

end Setup
end BranchingStory
