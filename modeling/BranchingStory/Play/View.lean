import BranchingStory.Story.Basic

/-!
# Views

What a player sees of a playthrough: the text of the node with its placeholders filled, the choices
with their locks, and at an outcome the results.
-/

namespace BranchingStory

/-!
## Placeholders

Node texts can show stats: a stat symbol between braces stands for the value of the stat.  Every
occurrence is replaced, one stat after the other.
-/

namespace Template

/-- Replace occurrences of a pattern from left to right.  The first argument counts characters that
belong to an occurrence already replaced. -/
def replaceFrom (pattern replacement : List Char) : Nat → List Char → List Char
  | _, [] => []
  | skip + 1, _ :: rest => replaceFrom pattern replacement skip rest
  | 0, c :: rest =>
      if pattern.isPrefixOf (c :: rest) then
        replacement ++ replaceFrom pattern replacement (pattern.length - 1) rest
      else c :: replaceFrom pattern replacement 0 rest

/-- Replace every occurrence of a pattern that is not empty. -/
def replaceAll (pattern replacement : List Char) (text : List Char) : List Char :=
  replaceFrom pattern replacement 0 text

/-- The characters that stand for a stat. -/
def placeholder (stat : Stat) : List Char :=
  '\x7b' :: stat.key.toList ++ ['\x7d']

end Template

/-- A text with the values of stats in place of their placeholders. -/
def render (stats : Stats) (text : String) : String :=
  String.ofList <|
    Stat.all.foldl
      (fun chars stat =>
        Template.replaceAll (Template.placeholder stat) (stats.get stat).text.toList chars)
      text.toList

/-! ## What is shown -/

/-- A choice as the player sees it. -/
structure ChoiceView where
  id : String
  label : String
  /-- Whether the flag or a gate of the choice stops the player. -/
  locked : Bool
deriving DecidableEq, Repr

/-- A stat with its value and bounds. -/
structure Reading where
  stat : Stat
  value : Amount
  bounds : Bounds
deriving DecidableEq, Repr

/-- What a player sees. -/
inductive View where
  | narrative (node text : String)
  | decision (node text : String) (choices : List ChoiceView)
  | outcome (node text : String) (outcome description : Option String)
      (scorecard : Option Scorecard) (skill : Option Reading)
  /-- A router that the story did not get past. -/
  | stalled (node : String)
  /-- An id that names no node. -/
  | missing (node : String)
deriving DecidableEq, Repr

namespace Story

/-- The reading of a stat. -/
def reading (story : Story) (s : Playthrough) (stat : Stat) : Reading where
  stat := stat
  value := s.value stat
  bounds := story.bounds.get stat

/-- The readings of all stats in canonical order. -/
def readings (story : Story) (s : Playthrough) : List Reading :=
  Stat.all.map (story.reading s)

/-- A node text as shown in a playthrough. -/
def shownText (s : Playthrough) (text : NodeText) : String :=
  render s.stats (text.resolve s.persona s.location)

/-- A choice as shown in a playthrough. -/
def shownChoice (s : Playthrough) (choice : Choice) : ChoiceView where
  id := choice.id
  label := choice.label
  locked := !choice.isOpenTo s

/-- What a player sees of a playthrough. -/
def view (story : Story) (s : Playthrough) : View :=
  match story.node? s.node with
  | none => .missing s.node
  | some (.narrative text ..) => .narrative s.node (shownText s text)
  | some (.decision text choices) =>
      .decision s.node (shownText s text) (choices.map (shownChoice s))
  | some (.outcome text) =>
      .outcome s.node (shownText s text) s.outcome s.outcomeDescription s.scorecard
        ((Stat.ofLocation? s.location).map (story.reading s))
  | some (.router ..) | some (.fanout ..) => .stalled s.node

end Story
end BranchingStory
