import BranchingStory.Story.Choice

/-!
# Stories

A story is a graph of nodes with the rules for its ending, together with the bounds of every stat.
It is authored as a document, which has to pass validation.

Main results:

- `Story.ofDocument?` accepts a document and keeps its sections, or gives a `Defect`.
-/

namespace BranchingStory

/-!
## Nodes

The vertices of the story graph.  Narratives and decisions wait for the player; routers pass on by
themselves; outcomes end the story.
-/

/-- The text of a node, with variants for personas and locations. -/
structure NodeText where
  base : Option String
  byPersona : Table String
  byLocation : Table String
deriving DecidableEq, Repr

/-- The text for a persona at a location: the location's variant, else the persona's, else the
base text. -/
def NodeText.resolve (text : NodeText) (persona location : String) : String :=
  ((text.byLocation.get? location).or ((text.byPersona.get? persona).or text.base)).getD ""

/-- A way on from a router.  A branch without a condition is never taken. -/
structure Branch where
  condition : Option String
  next : String
  adjustment : Adjustment
deriving DecidableEq, Repr

/-- A vertex of the story graph. -/
inductive Node where
  /-- Text that the player continues from. -/
  | narrative (text : NodeText) (next : Option String) (nextByLocation : Option (Table String))
  /-- Text with choices. -/
  | decision (text : NodeText) (choices : List Choice)
  /-- Passes on along the first branch whose condition holds, else along the default. -/
  | router (branches : List Branch) (fallback : Option String)
  /-- Once in a game, sends the player through all branches whose conditions hold, and then on. -/
  | fanout (branches : List Branch) (resume : String)
  /-- An end of the story. -/
  | outcome (text : NodeText)

namespace Node

/-- The name of the kind of node in authored content. -/
def kind : Node → String
  | narrative .. => "narrative"
  | decision .. => "decision"
  | router .. => "router"
  | fanout .. => "router_multi"
  | outcome .. => "outcome"

/-- Whether the node waits for the player. -/
def isInteractive : Node → Bool
  | narrative .. | decision .. => true
  | _ => false

/-- Whether the node passes on by itself. -/
def isRouting : Node → Bool
  | router .. | fanout .. => true
  | _ => false

/-- Whether the node ends the story. -/
def isOutcome : Node → Bool
  | outcome .. => true
  | _ => false

/-- The text of the node; routers have none. -/
def text? : Node → Option NodeText
  | narrative text .. | decision text _ | outcome text => some text
  | _ => none

/-- The choices at the node. -/
def choices : Node → List Choice
  | decision _ choices => choices
  | _ => []

/-- Where a narrative leads from a location: along the branch for the location, else along the
plain way on. -/
def successor? (location : String) : Node → Option String
  | narrative _ next nextByLocation => (nextByLocation.bind (·.get? location)).or next
  | _ => none

/-- Every node that this one can lead to, in authored order. -/
def successors : Node → List String
  | narrative _ next nextByLocation =>
      (nextByLocation.map Table.values).getD [] ++ next.toList
  | decision _ choices => choices.map Choice.next
  | router branches fallback => branches.map Branch.next ++ fallback.toList
  | fanout branches resume => branches.map Branch.next ++ [resume]
  | outcome _ => []

end Node

/-!
## Endings and the rubric

An outcome rule names an ending and says when it applies; rules with a lower priority number come
first.  The rubric credits a finished playthrough with points.
-/

/-- A rule for the outcome of a playthrough. -/
structure OutcomeRule where
  condition : String
  priority : Amount
  result : String
  description : Option String
deriving DecidableEq, Repr

/-- A rule of the rubric. -/
structure RubricRule where
  id : String
  dimension : Option String
  score : Amount
  condition : Option String
  /-- A second way to write the condition, read when the first is absent. -/
  ifCondition : Option String
  ifFlag : Option String
  ifAnyFlag : Option (List String)
  explanation : Option String
deriving DecidableEq, Repr

/-- When a rubric rule applies. -/
inductive Matcher where
  | condition (condition : String)
  | flag (flag : String)
  | anyFlag (flags : List String)
  | never
deriving DecidableEq, Repr

/-- The matcher of a rule is the first that is authored: a condition in either spelling, a flag, or
a list of flags.  A rule without any never applies. -/
def RubricRule.matcher (rule : RubricRule) : Matcher :=
  match rule.condition.or rule.ifCondition, rule.ifFlag, rule.ifAnyFlag with
  | some condition, _, _ => .condition condition
  | none, some flag, _ => .flag flag
  | none, none, some flags => .anyFlag flags
  | none, none, none => .never

/-- The rules by which a finished playthrough is credited. -/
structure Rubric where
  rules : List RubricRule
  maxScore : Amount
deriving DecidableEq, Repr

/-!
## Documents and stories

A `Document` is a story as authored.  A `Story` is a document that passed validation, together with
the bounds of every stat.  Validation looks at the stats in canonical order and then at the persona
and location tables, and reports the first defect.
-/

/-- Bounds and initial values of stats, by symbol. -/
structure SystemSection where
  variableBounds : Table Bounds
  skillBounds : Table Bounds
  initialValues : Table Amount
deriving DecidableEq, Repr

/-- A story as authored. -/
structure Document where
  version : Option String
  system : SystemSection
  /-- The adjustment at the start of a game, for each persona. -/
  personas : Table Adjustment
  /-- The adjustment at the start of a game, for each location. -/
  locations : Table Adjustment
  personaInfo : Table String
  locationInfo : Table String
  nodes : Table Node
  outcomes : List OutcomeRule
  rubric : Rubric

/-- The bounds authored for a stat.  A skill is looked up among the skills first, any other stat
among the variables first. -/
def SystemSection.bounds? (system : SystemSection) (stat : Stat) : Option Bounds :=
  if stat.isSkill then
    (system.skillBounds.get? stat.key).or (system.variableBounds.get? stat.key)
  else
    (system.variableBounds.get? stat.key).or (system.skillBounds.get? stat.key)

/-- Why a document is no story. -/
inductive Defect where
  | missingBounds (stat : Stat)
  | invertedBounds (stat : Stat) (bounds : Bounds)
  | noPersonas
  | noLocations
deriving DecidableEq, Repr

/-- The wording of a defect. -/
def Defect.message : Defect → String
  | missingBounds stat => "no bounds authored for stat '" ++ stat.key ++ "'"
  | invertedBounds stat bounds =>
      "bounds for stat '" ++ stat.key ++ "' have min " ++ bounds.min.text ++ " > max "
        ++ bounds.max.text
  | noPersonas => "no personas authored"
  | noLocations => "no locations authored"

/-- The defect in the bounds of a stat, if there is one. -/
def SystemSection.boundsDefect? (system : SystemSection) (stat : Stat) : Option Defect :=
  match system.bounds? stat with
  | none => some (.missingBounds stat)
  | some bounds => if bounds.min > bounds.max then some (.invertedBounds stat bounds) else none

/-- The first defect of a document. -/
def Document.defect? (doc : Document) : Option Defect :=
  (Stat.all.findSome? doc.system.boundsDefect?).or
    (if doc.personas.isEmpty then some .noPersonas
     else if doc.locations.isEmpty then some .noLocations
     else none)

/-- A story that can be played. -/
structure Story extends Document where
  bounds : PerStat Bounds

namespace Story

/-- The story of a document. -/
def ofDocument? (doc : Document) : Except Defect Story :=
  match doc.defect? with
  | some defect => .error defect
  | none =>
      .ok {
        doc with
        bounds := .ofFn fun stat => (doc.system.bounds? stat).getD ⟨0, 0⟩ }

/-- The node with an id. -/
def node? (story : Story) (id : String) : Option Node :=
  story.nodes.get? id

/-- Whether an id names a router of either kind. -/
def routesAt (story : Story) (id : String) : Bool :=
  match story.node? id with
  | some node => node.isRouting
  | none => false

/-- The stats at the start of a game: the authored initial values, or zero, moved into the
bounds. -/
def initialStats (story : Story) : Stats :=
  .ofFn fun stat =>
    (story.bounds.get stat).clamp ((story.system.initialValues.get? stat.key).getD 0)

end Story
end BranchingStory
