import BranchingStory.Json.Basic
import BranchingStory.Story.Basic

/-!
# Stories to JSON

Encoders for the parts of an authored story, with every default written out.
-/

namespace BranchingStory

open Json

/-- An amount. -/
def Amount.toJson (a : Amount) : Json :=
  .int a.toInt

/-- A table as an object. -/
def Table.toJson {α : Type} (f : α → Json) (t : Table α) : Json :=
  .object (t.toList.map fun entry => (entry.1, f entry.2))

/-- A list as an array. -/
def listToJson {α : Type} (f : α → Json) (l : List α) : Json :=
  .array (l.map f)

/-! ## Effects and choices -/

/-- An adjustment. -/
def Adjustment.toJson (a : Adjustment) : Json :=
  a.amounts.toJson Amount.toJson

/-- An inclusive range. -/
def Bounds.toJson (b : Bounds) : Json :=
  .object [("min", Amount.toJson b.min), ("max", Amount.toJson b.max)]

/-- An inclusive range whose ends may be open. -/
def Gate.toJson (g : Gate) : Json :=
  .object [("min", orNull Amount.toJson g.min), ("max", orNull Amount.toJson g.max)]

/-- One flag or a list of flags. -/
def FlagList.toJson : FlagList → Json
  | one flag => .text flag
  | many flags => .texts flags

/-- A chance, which is finite. -/
def chanceToJson (x : Float) : Json :=
  orNull .number (Number.ofFloat? x)

/-- A random effect. -/
def ChanceEntry.toJson (e : ChanceEntry) : Json :=
  .object [("condition", textOrNull e.condition), ("chance", chanceToJson e.chance),
    ("effect", e.effect.toJson)]

/-- Effects special to a persona. -/
def PersonaEffects.toJson (e : PersonaEffects) : Json :=
  .object [("delta", orNull Adjustment.toJson e.adjustment),
    ("probability", orNull (listToJson ChanceEntry.toJson) e.chances)]

/-- A choice. -/
def Choice.toJson (c : Choice) : Json :=
  .object [("id", .text c.id), ("label", .text c.label),
    ("requires_flag", textOrNull c.requiredFlag),
    ("requires_value", c.gates.toJson Gate.toJson), ("delta", c.adjustment.toJson),
    ("flag", orNull FlagList.toJson c.flagList),
    ("probability", listToJson ChanceEntry.toJson c.chances),
    ("persona_overrides", c.personaEffects.toJson PersonaEffects.toJson), ("next", .text c.next)]

/-! ## Nodes -/

/-- A way on from a router. -/
def Branch.toJson (b : Branch) : Json :=
  .object [("if", textOrNull b.condition), ("next", .text b.next),
    ("apply_delta", b.adjustment.toJson)]

/-- The members for the text of a node. -/
def NodeText.toMembers (t : NodeText) : List (String × Json) :=
  [("text", textOrNull t.base), ("text_by_persona", t.byPersona.toJson .text),
    ("text_by_location", t.byLocation.toJson .text)]

/-- The members of a node beside its tag. -/
def Node.toMembers : Node → List (String × Json)
  | narrative body next nextByLocation =>
      body.toMembers ++ [("next", textOrNull next),
        ("next_by_location", orNull (Table.toJson .text) nextByLocation)]
  | decision body choices => body.toMembers ++ [("options", listToJson Choice.toJson choices)]
  | router branches fallback =>
      [("conditions", listToJson Branch.toJson branches), ("default_next", textOrNull fallback)]
  | fanout branches resume =>
      [("conditions", listToJson Branch.toJson branches), ("next_after_feedback", .text resume)]
  | outcome body => body.toMembers

/-- A node, tagged by its kind. -/
def Node.toJson (n : Node) : Json :=
  .object (("type", .text n.kind) :: n.toMembers)

/-! ## Endings and whole stories -/

/-- A rule for the outcome. -/
def OutcomeRule.toJson (r : OutcomeRule) : Json :=
  .object [("condition", .text r.condition), ("priority", Amount.toJson r.priority),
    ("result", .text r.result), ("description", textOrNull r.description)]

/-- A rule of the rubric. -/
def RubricRule.toJson (r : RubricRule) : Json :=
  .object [("id", .text r.id), ("dimension", textOrNull r.dimension),
    ("score", Amount.toJson r.score), ("condition", textOrNull r.condition),
    ("if", textOrNull r.ifCondition), ("if_flag", textOrNull r.ifFlag),
    ("if_any_flag", orNull .texts r.ifAnyFlag), ("explain_success", textOrNull r.explanation)]

/-- A rubric. -/
def Rubric.toJson (r : Rubric) : Json :=
  .object [("rules", listToJson RubricRule.toJson r.rules),
    ("max_score", Amount.toJson r.maxScore)]

/-- Bounds and initial values of stats. -/
def SystemSection.toJson (s : SystemSection) : Json :=
  .object [("variables", s.variableBounds.toJson Bounds.toJson),
    ("skills", s.skillBounds.toJson Bounds.toJson),
    ("initial_values", s.initialValues.toJson Amount.toJson)]

/-- The adjustment at the start of a game, as a record with that one field. -/
def startToJson (a : Adjustment) : Json :=
  .object [("delta", a.toJson)]

/-- A story as authored. -/
def Document.toJson (d : Document) : Json :=
  .object [("version", textOrNull d.version), ("system", d.system.toJson),
    ("personas", d.personas.toJson startToJson), ("locations", d.locations.toJson startToJson),
    ("persona_info", d.personaInfo.toJson .text), ("location_info", d.locationInfo.toJson .text),
    ("nodes", d.nodes.toJson Node.toJson), ("outcomes", listToJson OutcomeRule.toJson d.outcomes),
    ("literacy_scoring", d.rubric.toJson)]

/-- A value for every stat, by symbol. -/
def PerStat.toJson {α : Type} (f : α → Json) (p : PerStat α) : Json :=
  .object (p.toList.map fun entry => (entry.1.key, f entry.2))

end BranchingStory
