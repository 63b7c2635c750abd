import BranchingStory.Json.Decode
import BranchingStory.Json.Reader
import BranchingStory.Story.Basic

/-!
# Stories from JSON

Decoders for the parts of an authored story.  A node is tagged by its `type`; it is read to its end
before it is decoded, so every part of it must be readable.  Nodes with text must be objects; a
router may also be an array whose first item is the tag.
-/

namespace BranchingStory

open Json

/-! ## Effects and choices -/

/-- An adjustment. -/
def Adjustment.ofJson? (j : Json) : Option Adjustment :=
  (asTable? asAmount? j).map Adjustment.mk

/-- An inclusive range. -/
def Bounds.ofJson? (j : Json) : Option Bounds := do
  match fields? [["min"], ["max"]] j with
  | some [min, max] => return ⟨← required asAmount? min, ← required asAmount? max⟩
  | _ => none

/-- An inclusive range whose ends may be open. -/
def Gate.ofJson? (j : Json) : Option Gate := do
  match fields? [["min"], ["max"]] j with
  | some [min, max] => return ⟨← optional asAmount? min, ← optional asAmount? max⟩
  | _ => none

/-- One flag or a list of flags. -/
def FlagList.ofJson? : Json → Option FlagList
  | .text flag => some (.one flag)
  | j => (asList? asText? j).map .many

/-- A random effect. -/
def ChanceEntry.ofJson? (j : Json) : Option ChanceEntry := do
  match fields? [["condition"], ["chance"], ["effect"]] j with
  | some [condition, chance, effect] =>
      return {
        condition := ← optional asText? condition
        chance := ← required asFloat? chance
        effect := ← withDefault .none Adjustment.ofJson? effect }
  | _ => none

/-- Effects special to a persona. -/
def PersonaEffects.ofJson? (j : Json) : Option PersonaEffects := do
  match fields? [["delta"], ["probability"]] j with
  | some [adjustment, chances] =>
      return {
        adjustment := ← optional Adjustment.ofJson? adjustment
        chances := ← optional (asList? ChanceEntry.ofJson?) chances }
  | _ => none

/-- The names of the fields of a choice. -/
def Choice.fieldNames : List (List String) :=
  [["id"], ["label"], ["requires_flag"], ["requires_value"], ["delta"], ["flag"], ["probability"],
    ["persona_overrides"], ["next"]]

/-- A choice. -/
def Choice.ofJson? (j : Json) : Option Choice := do
  match fields? fieldNames j with
  | some [id, label, requiredFlag, gates, adjustment, flagList, chances, personaEffects, next] =>
      return {
        id := ← required asText? id
        label := ← withDefault "" asText? label
        requiredFlag := ← optional asText? requiredFlag
        gates := ← withDefault ∅ (asTable? Gate.ofJson?) gates
        adjustment := ← withDefault .none Adjustment.ofJson? adjustment
        flagList := ← optional FlagList.ofJson? flagList
        chances := ← withDefault [] (asList? ChanceEntry.ofJson?) chances
        personaEffects := ← withDefault ∅ (asTable? PersonaEffects.ofJson?) personaEffects
        next := ← required asText? next }
  | _ => none

/-! ## Nodes -/

/-- A way on from a router. -/
def Branch.ofJson? (j : Json) : Option Branch := do
  match fields? [["if"], ["next"], ["apply_delta"]] j with
  | some [condition, next, adjustment] =>
      return {
        condition := ← optional asText? condition
        next := ← withDefault "" asText? next
        adjustment := ← withDefault .none Adjustment.ofJson? adjustment }
  | _ => none

/-- The names of the fields of a node text. -/
def NodeText.fieldNames : List (List String) :=
  [["text"], ["text_by_persona"], ["text_by_location"]]

/-- The text of a node from its three fields. -/
def NodeText.ofFields? (base byPersona byLocation : Field) : Option NodeText := do
  return {
    base := ← optional asText? base
    byPersona := ← withDefault ∅ (asTable? asText?) byPersona
    byLocation := ← withDefault ∅ (asTable? asText?) byLocation }

/-- A narrative from the members of its object. -/
def Node.narrativeOfMembers? (members : List (String × Json)) : Option Node := do
  match objectFields? (NodeText.fieldNames ++ [["next"], ["next_by_location"]]) members with
  | some [base, byPersona, byLocation, next, nextByLocation] =>
      return .narrative (← NodeText.ofFields? base byPersona byLocation)
        (← optional asText? next) (← optional (asTable? asText?) nextByLocation)
  | _ => none

/-- A decision from the members of its object. -/
def Node.decisionOfMembers? (members : List (String × Json)) : Option Node := do
  match objectFields? (NodeText.fieldNames ++ [["options"]]) members with
  | some [base, byPersona, byLocation, choices] =>
      return .decision (← NodeText.ofFields? base byPersona byLocation)
        (← withDefault [] (asList? Choice.ofJson?) choices)
  | _ => none

/-- An outcome from the members of its object. -/
def Node.outcomeOfMembers? (members : List (String × Json)) : Option Node := do
  match objectFields? NodeText.fieldNames members with
  | some [base, byPersona, byLocation] =>
      return .outcome (← NodeText.ofFields? base byPersona byLocation)
  | _ => none

/-- A router from its record. -/
def Node.routerOfRecord? (j : Json) : Option Node := do
  match fields? [["conditions"], ["default_next"]] j with
  | some [branches, fallback] =>
      return .router (← withDefault [] (asList? Branch.ofJson?) branches)
        (← optional asText? fallback)
  | _ => none

/-- A fan-out router from its record. -/
def Node.fanoutOfRecord? (j : Json) : Option Node := do
  match fields? [["conditions"], ["next_after_feedback"]] j with
  | some [branches, resume] =>
      return .fanout (← withDefault [] (asList? Branch.ofJson?) branches)
        (← required asText? resume)
  | _ => none

/-- A node from its tag and the rest of its value. -/
def Node.ofTagged? (tag : String) (rest : Json) : Option Node :=
  match tag, rest with
  | "narrative", .object members => narrativeOfMembers? members
  | "decision", .object members => decisionOfMembers? members
  | "outcome", .object members => outcomeOfMembers? members
  | "router", rest => routerOfRecord? rest
  | "router_multi", rest => fanoutOfRecord? rest
  | _, _ => none

/-- A node whose value may be nested up to a bound. -/
def Node.ofNestedJson? (nesting : Nat) (j : Json) : Option Node :=
  if !isReadable nesting j then none
  else
    match j with
    | .object members =>
        match membersNamed ["type"] members with
        | [.text tag] => ofTagged? tag (.object (members.filter fun member => member.1 != "type"))
        | _ => none
    | .array (.text tag :: rest) => ofTagged? tag (.array rest)
    | _ => none

/-- A node. -/
def Node.ofJson? (j : Json) : Option Node :=
  ofNestedJson? maxNesting j

/-! ## Endings and whole stories -/

/-- A rule for the outcome. -/
def OutcomeRule.ofJson? (j : Json) : Option OutcomeRule := do
  match fields? [["condition"], ["priority"], ["result"], ["description"]] j with
  | some [condition, priority, result, description] =>
      return {
        condition := ← required asText? condition
        priority := ← withDefault 0 asAmount? priority
        result := ← required asText? result
        description := ← optional asText? description }
  | _ => none

/-- The names of the fields of a rubric rule; the explanation has two. -/
def RubricRule.fieldNames : List (List String) :=
  [["id"], ["dimension"], ["score"], ["condition"], ["if"], ["if_flag"], ["if_any_flag"],
    ["explain_success", "explanation"]]

/-- A rule of the rubric. -/
def RubricRule.ofJson? (j : Json) : Option RubricRule := do
  match fields? fieldNames j with
  | some [id, dimension, score, condition, ifCondition, ifFlag, ifAnyFlag, explanation] =>
      return {
        id := ← required asText? id
        dimension := ← optional asText? dimension
        score := ← withDefault 0 asAmount? score
        condition := ← optional asText? condition
        ifCondition := ← optional asText? ifCondition
        ifFlag := ← optional asText? ifFlag
        ifAnyFlag := ← optional (asList? asText?) ifAnyFlag
        explanation := ← optional asText? explanation }
  | _ => none

/-- A rubric. -/
def Rubric.ofJson? (j : Json) : Option Rubric := do
  match fields? [["rules"], ["max_score"]] j with
  | some [rules, maxScore] =>
      return ⟨← withDefault [] (asList? RubricRule.ofJson?) rules,
        ← withDefault 0 asAmount? maxScore⟩
  | _ => none

/-- Bounds and initial values of stats. -/
def SystemSection.ofJson? (j : Json) : Option SystemSection := do
  match fields? [["variables"], ["skills"], ["initial_values"]] j with
  | some [variableBounds, skillBounds, initialValues] =>
      return {
        variableBounds := ← withDefault ∅ (asTable? Bounds.ofJson?) variableBounds
        skillBounds := ← withDefault ∅ (asTable? Bounds.ofJson?) skillBounds
        initialValues := ← withDefault ∅ (asTable? asAmount?) initialValues }
  | _ => none

/-- The adjustment at the start of a game, from a record with that one field. -/
def startAdjustment? (j : Json) : Option Adjustment := do
  match fields? [["delta"]] j with
  | some [adjustment] => withDefault .none Adjustment.ofJson? adjustment
  | _ => none

/-- The names of the fields of a document. -/
def Document.fieldNames : List (List String) :=
  [["version"], ["system"], ["personas"], ["locations"], ["persona_info"], ["location_info"],
    ["nodes"], ["outcomes"], ["literacy_scoring"]]

/-- A story as authored.  Its nodes are nested two levels deep. -/
def Document.ofJson? (j : Json) : Option Document := do
  match fields? fieldNames j with
  | some [version, system, personas, locations, personaInfo, locationInfo, nodes, outcomes,
      rubric] =>
      return {
        version := ← optional asText? version
        system := ← required SystemSection.ofJson? system
        personas := ← required (asTable? startAdjustment?) personas
        locations := ← required (asTable? startAdjustment?) locations
        personaInfo := ← withDefault ∅ (asTable? asText?) personaInfo
        locationInfo := ← withDefault ∅ (asTable? asText?) locationInfo
        nodes := ← required (asTable? (Node.ofNestedJson? (maxNesting - 2))) nodes
        outcomes := ← withDefault [] (asList? OutcomeRule.ofJson?) outcomes
        rubric := ← withDefault ⟨[], 0⟩ Rubric.ofJson? rubric }
  | _ => none

/-! ## Loading -/

/-- A file as it was found: its text, or nothing if there is no such file. -/
abbrev FileText := Option String

/-- The wording for a file that does not exist. -/
def noFileMessage : String :=
  "IO error: No such file or directory (os error 2)"

/-- Why there is no story in a file. -/
inductive LoadError where
  | noFile
  /-- The text is no JSON, or the value is no document. -/
  | undecodable
  | invalid (defect : Defect)
deriving DecidableEq, Repr

/-- The wording of a load error.  Details of decoding errors are not given. -/
def LoadError.message : LoadError → String
  | noFile => noFileMessage
  | undecodable => "JSON deserialization error"
  | invalid defect => "invalid catalog: " ++ defect.message

/-- The story in a JSON value. -/
def Story.ofJson? (j : Json) : Except LoadError Story :=
  match Document.ofJson? j with
  | none => .error .undecodable
  | some doc =>
      match Story.ofDocument? doc with
      | .error defect => .error (.invalid defect)
      | .ok story => .ok story

/-- The story in a text. -/
def Story.load (text : String) : Except LoadError Story :=
  match Json.read? text with
  | none => .error .undecodable
  | some j => Story.ofJson? j

/-- The story in a file. -/
def Story.loadFile : FileText → Except LoadError Story
  | some contents => Story.load contents
  | none => .error .noFile

end BranchingStory
