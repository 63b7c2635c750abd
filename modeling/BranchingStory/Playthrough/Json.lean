import BranchingStory.Json.Decode
import BranchingStory.Json.Reader
import BranchingStory.Playthrough.Basic

/-!
# Playthroughs as JSON

A playthrough is written as one object, with a member for each stat among the others.  Flags and
marks are listed in increasing order.  Reading accepts members in any order and sets in any order;
members that are not known are read to their end and dropped.
-/

namespace BranchingStory

open Json

/-! ## Writing -/

namespace Playthrough

/-- A visit; the choice is left out when there was none. -/
def visitToJson (v : Visit) : Json :=
  match v.choice with
  | some choice => .object [("node", .text v.node), ("choice", .text choice)]
  | none => .object [("node", .text v.node)]

/-- A rubric rule that counted. -/
def creditToJson (c : Credit) : Json :=
  .object [("id", .text c.id), ("dimension", textOrNull c.dimension),
    ("explanation", textOrNull c.explanation)]

/-- A rubric result. -/
def scorecardToJson (s : Scorecard) : Json :=
  .object [("score", .int s.score.toInt), ("max_score", .int s.maxScore.toInt),
    ("details", .array (s.credits.map creditToJson))]

/-- The members for the stats. -/
def statMembers (stats : Stats) : List (String × Json) :=
  stats.toList.map fun entry => (entry.1.key, .int entry.2.toInt)

/-- A playthrough. -/
def toJson (s : Playthrough) : Json :=
  .object ([("node", .text s.node), ("persona", .text s.persona), ("location", .text s.location)]
    ++ statMembers s.stats
    ++ [("flags", .texts s.flags.toList), ("router_marks", .texts s.marks.toList),
      ("history", .array (s.history.map visitToJson)), ("feedback_queue", .texts s.queue),
      ("router_return_node", textOrNull s.returnNode), ("outcome", textOrNull s.outcome),
      ("outcome_description", textOrNull s.outcomeDescription),
      ("literacy", orNull scorecardToJson s.scorecard)])

/-! ## Reading -/

/-- A visit. -/
def visitOfJson? (j : Json) : Option Visit := do
  match fields? [["node"], ["choice"]] j with
  | some [node, choice] => return ⟨← required asText? node, ← optional asText? choice⟩
  | _ => none

/-- Whether a record written as an array has all its fields. -/
def isComplete (count : Nat) : Json → Bool
  | .array items => items.length == count
  | _ => true

/-- A rubric rule that counted.  An array must have all three fields. -/
def creditOfJson? (j : Json) : Option Credit := do
  match fields? [["id"], ["dimension"], ["explanation"]] j with
  | some [id, dimension, explanation] =>
      if isComplete 3 j then
        return ⟨← required asText? id, ← optional asText? dimension,
          ← optional asText? explanation⟩
      else none
  | _ => none

/-- A rubric result. -/
def scorecardOfJson? (j : Json) : Option Scorecard := do
  match fields? [["score"], ["max_score"], ["details"]] j with
  | some [score, maxScore, credits] =>
      return ⟨← required asAmount? score, ← required asAmount? maxScore,
        ← required (asList? creditOfJson?) credits⟩
  | _ => none

/-- A set of names. -/
def namesOfJson? (j : Json) : Option Names :=
  (asList? asText? j).map Names.ofList

/-- The names of the fields beside the stats. -/
def fieldNames : List (List String) :=
  [["node"], ["persona"], ["location"], ["flags"], ["router_marks"], ["history"],
    ["feedback_queue"], ["router_return_node"], ["outcome"], ["outcome_description"], ["literacy"]]

/-- The stats from the members of a playthrough. -/
def statsOfMembers? (members : List (String × Json)) : Option Stats :=
  PerStat.ofFn? fun stat => (field? members [stat.key]).bind (required asAmount?)

/-- The members that do not belong to a field beside the stats. -/
def otherMembers (members : List (String × Json)) : List (String × Json) :=
  members.filter fun member => !fieldNames.flatten.contains member.1

/-- A playthrough. -/
def ofJson? : Json → Option Playthrough
  | .object members => do
      let others := otherMembers members
      if !others.all fun member => isReadable (maxNesting - 1) member.2 then none
      else
        match objectFields? fieldNames members with
        | some [node, persona, location, flags, marks, history, queue, returnNode, outcome,
            outcomeDescription, scorecard] =>
            return {
              node := ← required asText? node
              persona := ← required asText? persona
              location := ← required asText? location
              stats := ← statsOfMembers? members
              flags := ← required namesOfJson? flags
              marks := ← withDefault ∅ namesOfJson? marks
              history := ← required (asList? visitOfJson?) history
              queue := ← withDefault [] (asList? asText?) queue
              returnNode := ← optional asText? returnNode
              outcome := ← optional asText? outcome
              outcomeDescription := ← optional asText? outcomeDescription
              scorecard := ← optional scorecardOfJson? scorecard }
        | _ => none
  | _ => none

/-- The playthrough that a text holds. -/
def ofText? (text : String) : Option Playthrough :=
  (Json.read? text).bind ofJson?

end Playthrough
end BranchingStory
