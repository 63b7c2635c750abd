import BranchingStory.Playthrough.Json
import BranchingStory.Proofs.Json.Decoding
import BranchingStory.Proofs.Json.Values

/-!
# Playthroughs survive being written

A playthrough is written as an object and read back as itself: every member that is written is the
value of the field with its name, also where a choice is left out or a value is `null`, and the
stats among the members are found by their keys.  The sets may be listed in any order, even with
repetitions, since reading collects them again.

Main results:

- `ofJson?_toJsonListing`: the object of a playthrough is decoded to it.
- `IsText.ofText?_eq`: every text of a playthrough is read as it.
- `isText_write_toJson`: the text that is written is one of them.
-/

namespace BranchingStory
namespace Playthrough

open Json

variable {s : Playthrough} {flags marks : List String} {text : String}

/-! ## Parts of a playthrough -/

/-- A visit is decoded as it was encoded. -/
theorem visitOfJson?_visitToJson (v : Visit) : visitOfJson? (visitToJson v) = some v := by
  obtain ⟨node, _ | choice⟩ := v
  · rfl
  · rfl

/-- A credit is decoded as it was encoded. -/
theorem creditOfJson?_creditToJson (c : Credit) : creditOfJson? (creditToJson c) = some c := by
  have hfields : fields? [["id"], ["dimension"], ["explanation"]] (creditToJson c) =
      some [some (.text c.id), some (textOrNull c.dimension), some (textOrNull c.explanation)] :=
    rfl
  have hcomplete : isComplete 3 (creditToJson c) = true := rfl
  simp [creditOfJson?, hfields, hcomplete, required, asText?, optional_textOrNull]

/-- A scorecard is decoded as it was encoded. -/
theorem scorecardOfJson?_scorecardToJson (card : Scorecard) :
    scorecardOfJson? (scorecardToJson card) = some card := by
  have hfields : fields? [["score"], ["max_score"], ["details"]] (scorecardToJson card) =
      some [some (.int card.score.toInt), some (.int card.maxScore.toInt),
        some (.array (card.credits.map creditToJson))] :=
    rfl
  simp [scorecardOfJson?, hfields, required, asAmount?_int,
    asList?_map creditOfJson?_creditToJson]

/-- A listing of a set is decoded to the set. -/
theorem namesOfJson?_texts {names : Names} {listed : List String}
    (h : ∀ x, x ∈ listed ↔ x ∈ names) : namesOfJson? (.texts listed) = some names := by
  have hnames : Names.ofList listed = names :=
    Names.ext_mem fun x => Names.mem_ofList.trans (h x)
  rw [namesOfJson?, asList?_texts, Option.map_some, hnames]

/-! ## Decoding -/

/-- The members of a playthrough, with its flags and marks as they are listed. -/
def membersListing (flags marks : List String) (s : Playthrough) : List (String × Json) :=
  [("node", .text s.node), ("persona", .text s.persona), ("location", .text s.location)]
    ++ statMembers s.stats
    ++ [("flags", .texts flags), ("router_marks", .texts marks),
      ("history", .array (s.history.map visitToJson)), ("feedback_queue", .texts s.queue),
      ("router_return_node", textOrNull s.returnNode), ("outcome", textOrNull s.outcome),
      ("outcome_description", textOrNull s.outcomeDescription),
      ("literacy", orNull scorecardToJson s.scorecard)]

/-- A playthrough as JSON, with its flags and marks as they are listed. -/
def toJsonListing (flags marks : List String) (s : Playthrough) : Json :=
  .object (membersListing flags marks s)

/-- A playthrough is encoded with its flags and marks in increasing order. -/
theorem toJson_eq_toJsonListing (s : Playthrough) :
    s.toJson = s.toJsonListing s.flags.toList s.marks.toList :=
  rfl

/-- Every field of the playthrough is found among the members. -/
theorem objectFields?_membersListing (flags marks : List String) (s : Playthrough) :
    objectFields? fieldNames (membersListing flags marks s) =
      some [some (.text s.node), some (.text s.persona), some (.text s.location),
        some (.texts flags), some (.texts marks), some (.array (s.history.map visitToJson)),
        some (.texts s.queue), some (textOrNull s.returnNode), some (textOrNull s.outcome),
        some (textOrNull s.outcomeDescription), some (orNull scorecardToJson s.scorecard)] :=
  rfl

/-- The members beside the fields are those of the stats. -/
theorem otherMembers_membersListing (flags marks : List String) (s : Playthrough) :
    otherMembers (membersListing flags marks s) = statMembers s.stats :=
  rfl

/-- The member of a stat is its value. -/
theorem field?_stat (flags marks : List String) (s : Playthrough) (stat : Stat) :
    field? (membersListing flags marks s) [stat.key] = some (some (.int (s.value stat).toInt)) := by
  cases stat <;> rfl

/-- The stats are decoded as they were encoded. -/
theorem statsOfMembers?_membersListing (flags marks : List String) (s : Playthrough) :
    statsOfMembers? (membersListing flags marks s) = some s.stats := by
  have hstat : ∀ stat, (field? (membersListing flags marks s) [stat.key]).bind
      (required asAmount?) = some (s.stats.get stat) := by
    intro stat
    rw [field?_stat]
    exact asAmount?_int (s.stats.get stat)
  rw [statsOfMembers?, funext hstat]
  rfl

/-- The values of all stats can be read as numbers. -/
theorem isReadable_statMembers (stats : Stats) (depth : Nat) :
    (statMembers stats).all (fun member => isReadable depth member.2) = true := by
  rw [List.all_eq_true]
  intro member hmember
  obtain ⟨entry, -, rfl⟩ := List.mem_map.mp hmember
  exact isReadable_amount entry.2 depth

/-- The object of a playthrough is decoded to the playthrough, in whatever order its sets are
listed. -/
theorem ofJson?_toJsonListing (hflags : ∀ x, x ∈ flags ↔ x ∈ s.flags)
    (hmarks : ∀ x, x ∈ marks ↔ x ∈ s.marks) :
    ofJson? (s.toJsonListing flags marks) = some s := by
  have hscorecard : optional scorecardOfJson? (some (orNull scorecardToJson s.scorecard)) =
      some s.scorecard := optional_orNull scorecardOfJson?_scorecardToJson nofun s.scorecard
  simp [ofJson?, toJsonListing, otherMembers_membersListing, isReadable_statMembers,
    objectFields?_membersListing, statsOfMembers?_membersListing, required, withDefault, asText?,
    namesOfJson?_texts hflags, namesOfJson?_texts hmarks, asList?_map visitOfJson?_visitToJson,
    asList?_texts, optional_textOrNull, hscorecard]

/-- A playthrough is decoded as it was encoded. -/
theorem ofJson?_toJson (s : Playthrough) : ofJson? s.toJson = some s := by
  rw [toJson_eq_toJsonListing]
  exact ofJson?_toJsonListing (fun _ => Iff.rfl) (fun _ => Iff.rfl)

/-- Different playthroughs are written differently. -/
theorem eq_of_toJson_eq {t : Playthrough} (h : s.toJson = t.toJson) : s = t := by
  have hread := ofJson?_toJson s
  rw [h, ofJson?_toJson] at hread
  exact (Option.some.inj hread).symm

/-! ## Texts -/

/-- A written visit is read back. -/
theorem readsBack_visitToJson (v : Visit) : ReadsBack (visitToJson v) := by
  obtain ⟨node, _ | choice⟩ := v
  · exact .object (by simp [readsBack_text])
  · exact .object (by simp [readsBack_text])

/-- A written credit is read back. -/
theorem readsBack_creditToJson (c : Credit) : ReadsBack (creditToJson c) :=
  .object (by simp [readsBack_text, readsBack_textOrNull])

/-- A written scorecard is read back. -/
theorem readsBack_scorecardToJson (card : Scorecard) : ReadsBack (scorecardToJson card) := by
  have hcredits : ReadsBack (.array (card.credits.map creditToJson)) :=
    .array (List.forall_mem_map.mpr fun c _ => readsBack_creditToJson c)
  exact .object (by simp [readsBack_int, hcredits])

/-- A written playthrough is read back, in whatever order the sets are listed. -/
theorem readsBack_toJsonListing (flags marks : List String) (s : Playthrough) :
    ReadsBack (s.toJsonListing flags marks) := by
  have hhistory : ReadsBack (.array (s.history.map visitToJson)) :=
    .array (List.forall_mem_map.mpr fun v _ => readsBack_visitToJson v)
  have hstats : ∀ member ∈ statMembers s.stats, ReadsBack member.2 :=
    List.forall_mem_map.mpr fun entry _ => readsBack_int entry.2.toInt
  refine .object ?_
  rw [membersListing, List.forall_mem_append, List.forall_mem_append]
  refine ⟨⟨?_, hstats⟩, ?_⟩
  · simp [readsBack_text]
  · simp [readsBack_texts, readsBack_textOrNull, hhistory,
      readsBack_orNull readsBack_scorecardToJson]

/-- The text is one that the playthrough is written as: its compact text, with its flags and marks
in some order. -/
def IsText (s : Playthrough) (text : String) : Prop :=
  ∃ flags marks : List String, (∀ x, x ∈ flags ↔ x ∈ s.flags) ∧ (∀ x, x ∈ marks ↔ x ∈ s.marks) ∧
    text = (s.toJsonListing flags marks).write

/-- What is written for a playthrough is a text of it. -/
theorem isText_write_toJson (s : Playthrough) : s.IsText s.toJson.write :=
  ⟨s.flags.toList, s.marks.toList, fun _ => Iff.rfl, fun _ => Iff.rfl,
    congrArg write s.toJson_eq_toJsonListing⟩

/-- Every text of a playthrough is read as it. -/
theorem IsText.ofText?_eq (h : s.IsText text) : ofText? text = some s := by
  obtain ⟨flags, marks, hflags, hmarks, rfl⟩ := h
  rw [ofText?, (readsBack_toJsonListing flags marks s).read?_write, Option.bind_some,
    ofJson?_toJsonListing hflags hmarks]

end Playthrough
end BranchingStory
