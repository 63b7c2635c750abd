import BranchingStory.Proofs.Play.Steps
import BranchingStory.Proofs.Story.Plain

/-!
# Why a playthrough rests

A playthrough that has moved on says why it rests: it waits for the player, it begins a feedback
excursion, it has ended, it is lost or it is stuck.  What is said is true of the playthrough that is
left, whatever was adjusted on the way to it.  It also bounds what has changed: marks and pending
stops only where an excursion begins, results only at an outcome, and who plays where, with which
flags and which history, nowhere.

Main results:

- `Story.exists_eq_of_moves`: what is written on the way.
- `Story.Rests.fits`, `Story.Rests.keeps`: what the last step says and what it leaves alone.
- `Story.stop_fits_result`: the same for moving on.
-/

namespace BranchingStory
namespace Story

variable {story : Story} {s s' t m : Playthrough} {stop : Stop} {limit : Nat}

/-! ## What a stop says -/

/-- A fan-out router has fired that had not before: it alone is newly marked, and the story is to go
on where this router says. -/
def HasNewlyFired (story : Story) (s s' : Playthrough) : Prop :=
  ∃ id branches resume, story.node? id = some (.fanout branches resume) ∧ id ∉ s.marks ∧
    (∀ marked, marked ∈ s'.marks ↔ marked = id ∨ marked ∈ s.marks) ∧ s'.returnNode = some resume

/-- What a stop says of the playthrough that rests, and of the one from which it has moved on. -/
def Fits (story : Story) (s : Playthrough) : Stop → Playthrough → Prop
  | .interactive, s' =>
      (∃ text next nextByLocation,
        story.node? s'.node = some (.narrative text next nextByLocation)) ∨
      ∃ text choices, story.node? s'.node = some (.decision text choices)
  | .feedback, s' => story.HasNewlyFired s s'
  | .outcome, s' => (∃ text, story.node? s'.node = some (.outcome text)) ∧ s'.isFinished = true
  | .missingNode, s' => story.node? s'.node = none
  | .stalled, s' =>
      ∃ branches, story.node? s'.node = some (.router branches none) ∧
        ∀ branch ∈ branches, ∀ condition, branch.condition = some condition →
          holds s' condition = false

/-- What a playthrough that has moved on and rests has left alone. -/
structure Keeps (s : Playthrough) (stop : Stop) (s' : Playthrough) : Prop where
  persona : s'.persona = s.persona
  location : s'.location = s.location
  flags : s'.flags = s.flags
  history : s'.history = s.history
  /-- Unless an excursion begins, nothing is marked and no stops are pending that were not; at most
  an earlier excursion is over. -/
  excursion : stop ≠ .feedback → s'.marks = s.marks ∧ s'.queue = s.queue ∧
    (s'.returnNode = s.returnNode ∨ s'.returnNode = none)
  /-- Except at an outcome, there are no new results. -/
  results : stop ≠ .outcome → s'.outcome = s.outcome ∧
    s'.outcomeDescription = s.outcomeDescription ∧ s'.scorecard = s.scorecard

/-! ## On the way -/

/-- A move writes the node and the stats, and at most it ends an excursion. -/
theorem Moves.exists_eq (h : story.Moves s t) : ∃ node stats returnNode,
    (returnNode = s.returnNode ∨ returnNode = none) ∧
      t = { s with node := node, stats := stats, returnNode := returnNode } := by
  cases h with
  | branch _ _ => exact ⟨_, _, s.returnNode, Or.inl rfl, rfl⟩
  | default _ _ => exact ⟨_, s.stats, s.returnNode, Or.inl rfl, rfl⟩
  | passed _ _ => exact ⟨_, s.stats, none, Or.inr rfl, rfl⟩
  | unmatched _ _ _ => exact ⟨_, s.stats, s.returnNode, Or.inl rfl, rfl⟩

/-- However many moves there are, they write nothing else. -/
theorem exists_eq_of_moves (h : Relation.ReflTransGen story.Moves s m) : ∃ node stats returnNode,
    (returnNode = s.returnNode ∨ returnNode = none) ∧
      m = { s with node := node, stats := stats, returnNode := returnNode } := by
  induction h with
  | refl => exact ⟨s.node, s.stats, s.returnNode, Or.inl rfl, rfl⟩
  | tail _ hmove ih =>
      obtain ⟨_, _, returnNode, hreturn, rfl⟩ := ih
      obtain ⟨node, stats, later, hlater, rfl⟩ := hmove.exists_eq
      refine ⟨node, stats, later, ?_, rfl⟩
      rcases hlater with rfl | rfl
      · exact hreturn
      · exact Or.inr rfl

/-! ## At rest -/

/-- The stop of a last step is true of what it leaves. -/
theorem Rests.fits (h : story.Rests s stop s') : story.Fits s stop s' := by
  cases h with
  | missing hnode => exact hnode
  | @interactive node hnode hwaits =>
      cases node with
      | narrative text next nextByLocation => exact Or.inl ⟨_, _, _, hnode⟩
      | decision text choices => exact Or.inr ⟨_, _, hnode⟩
      | router branches fallback => cases hwaits
      | fanout branches resume => cases hwaits
      | outcome text => cases hwaits
  | outcome hnode =>
      obtain ⟨_, _, _, hscore⟩ := story.exists_value_score_eq s
      rw [hscore]
      exact ⟨⟨_, hnode⟩, rfl⟩
  | @stalled branches hnode htaken =>
      refine ⟨branches, hnode, ?_⟩
      intro branch hbranch condition hcondition
      have hfails := List.find?_eq_none.mp htaken branch hbranch
      simpa [Branch.isTaken, hcondition] using hfails
  | fired hnode hmark _ => exact ⟨s.node, _, _, hnode, hmark, fun _ => Names.mem_insert, rfl⟩

/-- Coming to rest keeps all but what the stop says. -/
theorem Rests.keeps (h : story.Rests s stop s') : Keeps s stop s' := by
  have hself : ∀ stop, Keeps s stop s := fun _ =>
    ⟨rfl, rfl, rfl, rfl, fun _ => ⟨rfl, rfl, Or.inl rfl⟩, fun _ => ⟨rfl, rfl, rfl⟩⟩
  cases h with
  | missing _ => exact hself _
  | interactive _ _ => exact hself _
  | outcome _ =>
      obtain ⟨_, _, _, hscore⟩ := story.exists_value_score_eq s
      rw [hscore]
      exact ⟨rfl, rfl, rfl, rfl, fun _ => ⟨rfl, rfl, Or.inl rfl⟩, fun hstop => absurd rfl hstop⟩
  | stalled _ _ => exact hself _
  | fired _ _ _ =>
      exact ⟨rfl, rfl, rfl, rfl, fun hstop => absurd rfl hstop, fun _ => ⟨rfl, rfl, rfl⟩⟩

/-- What a stop says does not depend on where and with which stats the walk began. -/
theorem Fits.congr (hmarks : t.marks = s.marks) (h : story.Fits t stop s') :
    story.Fits s stop s' := by
  cases stop with
  | feedback =>
      obtain ⟨id, branches, resume, hnode, hmark, hmarked, hreturn⟩ := h
      rw [hmarks] at hmark
      simp only [hmarks] at hmarked
      exact ⟨id, branches, resume, hnode, hmark, hmarked, hreturn⟩
  | interactive | outcome | missingNode | stalled => exact h

/-- A playthrough that has moved on and rests is as its stop says.  Apart from that it has another
node and other stats at most, unless it begins an excursion or gets its results, and an earlier
excursion may be over. -/
theorem stop_fits_result (h : (story.advance limit s).value = ⟨.ok stop, s'⟩) :
    story.Fits s stop s' ∧ Keeps s stop s' := by
  have hwalk : (story.walk limit s).value = .rested stop s' := by
    rw [value_advance] at h
    split at h
    · rename_i hwalk
      cases h
      exact hwalk
    · cases h
  obtain ⟨m, hmoves, hrests⟩ := exists_rests_of_walk hwalk
  obtain ⟨node, stats, returnNode, hreturn, rfl⟩ := exists_eq_of_moves hmoves
  have hfits := hrests.fits
  have hkeeps := hrests.keeps
  refine ⟨hfits.congr rfl,
    ⟨hkeeps.persona, hkeeps.location, hkeeps.flags, hkeeps.history, ?_, hkeeps.results⟩⟩
  intro hstop
  obtain ⟨hmarks, hqueue, hsame | hnone⟩ := hkeeps.excursion hstop
  · exact ⟨hmarks, hqueue, by rwa [hsame]⟩
  · exact ⟨hmarks, hqueue, Or.inr hnone⟩

/-- Safety grows on the slope by one for each time round, until no condition holds any more.  The
way to the gate makes a player safer as well, so that the gate sees one reason less to warn. -/
def slopeStory : Story :=
  .plain
    [("END", .outcome ⟨none, ∅, ∅⟩),
      ("GATE", .fanout [⟨some "S < 1", "KIT", .none⟩, ⟨some "S < 2", "SAFE", .none⟩] "END"),
      ("SLOPE", .router [⟨some "S < 2", "SLOPE", ⟨.ofList [("S", 1)]⟩⟩] none),
      ("WAY", .router [⟨some "S < 1", "GATE", ⟨.ofList [("S", 1)]⟩⟩] none)] []

/-- On the way, with a flag, a visit, a mark and an excursion that is not over. -/
def onWay (node : String) : Playthrough :=
  { Playthrough.start node "Student" "River" (.uniform 0) with
    flags := .ofList ["warned"]
    marks := .ofList ["CAMP"]
    history := [⟨"ROAD", none⟩]
    returnNode := some "ROAD" }

/-- The slope is stuck though its condition held when it was reached, and the gate fires for one of
its two reasons.  Flags and history are as they were in both cases. -/
theorem stop_fits_slope :
    (∃ s', (slopeStory.advance 3 (onWay "SLOPE")).value = ⟨.ok .stalled, s'⟩ ∧
      holds (onWay "SLOPE") "S < 2" = true ∧
      slopeStory.Fits (onWay "SLOPE") .stalled s' ∧ s'.marks = .ofList ["CAMP"] ∧
      (s'.returnNode = some "ROAD" ∨ s'.returnNode = none) ∧ s'.history = [⟨"ROAD", none⟩]) ∧
    ∃ s', (slopeStory.advance 2 (onWay "WAY")).value = ⟨.ok .feedback, s'⟩ ∧
      s'.node = "SAFE" ∧ slopeStory.HasNewlyFired (onWay "WAY") s' ∧
      s'.flags = .ofList ["warned"] ∧ s'.scorecard = none := by
  have hstalled : (slopeStory.advance 3 (onWay "SLOPE")).value =
      ⟨.ok .stalled, { onWay "SLOPE" with stats := { PerStat.uniform 0 with safety := 2 } }⟩ := by
    rfl
  have hfeedback : (slopeStory.advance 2 (onWay "WAY")).value =
      ⟨.ok .feedback, { onWay "SAFE" with
        stats := { PerStat.uniform 0 with safety := 1 }
        marks := .ofList ["CAMP", "GATE"]
        returnNode := some "END" }⟩ := by
    rfl
  have hheld : holds (onWay "SLOPE") "S < 2" = true := by decide +kernel
  obtain ⟨hstuck, hkept⟩ := stop_fits_result hstalled
  obtain ⟨hfired, hkept'⟩ := stop_fits_result hfeedback
  obtain ⟨hmarks, -, hreturn⟩ := hkept.excursion (by decide)
  exact ⟨⟨_, hstalled, hheld, hstuck, hmarks, hreturn, hkept.history⟩,
    ⟨_, hfeedback, rfl, hfired, hkept'.flags, (hkept'.results (by decide)).2.2⟩⟩

end Story
end BranchingStory
