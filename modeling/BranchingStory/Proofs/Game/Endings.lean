import BranchingStory.Proofs.Game.Feedback
import BranchingStory.Proofs.Play.Detours

/-!
# The end of a game

A game is finished when it is scored, and it is scored only where it comes to rest at an outcome.
It stays there: whatever the player does, also with choices that the story does not have, nothing
changes any more.  The results can therefore be checked against the playthrough that has them.

A finished game has no pending stops.  But it can still remember where the story was to go on after
an excursion, namely if the story has led from a stop to the outcome by itself.

Main results:

- `Game.isScored_of_isFinished`: the results of a finished game.
- `Game.stays_of_isFinished`: a finished game stays as it is.
- `Game.finished_inFeedback_iff`: which actions finish a game that is still in feedback;
  `Game.not_always_leaves_feedback` has one of these.
-/

namespace BranchingStory
namespace Game

variable {game : Game} {s s' : Playthrough} {allowed : PlayerAction → Prop}
  {persona location : String} {ofPersona ofLocation : Adjustment}

/-! ## Runs -/

/-- A playthrough opens without results. -/
theorem unscored_opening : (game.opening persona location ofPersona ofLocation).Unscored :=
  ⟨rfl, rfl, rfl⟩

/-- A game is open, or it is over. -/
theorem Reachable.unscored_or_isOver (h : game.Reachable allowed s) :
    s.Unscored ∨ game.story.IsOver s := by
  refine Reachable.invariant (P := fun s => s.Unscored ∨ game.story.IsOver s) ?_ ?_ h
  · intro _ _ _ _ s _ _ harrive
    exact Story.unscored_or_isOver_of_arrive harrive unscored_opening rfl
  · intro s s' action source hs _ hact
    exact Story.unscored_or_isOver_of_act hact hs

/-- A finished game is over. -/
theorem Reachable.isOver (h : game.Reachable allowed s) (hfinished : s.isFinished = true) :
    game.story.IsOver s :=
  Story.isOver_of_isFinished h.unscored_or_isOver hfinished

/-- A game that is not finished has no results. -/
theorem Reachable.unscored (h : game.Reachable allowed s) (hopen : s.isFinished = false) :
    s.Unscored := by
  rcases h.unscored_or_isOver with hunscored | hover
  · exact hunscored
  · obtain ⟨card, hcard, _⟩ := hover.isScored.scorecard
    rw [Playthrough.isFinished, hcard] at hopen
    cases hopen

/-! ## Results -/

/-- The results of a finished game are those that the finished playthrough itself calls for: the
outcome of the rule with the lowest priority number that holds, the earliest of them if there are
several, and a scorecard with every rubric rule whose first matcher holds. -/
theorem isScored_of_isFinished (h : game.Reachable allowed s) (hfinished : s.isFinished = true) :
    game.story.IsScored s :=
  (h.isOver hfinished).isScored

/-- Rules of which the second and the third come before the first, and the second before the
third. -/
def roadOutcomes : List OutcomeRule :=
  [⟨"S < 1", 2, "Late", none⟩, ⟨"S < 2", 1, "Early", some "In time."⟩, ⟨"S < 3", 1, "Same", none⟩]

/-- A rule whose condition comes before its flag, one that asks for a flag, and one without a
matcher. -/
def roadRubric : Rubric where
  rules :=
    [⟨"calm", none, 3, some "S < 1", none, some "panic", none, none⟩,
      ⟨"panic", none, 5, none, none, some "panic", none, none⟩,
      ⟨"blank", none, 7, none, none, none, none, none⟩]
  maxScore := 15

/-- A game that starts on a road to its end. -/
def roadGame : Game where
  story := {
    Story.plain
      [("END", .outcome ⟨none, ∅, ∅⟩), ("ROAD", .narrative ⟨none, ∅, ∅⟩ (some "END") none)]
      roadOutcomes with
    rubric := roadRubric }
  settings := { startNode := "ROAD", maxHops := 1 }
  source := .scripted []

/-- At the end of the road, before it is scored. -/
def atRoadEnd : Playthrough :=
  { Playthrough.start "END" "Student" "River" (.uniform 0) with history := [⟨"ROAD", none⟩] }

/-- The road leads to its end. -/
theorem reachable_roadGame :
    roadGame.Reachable (fun _ => True) (roadGame.story.score atRoadEnd).value := by
  have hbegin : (roadGame.begin "Student" "River").value =
      .ok (.start "ROAD" "Student" "River" (.uniform 0)) := by
    rfl
  have hrespond : (roadGame.respond (.scripted []) (.start "ROAD" "Student" "River" (.uniform 0))
      (.inHand none)).value.result = .ok (roadGame.story.score atRoadEnd).value := by
    rfl
  exact .acted (.begun hbegin) trivial hrespond

/-- At the end of the road the game is finished. -/
theorem isFinished_roadGame : (roadGame.story.score atRoadEnd).value.isFinished = true := by
  obtain ⟨_, _, _, hscore⟩ := roadGame.story.exists_value_score_eq atRoadEnd
  rw [hscore]
  rfl

/-- Of the rules for the end of the road, the second decides. -/
theorem decides_roadOutcomes :
    OutcomeRule.Decides roadOutcomes atRoadEnd ⟨"S < 2", 1, "Early", some "In time."⟩ 1 where
  listed := rfl
  holds := by decide +kernel
  first := by
    intro other place hother _
    match place with
    | 0 =>
        cases hother
        exact Or.inl (by decide)
    | 1 =>
        cases hother
        exact Or.inr (by decide)
    | 2 =>
        cases hother
        exact Or.inr (by decide)
    | place + 3 => cases hother

/-- At the end of the road the second rule decides, and one rule of the rubric counts. -/
theorem isScored_of_roadGame :
    ∃ s, roadGame.Reachable (fun _ => True) s ∧ s.isFinished = true ∧
      s.outcome = some "Early" ∧ s.outcomeDescription = some "In time." ∧
      ∃ card, s.scorecard = some card ∧ card.maxScore = 15 ∧
        card.credits.map Credit.id = ["calm"] ∧ card.score.toInt = 3 := by
  have hlooks := roadGame.story.looksLike_score atRoadEnd
  have hscored := isScored_of_isFinished reachable_roadGame isFinished_roadGame
  refine ⟨_, reachable_roadGame, isFinished_roadGame, ?_⟩
  obtain ⟨card, hcard, hmax, hcredits, htotal⟩ := hscored.scorecard
  have hcounted : (roadGame.story.rubric.rules.filter fun rule =>
      rule.Counts (roadGame.story.score atRoadEnd).value) = roadRubric.rules.take 1 := by
    simp only [← RubricRule.counts_congr hlooks]
    decide +kernel
  rw [hcounted] at hcredits htotal
  have hresult : (roadGame.story.score atRoadEnd).value.outcome = some "Early" ∧
      (roadGame.story.score atRoadEnd).value.outcomeDescription = some "In time." := by
    have hdecides := (OutcomeRule.Decides.congr hlooks).mp decides_roadOutcomes
    rcases hscored.outcome with ⟨rule, place, hrule, houtcome, hdescription⟩ | ⟨hfails, _⟩
    · rw [← hdecides.unique hrule] at houtcome hdescription
      exact ⟨houtcome, hdescription⟩
    · have hfail := hfails _ (List.mem_of_getElem? hdecides.listed)
      rw [hdecides.holds] at hfail
      cases hfail
  refine ⟨hresult.1, hresult.2, card, hcard, hmax, ?_, htotal (by decide) (by decide)⟩
  rw [hcredits]
  rfl

/-! ## Nothing changes any more -/

/-- A finished game is at an outcome without pending stops, and every action gives the same
playthrough and leaves its source as it is. -/
theorem stays_of_isFinished (h : game.Reachable allowed s) (hfinished : s.isFinished = true) :
    (∃ text, game.story.node? s.node = some (.outcome text)) ∧ s.queue = [] ∧
      ∀ source action,
        (game.respond source s action).value = ⟨.ok s, { game with source := source }⟩ := by
  have hover : game.story.IsOver s := h.isOver hfinished
  refine ⟨hover.exists_node, hover.queue_eq_nil, ?_⟩
  intro source action
  rw [value_respond, Story.value_act_of_isOver hover]
  rfl

/-- At the end of the road no choice changes anything, also one that the story does not have. -/
theorem stays_of_roadGame :
    ∃ s, roadGame.Reachable (fun _ => True) s ∧ s.node = "END" ∧ s.isFinished = true ∧
      ∀ choice source, (roadGame.respond source s (.inHand (some choice))).value =
        ⟨.ok s, { roadGame with source := source }⟩ := by
  obtain ⟨_, _, hstays⟩ := stays_of_isFinished reachable_roadGame isFinished_roadGame
  have hnode : (roadGame.story.score atRoadEnd).value.node = "END" := by
    obtain ⟨_, _, _, hscore⟩ := roadGame.story.exists_value_score_eq atRoadEnd
    rw [hscore]
    rfl
  refine ⟨_, reachable_roadGame, hnode, isFinished_roadGame, ?_⟩
  intro choice source
  exact hstays source (.inHand (some choice))

/-! ## Feedback at the end -/

/-- Where the story is still to go on after an excursion, the playthrough is on a detour. -/
theorem Reachable.onDetour (h : game.Reachable allowed s) :
    s.returnNode = none ∨ game.story.OnDetour s := by
  induction h with
  | begun hbegin =>
      obtain ⟨_, _, _, _, harrive⟩ := begin_eq_ok_iff.mp hbegin
      exact Story.onDetour_of_arrive harrive (Or.inl rfl)
  | acted hs _ hrespond ih =>
      exact Story.onDetour_of_act (respond_eq_ok_iff.mp hrespond) hs.feedbackAccounted ih

/-- A game that is finished when it begins is not in feedback. -/
theorem inFeedback_eq_false_of_begin (h : (game.begin persona location).value = .ok s)
    (hfinished : s.isFinished = true) : s.inFeedback = false := by
  obtain ⟨ofPersona, ofLocation, _, _, harrive⟩ := begin_eq_ok_iff.mp h
  have hfeedback := Story.inFeedback_iff_of_arrive harrive unscored_opening rfl hfinished
  rw [← Bool.not_eq_true, hfeedback]
  rintro ⟨hreturn, _⟩
  exact hreturn rfl

/-- A finished game has no pending stops, and whether it is still in feedback is known from how it
was finished:

- where it is, the playthrough has come from a stop without a choice and without passing the fan-out
  router of the stop again;
- it is not, if the game was finished when it began;
- after an action that finishes the game it is, exactly if the story was still to go on after an
  excursion, the action continued along a way of the node's own, and no fan-out router that has
  fired is passed on this way. -/
theorem finished_inFeedback_iff (h : game.Reachable allowed s) :
    (s.isFinished = true → s.queue = [] ∧ (s.inFeedback = true → game.story.OnDetour s)) ∧
      (∀ persona location, (game.begin persona location).value = .ok s → s.isFinished = true →
        s.inFeedback = false) ∧
      ∀ source action s', s.isFinished = false →
        (game.respond source s action).value.result = .ok s' → s'.isFinished = true →
        ∃ t, game.story.SetsOut s (game.choiceMeant s action) source t ∧
          (s'.inFeedback = true ↔
            s.returnNode ≠ none ∧ game.story.LeadsOn s ∧ ¬ game.story.PassesFired t) := by
  refine ⟨?_, ?_, ?_⟩
  · intro hfinished
    have hqueue : s.queue = [] := (h.isOver hfinished).queue_eq_nil
    refine ⟨hqueue, ?_⟩
    intro hfeedback
    rcases h.onDetour with hnone | hdetour
    · simp [Playthrough.inFeedback, hqueue, hnone] at hfeedback
    · exact hdetour
  · intro persona location hbegin hfinished
    exact inFeedback_eq_false_of_begin hbegin hfinished
  · intro source action s' hopen hrespond hfinished
    exact Story.exists_setsOut_of_isFinished (respond_eq_ok_iff.mp hrespond) (h.unscored hopen)
      hfinished

/-- Nodes behind a gate: after the tip the story is to go on along the road, but the tip leads to
the end by itself. -/
def tipNodes : List (String × Node) :=
  [("END", .outcome ⟨none, ∅, ∅⟩),
    ("GATE", .fanout [⟨some "S < 1", "TIP", .none⟩] "ROAD"),
    ("ROAD", .narrative ⟨none, ∅, ∅⟩ (some "END") none),
    ("TIP", .narrative ⟨none, ∅, ∅⟩ (some "END") none)]

/-- A game of these nodes. -/
def tipGame : Game where
  story := .plain tipNodes [⟨"S < 1", 1, "Unsafe", none⟩]
  settings := { startNode := "GATE", maxHops := 1 }
  source := .scripted []

/-- The game begins at the tip and ends with the next action, while the road is still to come. -/
theorem respond_tipGame :
    ((tipGame.begin "Student" "River").value.toOption.bind fun s =>
      (tipGame.respond (.scripted []) s (.byId none)).value.result.toOption.map fun s' =>
        (s.isFinished, s'.isFinished, s'.inFeedback)) = some (false, true, true) := by
  decide +kernel

/-- The tip leads on, and the gate is not passed again. -/
theorem inFeedback_of_tipGame :
    ∃ s s', tipGame.Reachable (fun action => action.isById = true) s ∧
      tipGame.Reachable (fun action => action.isById = true) s' ∧ s'.isFinished = true ∧
      s'.queue = [] ∧ tipGame.story.OnDetour s' ∧ tipGame.story.LeadsOn s ∧
      ∃ t, tipGame.story.SetsOut s none (.scripted []) t ∧ ¬ tipGame.story.PassesFired t := by
  obtain ⟨s, s', hs, hrespond, hs', hrun⟩ :=
    exists_reachable_of_respond (fun action => action.isById = true) rfl respond_tipGame
  obtain ⟨hopen, hfinished, hfeedback⟩ := by simpa only [Prod.mk.injEq] using hrun
  obtain ⟨hqueue, hdetour⟩ := (finished_inFeedback_iff hs').1 hfinished
  obtain ⟨t, hsets, hiff⟩ := (finished_inFeedback_iff hs).2.2 _ _ s' hopen hrespond hfinished
  obtain ⟨_, hleads, hpasses⟩ := hiff.mp hfeedback
  exact ⟨s, s', hs, hs', hfinished, hqueue, hdetour hfeedback, hleads, t, hsets, hpasses⟩

/-- A finished game can be in feedback: the tip leads to the end, and nothing says that its
excursion is over. -/
theorem not_always_leaves_feedback :
    ¬ ∀ (doc : Document) (game : Game), Story.ofDocument? doc = .ok game.story →
      ∀ s, game.Reachable (fun action => action.isById = true) s → s.isFinished = true →
        s.inFeedback = false := by
  intro h
  obtain ⟨_, s', _, _, hreachable, hrun⟩ :=
    exists_reachable_of_respond (fun action => action.isById = true) rfl respond_tipGame
  obtain ⟨-, hfinished, hfeedback⟩ := by simpa only [Prod.mk.injEq] using hrun
  have hleft := h _ _ (Story.ofDocument?_plain _ _) s' hreachable hfinished
  rw [hfeedback] at hleft
  cases hleft

end Game
end BranchingStory
