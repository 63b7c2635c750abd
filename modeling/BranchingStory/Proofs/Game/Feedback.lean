import BranchingStory.Proofs.Game.Runs
import BranchingStory.Proofs.Play.Excursions
import BranchingStory.Proofs.Play.Feedback

/-!
# Feedback in a run of a game

In every playthrough of a game, what is remembered of a feedback excursion is accounted for by a
fan-out router that has fired, and no stop is pending while the story moves on by itself.  This
holds whatever the player does, also with choices that the story does not have.

The stops themselves are not moved on from, and two things follow.  A stop that is an outcome is not
scored, and one that is a router is not passed, though the lint warns of both.  A stop that is no
node holds up the stops behind it for good.

Main results:

- `Game.feedback_of_reachable`: the account of an excursion, in every playthrough.
- `Game.isSettled_or_warned`: a playthrough has settled, or it is at a stop that the lint warns of;
  `Game.not_always_isSettled` has one that has not settled.
- `Game.visits_next_iff_has`: the next pending stop is visited exactly if the player is at a node;
  `Game.not_always_visits_next` has one that is not.
-/

namespace BranchingStory
namespace Game

variable {game : Game} {s : Playthrough} {allowed : PlayerAction → Prop}
  {persona location next : String} {ofPersona ofLocation : Adjustment} {rest : List String}

/-! ## Runs -/

/-- A playthrough opens without an excursion. -/
theorem feedbackAccounted_opening :
    game.story.FeedbackAccounted (game.opening persona location ofPersona ofLocation) where
  returnNode := nofun
  queue := fun hpending => absurd rfl hpending

/-- Every playthrough that is reached has an account of its excursion. -/
theorem Reachable.feedbackAccounted (h : game.Reachable allowed s) :
    game.story.FeedbackAccounted s := by
  refine Reachable.invariant (P := game.story.FeedbackAccounted) ?_ ?_ h
  · intro _ _ _ _ s _ _ harrive
    exact Story.feedbackAccounted_of_arrive harrive feedbackAccounted_opening rfl
  · intro s s' action source hs _ hact
    exact Story.feedbackAccounted_of_act hact hs

/-- Every playthrough that is reached has settled or is at a stop. -/
theorem Reachable.isSettled_or_atStop (h : game.Reachable allowed s) :
    game.story.IsSettled s ∨ game.story.AtStop s := by
  have hrun : game.story.FeedbackAccounted s ∧ (game.story.IsSettled s ∨ game.story.AtStop s) := by
    refine Reachable.invariant (P := fun s => game.story.FeedbackAccounted s ∧
      (game.story.IsSettled s ∨ game.story.AtStop s)) ?_ ?_ h
    · intro _ _ _ _ s _ _ harrive
      exact ⟨Story.feedbackAccounted_of_arrive harrive feedbackAccounted_opening rfl,
        Story.isSettled_or_atStop_of_arrive harrive⟩
    · intro s s' action source hs _ hact
      exact ⟨Story.feedbackAccounted_of_act hact hs.1,
        Story.isSettled_or_atStop_of_act hact hs.1 hs.2⟩
  exact hrun.2

/-! ## The account of an excursion -/

/-- In every playthrough that is reached:

- fan-out routers that have fired account for the pending stops and for where the story goes on;
- an action lets the story move on from one place, or it does not let it move on;
- while the story moves on, after an action as at the beginning, no stop is pending;
- a stop without an id never leaves the player without a way on. -/
theorem feedback_of_reachable (h : game.Reachable allowed s) :
    game.story.FeedbackAccounted s ∧
      (∀ limit choice source,
        (∃ t, game.story.SetsOut s choice source t ∧
            (game.story.act limit s choice source).value.result =
              (game.story.arrive limit t).value) ∨
          (game.story.act limit s choice source).value.result = .ok s ∨
          ∃ next rest, s.queue = next :: rest ∧
            (game.story.act limit s choice source).value.result =
              .ok { s with node := next, queue := rest }) ∧
      (∀ choice source t m, game.story.SetsOut s choice source t →
        Relation.ReflTransGen game.story.Moves t m → m.queue = []) ∧
      (∀ persona location ofPersona ofLocation m,
        Relation.ReflTransGen game.story.Moves
          (game.opening persona location ofPersona ofLocation) m → m.queue = []) ∧
      ∀ rest, s.queue = "" :: rest → s.returnNode ≠ none := by
  have haccount : game.story.FeedbackAccounted s := h.feedbackAccounted
  refine ⟨haccount, ?_, ?_, ?_, ?_⟩
  · intro limit choice source
    exact game.story.setsOut_or_stays limit s choice source
  · intro choice source t m hsets hmoves
    exact (Story.queue_of_moves hmoves).trans hsets.queue_eq_nil
  · intro persona location ofPersona ofLocation m hmoves
    exact Story.queue_of_moves hmoves
  · intro rest hqueue hnone
    have hpending : s.queue ≠ [] := by simp [hqueue]
    obtain ⟨_, resume, hreturn, _⟩ := haccount.queue hpending
    rw [hnone] at hreturn
    cases hreturn

/-- A game of the story behind the gate. -/
def gateGame (branches : List Branch) : Game where
  story := Story.gateStory branches
  settings := { startNode := "GATE", maxHops := 1 }
  source := .scripted []

/-- How the game begins if two conditions at the gate hold: the second stop is pending. -/
theorem begin_gateGame :
    ((gateGame Story.gateBranches).begin "Student" "River").value.toOption.map
        (fun s => (s.node, s.queue, s.returnNode)) = some ("KIT", ["SAFE"], some "END") := by
  decide +kernel

/-- The gate accounts for both stops at the beginning of the game. -/
theorem feedback_of_gateGame :
    ∃ s, (gateGame Story.gateBranches).Reachable (fun _ => True) s ∧ s.queue = ["SAFE"] ∧
      ∃ branches, (Story.gateStory Story.gateBranches).HasFired s branches "END" ∧
        (["KIT", "SAFE"]).Sublist (branches.map Branch.next) := by
  obtain ⟨s, hreachable, hs⟩ := exists_reachable_of_begin (fun _ => True) begin_gateGame
  obtain ⟨hnode, hqueue, hreturn⟩ := by simpa only [Prod.mk.injEq] using hs
  have hpending : s.queue ≠ [] := by simp [hqueue]
  obtain ⟨branches, resume, hresume, hfired, hstops⟩ :=
    (feedback_of_reachable hreachable).1.queue hpending
  rw [hreturn, Option.some.injEq] at hresume
  rw [hnode, hqueue] at hstops
  subst hresume
  exact ⟨s, hreachable, hqueue, branches, hfired, hstops⟩

/-! ## Stops that are outcomes or routers -/

/-- A playthrough has settled, or it is at a stop that is a router or an outcome: the fan-out router
has fired, the story is still to go on after it, and the lint warns of this stop. -/
theorem isSettled_or_warned (h : game.Reachable allowed s) :
    game.story.IsSettled s ∨
      ∃ id ∈ s.marks, ∃ branches resume,
        game.story.node? id = some (.fanout branches resume) ∧ s.returnNode = some resume ∧
        s.node ∈ branches.map Branch.next ∧ game.story.isRestless s.node = true ∧
        ∀ start, "Multi-router '" ++ id ++ "'" ++ " sends feedback to non-interactive node '"
          ++ s.node ++ "'" ∈ (game.story.lintReport start).warnings := by
  by_cases hsettled : game.story.IsSettled s
  · exact Or.inl hsettled
  · right
    have hrestless : game.story.isRestless s.node = true :=
      Story.isRestless_of_not_isSettled hsettled
    obtain ⟨branches, resume, hreturn, ⟨id, hmark, hnode⟩, hstop⟩ :=
      h.isSettled_or_atStop.resolve_left hsettled
    refine ⟨id, hmark, branches, resume, hnode, hreturn, hstop, hrestless, ?_⟩
    intro start
    exact Story.warns_of_isRestless hnode hstop hrestless start

/-- A game whose only stop leads nowhere. -/
def safeGame : Game :=
  gateGame [⟨some "S < 1", "SAFE", .none⟩]

/-- The game begins at the stop, and with the next action it is at the end. -/
theorem respond_safeGame :
    ((safeGame.begin "Student" "River").value.toOption.bind fun s =>
      (safeGame.respond (.scripted []) s (.byId none)).value.result.toOption.map fun s' =>
        (s'.marks.toList, s'.node, s'.returnNode)) = some (["GATE"], "END", none) := by
  decide +kernel

/-- After the stop the story goes on at the end, and it has settled there: the excursion is over, so
the end is no stop, and the game is scored. -/
theorem isSettled_of_safeGame :
    ∃ s, safeGame.Reachable (fun action => action.isById = true) s ∧
      s.marks.toList = ["GATE"] ∧ s.node = "END" ∧
      safeGame.story.node? "END" = some (.outcome ⟨none, ∅, ∅⟩) ∧
      safeGame.story.IsSettled s ∧ s.isFinished = true := by
  obtain ⟨_, s, _, _, hreachable, hs⟩ :=
    exists_reachable_of_respond (fun action => action.isById = true) rfl respond_safeGame
  obtain ⟨hmarks, hnode, hreturn⟩ := by simpa only [Prod.mk.injEq] using hs
  have hsettled : safeGame.story.IsSettled s := by
    rcases isSettled_or_warned hreachable with hsettled | ⟨_, _, _, _, _, hpending, _⟩
    · exact hsettled
    · rw [hreturn] at hpending
      cases hpending
  have hend : safeGame.story.node? s.node = some (.outcome ⟨none, ∅, ∅⟩) := by
    rw [hnode]
    rfl
  exact ⟨s, hreachable, hmarks, hnode, rfl, hsettled, hsettled.outcome _ hend⟩

/-- Not every playthrough of a game has settled: if the gate sends the player to the end, the game
is over without a score. -/
theorem not_always_isSettled :
    ¬ ∀ (doc : Document) (game : Game), Story.ofDocument? doc = .ok game.story →
      ∀ s, game.Reachable (fun action => action.isById = true) s → game.story.IsSettled s := by
  intro h
  have hrun : ((gateGame [⟨some "S < 1", "END", .none⟩]).begin "Student" "River").value.toOption.map
      (fun s => (s.node, s.isFinished)) = some ("END", false) := by
    decide +kernel
  obtain ⟨s, hreachable, hs⟩ := exists_reachable_of_begin (fun action => action.isById = true) hrun
  obtain ⟨hnode, hunfinished⟩ := by simpa only [Prod.mk.injEq] using hs
  have hsettled := h _ _ (Story.ofDocument?_plain _ _) s hreachable
  have hfinished : s.isFinished = true := by
    apply hsettled.outcome ⟨none, ∅, ∅⟩
    rw [hnode]
    rfl
  rw [hunfinished] at hfinished
  cases hfinished

/-! ## Stops that are no nodes -/

/-- The next pending stop is visited, whatever is chosen and without a draw, exactly if the player
is at a node.  Otherwise the player is at a stop of a fan-out router that is no node, and no number
of actions leads on from there. -/
theorem visits_next_iff_has (h : game.Reachable allowed s) (hqueue : s.queue = next :: rest)
    (hnext : next ≠ "") :
    ((∀ limit choice source, (game.story.act limit s choice source).value =
        ⟨.ok { s with node := next, queue := rest }, source⟩) ↔ game.story.Has s.node) ∧
      (¬ game.story.Has s.node → game.story.AtStop s ∧
        ∀ limit choices source,
          game.story.actAll limit choices s source = ⟨.ok s, source⟩) := by
  constructor
  · constructor
    · intro hvisits
      by_cases hnode : game.story.Has s.node
      · exact hnode
      · -- The action would both take a stop from the queue and leave the queue as it is.
        have hstays : (game.story.act 0 s none (.scripted [])).value = ⟨.ok s, .scripted []⟩ :=
          Story.value_act_of_not_has hnode none (.scripted [])
        rw [hvisits 0 none (.scripted [])] at hstays
        have hsame : { s with node := next, queue := rest } = s :=
          Except.ok.inj (Turn.mk.inj hstays).1
        have hrest : rest = next :: rest := (congrArg Playthrough.queue hsame).trans hqueue
        exact absurd hrest.symm (List.cons_ne_self next rest)
    · intro hnode limit choice source
      exact Story.value_act_of_queue hnode hqueue hnext choice source
  · intro hnode
    have hpending : s.queue ≠ [] := by simp [hqueue]
    refine ⟨h.feedbackAccounted.atStop hpending, ?_⟩
    intro limit choices source
    exact Story.actAll_of_not_has hnode choices source

/-- Behind the gate every action leads from the first stop to the second. -/
theorem visits_next_of_gateGame :
    ∃ s, (gateGame Story.gateBranches).Reachable (fun _ => True) s ∧ s.node = "KIT" ∧
      s.queue = ["SAFE"] ∧ (Story.gateStory Story.gateBranches).Has "KIT" ∧
      ∀ limit choice source,
        ((Story.gateStory Story.gateBranches).act limit s choice source).value =
          ⟨.ok { s with node := "SAFE", queue := [] }, source⟩ := by
  obtain ⟨s, hreachable, hs⟩ := exists_reachable_of_begin (fun _ => True) begin_gateGame
  obtain ⟨hnode, hqueue, -⟩ := by simpa only [Prod.mk.injEq] using hs
  have hkit : (Story.gateStory Story.gateBranches).Has "KIT" := ⟨_, rfl⟩
  have hhas : (gateGame Story.gateBranches).story.Has s.node := by
    rw [hnode]
    exact hkit
  have hvisits := visits_next_iff_has hreachable hqueue (by decide)
  exact ⟨s, hreachable, hnode, hqueue, hkit, hvisits.1.mpr hhas⟩

/-- Not every pending stop is visited by the next action: if the first stop is no node, an action on
it leaves the second pending. -/
theorem not_always_visits_next :
    ¬ ∀ (doc : Document) (game : Game), Story.ofDocument? doc = .ok game.story →
      ∀ s, game.Reachable (fun _ => True) s →
        ∀ next rest, s.queue = next :: rest → next ≠ "" → ∀ choice source,
          (game.story.act game.settings.maxHops s choice source).value =
            ⟨.ok { s with node := next, queue := rest }, source⟩ := by
  intro h
  have hrun : ((gateGame [⟨some "S < 1", "GONE", .none⟩, ⟨some "S < 2", "SAFE", .none⟩]).begin
      "Student" "River").value.toOption.map (fun s => (s.node, s.queue)) =
      some ("GONE", ["SAFE"]) := by
    decide +kernel
  obtain ⟨s, hreachable, hs⟩ := exists_reachable_of_begin (fun _ => True) hrun
  obtain ⟨hnode, hqueue⟩ := by simpa only [Prod.mk.injEq] using hs
  have hvisits := h _ _ (Story.ofDocument?_plain _ _) s hreachable "SAFE" [] hqueue (by decide) none
    (.scripted [])
  have hgone : ¬ (gateGame [⟨some "S < 1", "GONE", .none⟩, ⟨some "S < 2", "SAFE", .none⟩]).story.Has
      s.node := by
    rw [hnode]
    rintro ⟨node, hfound⟩
    cases hfound
  rw [Story.value_act_of_not_has hgone] at hvisits
  have hsame : s = { s with node := "SAFE", queue := [] } := Except.ok.inj (Turn.mk.inj hvisits).1
  have hqueue' : s.queue = [] := congrArg Playthrough.queue hsame
  rw [hqueue] at hqueue'
  cases hqueue'

end Game
end BranchingStory
