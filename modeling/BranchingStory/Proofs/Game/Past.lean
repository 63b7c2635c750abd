import BranchingStory.Proofs.Game.Runs
import BranchingStory.Proofs.Play.Past

/-!
# Runs with another past

A player acts as often as it likes, each time on the playthrough that came of the action before and
with the draws that are left.  An action that fails leaves the playthrough as it is, but what it has
drawn stays drawn.  Two such runs that begin with different histories go on side by side.

Main results:

- `Game.respondEach_recalling`: what comes of the actions with a longer past.
- `Game.history_respondEach`: which visits are recorded on the way.
- `Game.history_never_counts`: two runs from playthroughs that differ in their history only.
-/

namespace BranchingStory

/-- What came of an action, with a past that comes before the history. -/
def Played.recalling (past : List Visit) (played : Played) : Played where
  result := played.result.map (Playthrough.recalling past)
  game := played.game

namespace Game

variable {game : Game} {s s' : Playthrough} {actions : List PlayerAction} {played : Played}

/-! ## One action -/

/-- A game plays in the same way with a longer past. -/
theorem play_recalling (game : Game) (past : List Visit) (s : Playthrough)
    (choice : Option Choice) :
    game.play (s.recalling past) choice = Played.recalling past <$> game.play s choice := by
  rw [play, play, Story.act_recalling, Traced.bind_map, Traced.map_bind]
  congr 1
  funext turn
  obtain ⟨result, source⟩ := turn
  cases result <;> rfl

/-- A player gets the same response with a longer past. -/
theorem respond_recalling (game : Game) (source : Source) (past : List Visit) (s : Playthrough)
    (action : PlayerAction) :
    game.respond source (s.recalling past) action =
      Played.recalling past <$> game.respond source s action := by
  cases action with
  | inHand choice => exact play_recalling ..
  | byId id =>
      cases id with
      | none => exact play_recalling ..
      | some id =>
          simp only [respond, playById, play_recalling, Traced.map_bind]
          rfl

/-! ## Several actions -/

/-- What comes of actions, one after the other. -/
def respondEach (game : Game) : List PlayerAction → Playthrough → Traced (List Played)
  | [], _ => pure []
  | action :: actions, s => do
      let played ← game.respond game.source s action
      let others ← played.game.respondEach actions (played.result.toOption.getD s)
      return played :: others

/-- The visits that these actions record, in order.  An action that fails records none. -/
def recordedEach (game : Game) : List PlayerAction → Playthrough → List Visit
  | [], _ => []
  | action :: actions, s =>
      let played := (game.respond game.source s action).value
      match played.result with
      | .ok s' =>
          game.story.recorded s (game.choiceMeant s action) ++ played.game.recordedEach actions s'
      | .error _ => played.game.recordedEach actions s

/-- So it is with all responses to a sequence of actions. -/
theorem respondEach_recalling (game : Game) (past : List Visit) (actions : List PlayerAction)
    (s : Playthrough) :
    game.respondEach actions (s.recalling past) =
      List.map (Played.recalling past) <$> game.respondEach actions s := by
  induction actions generalizing game s with
  | nil => rfl
  | cons action actions ih =>
      rw [respondEach, respondEach, respond_recalling, Traced.bind_map, Traced.map_bind]
      congr 1
      funext played
      have hnext : (played.recalling past).result.toOption.getD (s.recalling past) =
          (played.result.toOption.getD s).recalling past := by
        obtain ⟨result, game'⟩ := played
        cases result <;> rfl
      rw [hnext, show (played.recalling past).game = played.game from rfl, ih, Traced.bind_map,
        Traced.map_bind]
      rfl

/-- The visits that a sequence of actions records do not depend on those before. -/
theorem recordedEach_recalling (game : Game) (past : List Visit) (actions : List PlayerAction)
    (s : Playthrough) :
    game.recordedEach actions (s.recalling past) = game.recordedEach actions s := by
  induction actions generalizing game s with
  | nil => rfl
  | cons action actions ih =>
      have hchoice : game.choiceMeant (s.recalling past) action = game.choiceMeant s action := by
        cases action <;> rfl
      simp only [recordedEach, respond_recalling, Traced.value_map, hchoice,
        Story.recorded_recalling, Played.recalling]
      cases (game.respond game.source s action).value.result with
      | ok s' => simp only [Except.map, ih]
      | error e => simp only [Except.map, ih]

/-- A playthrough on the way remembers what was remembered at the beginning, and then exactly the
visits recorded so far. -/
theorem history_respondEach {k : Nat}
    (hplayed : (game.respondEach actions s).value[k]? = some played)
    (hok : played.result = .ok s') :
    s'.history = s.history ++ game.recordedEach (actions.take (k + 1)) s := by
  induction actions generalizing game s k with
  | nil => simp [respondEach] at hplayed
  | cons action actions ih =>
      simp only [respondEach, Traced.value_bind, Traced.value_pure] at hplayed
      have hone (t : Playthrough)
          (ht : (game.respond game.source s action).value.result = .ok t) :
          t.history = s.history ++ game.story.recorded s (game.choiceMeant s action) :=
        Story.history_of_act (respond_eq_ok_iff.mp ht)
      simp only [List.take_succ_cons, recordedEach]
      cases k with
      | zero =>
          obtain rfl := by simpa using hplayed
          simp [hok, recordedEach, hone s' hok]
      | succ k =>
          have hrest := ih (by simpa using hplayed)
          cases hresult : (game.respond game.source s action).value.result with
          | ok t =>
              rw [hresult] at hrest
              simpa [hone t hresult, Except.toOption] using hrest
          | error e =>
              rw [hresult] at hrest
              exact hrest

/-- Two runs of the same actions, from playthroughs that differ in their history only, note the same
events and come to the same results with the same draws: where one fails, the other fails with the
same error, and where one gives a playthrough, the other gives the same one but for the history.
Each history is the one from the beginning followed by the visits recorded so far. -/
theorem history_never_counts (game : Game) (actions : List PlayerAction) (s : Playthrough)
    (past past' : List Visit) :
    ∃ (run : List Played) (events : List Event),
      game.respondEach actions { s with history := past } =
        ⟨run.map (Played.recalling past), events⟩ ∧
      game.respondEach actions { s with history := past' } =
        ⟨run.map (Played.recalling past'), events⟩ ∧
      ∀ k played s', run[k]? = some played → played.result = .ok s' →
        s'.history = game.recordedEach (actions.take (k + 1)) s := by
  -- Both runs are compared with the one that has no past.
  let fresh : Playthrough := { s with history := [] }
  have hrecall (more : List Visit) : { s with history := more } = fresh.recalling more := by
    simp [fresh, Playthrough.recalling]
  have hrun (more : List Visit) : game.respondEach actions { s with history := more } =
      ⟨(game.respondEach actions fresh).value.map (Played.recalling more),
        (game.respondEach actions fresh).events⟩ := by
    rw [hrecall, respondEach_recalling]
    exact congrArg (Traced.mk _) (Traced.events_map _ _)
  refine ⟨_, _, hrun past, hrun past', ?_⟩
  intro k played s' hplayed hok
  have hsame : game.recordedEach (actions.take (k + 1)) s =
      game.recordedEach (actions.take (k + 1)) fresh :=
    (congrArg (game.recordedEach _) (hrecall s.history)).trans (recordedEach_recalling ..)
  rw [hsame, history_respondEach hplayed hok, List.nil_append]

/-- A ridge with a way up that never ends, and with a gate behind the hut that sends a player who
has no safety to two stops. -/
def ridgeNodes : List (String × Node) :=
  [("END", .outcome ⟨none, ∅, ∅⟩),
    ("GATE", .fanout [⟨some "S < 1", "TIP", .none⟩, ⟨some "S < 2", "HINT", .none⟩] "END"),
    ("HINT", .narrative ⟨none, ∅, ∅⟩ none none),
    ("HUT", .decision ⟨none, ∅, ∅⟩
      [⟨"climb", "Climb", none, ∅, .none, none, [], ∅, "SLOPE"⟩,
        ⟨"rest", "Rest", none, ∅, .none, none, [], ∅, "GATE"⟩]),
    ("SLOPE", .router [] (some "SLOPE")),
    ("TIP", .narrative ⟨none, ∅, ∅⟩ none none)]

/-- A game of these nodes. -/
def ridgeGame : Game where
  story := .plain ridgeNodes []
  settings := { startNode := "HUT", maxHops := 1 }
  source := .scripted []

/-- In the hut, on the way from the road. -/
def atHut : Playthrough :=
  { Playthrough.start "HUT" "Student" "River" (.uniform 0) with history := [⟨"ROAD", none⟩] }

/-- Climb in vain, rest, and continue until the end. -/
def ridgeActions : List PlayerAction :=
  [.byId (some "climb"), .byId (some "rest"), .byId none, .byId none]

/-- With and without the road, the climb fails, and then the rest and leaving the second stop are
recorded.  Going from the first stop to the second is not. -/
theorem history_never_counts_of_ridgeGame :
    ∃ (run : List Played) (events : List Event),
      ridgeGame.respondEach ridgeActions atHut =
        ⟨run.map (Played.recalling [⟨"ROAD", none⟩]), events⟩ ∧
      ridgeGame.respondEach ridgeActions { atHut with history := [] } =
        ⟨run.map (Played.recalling []), events⟩ ∧
      run.map (fun played => played.result.toOption.map fun s => (s.node, s.history)) =
        [none, some ("TIP", [⟨"HUT", some "rest"⟩]), some ("HINT", [⟨"HUT", some "rest"⟩]),
          some ("END", [⟨"HUT", some "rest"⟩, ⟨"HINT", none⟩])] := by
  obtain ⟨run, events, hroad, hfresh, -⟩ :=
    history_never_counts ridgeGame ridgeActions atHut [⟨"ROAD", none⟩] []
  refine ⟨run, events, hroad, hfresh, ?_⟩
  have hrun : (ridgeGame.respondEach ridgeActions { atHut with history := [] }).value = run := by
    have hsame : Played.recalling [] = id := by
      funext played
      obtain ⟨result, game⟩ := played
      cases result <;> rfl
    rw [hfresh, hsame, List.map_id]
  rw [← hrun]
  decide +kernel

end Game
end BranchingStory
