import BranchingStory.Proofs.Game.Past
import BranchingStory.Proofs.Play.Excursions
import BranchingStory.Proofs.Play.Idling

/-!
# Sequences of actions

Several forms of going on action by action have been introduced, each for what it shows: the turn in
which a sequence ends, the playthrough and the source at its end, the choices that were made, all
results with their events.  They repeat one step, and here they are led back to each other.

- Where `Story.actAll` ends without an error, `Story.actEach` ends as well.
- `Story.actEach` ends where `Game.respondEach` ends with the same choices in hand, and it is a run
  in the sense of `Story.Runs`.
- `Game.respondEach` has the results of `Game.playEach`, for calls with the sources on the way.
- `Game.playEach` leads to playthroughs that are `Game.Reachable`.  Its events are the journal of a
  run, and its firings are those that `Game.goOn` collects.
- What is `Game.Reachable` has come by `Story.Runs` from where the game began.

So what every action keeps is kept by all of these forms, and has to be proved for one of them only.

Main results:

- `Story.Runs.invariant`, `Story.actEach_invariant`: what every action keeps is kept by a run, and
  by a sequence of actions.
- `Story.exists_runs_actEach`, `Game.Reachable.exists_runs`: sequences that are runs.
- `Game.exists_respondEach_eq_playEach`: actions with the draws that are left are calls.
- `Game.Reachable.leftBy_respondEach`, `Game.Reachable.actEach`, `Game.Reachable.actAll`: where
  sequences of actions lead is reached.
-/

namespace BranchingStory
namespace Story

variable {story : Story} {limit count more : Nat} {s s' t : Playthrough}
  {choices others : List Choice} {actions : List (Option Choice)} {source source' : Source}

/-! ## Actions of a story -/

/-- What every action keeps is kept by a run. -/
theorem Runs.invariant {P : Playthrough → Prop}
    (hact : ∀ {limit t t' choice source}, P t →
      (story.act limit t choice source).value.result = .ok t' → P t')
    (h : story.Runs s count choices s') (hs : P s) : P s' := by
  induction h with
  | stay => exact hs
  | act _ hstep ih => exact hact ih hstep

/-- Runs that follow each other are one run. -/
theorem Runs.trans (h : story.Runs s count choices t) (h' : story.Runs t more others s') :
    story.Runs s (count + more) (choices ++ others) s' := by
  induction h' with
  | stay => rwa [Nat.add_zero, List.append_nil]
  | act _ hstep ih =>
      rw [← List.append_assoc]
      exact ih.act hstep

/-- Where no action fails it does not matter whether a failure would end the sequence. -/
theorem actEach_of_actAll (h : story.actAll limit actions s source = ⟨.ok s', source'⟩) :
    story.actEach limit actions s source = (s', source') := by
  induction actions generalizing s source with
  | nil =>
      cases h
      rfl
  | cons action actions ih =>
      cases hresult : (story.act limit s action source).value.result with
      | error e =>
          simp only [actAll, hresult] at h
          cases h
      | ok t =>
          simp only [actAll, hresult] at h
          simp only [actEach, hresult]
          exact ih h

/-- A sequence of actions is a run of those that do not fail. -/
theorem exists_runs_actEach (story : Story) (limit : Nat) (actions : List (Option Choice))
    (s : Playthrough) (source : Source) :
    ∃ count choices, count ≤ actions.length ∧
      story.Runs s count choices (story.actEach limit actions s source).1 := by
  induction actions generalizing s source with
  | nil => exact ⟨0, [], Nat.le_refl 0, .stay⟩
  | cons action actions ih =>
      cases hresult : (story.act limit s action source).value.result with
      | error e =>
          obtain ⟨count, choices, hcount, hruns⟩ :=
            ih s (story.act limit s action source).value.source
          simp only [actEach, hresult]
          exact ⟨count, choices, Nat.le_succ_of_le hcount, hruns⟩
      | ok t =>
          obtain ⟨count, choices, hcount, hruns⟩ :=
            ih t (story.act limit s action source).value.source
          simp only [actEach, hresult]
          refine ⟨0 + 1 + count, _, ?_, (Runs.stay.act hresult).trans hruns⟩
          rw [List.length_cons]
          omega

/-- What every action keeps is kept by a sequence of actions. -/
theorem actEach_invariant {P : Playthrough → Prop}
    (hact : ∀ {limit t t' choice source}, P t →
      (story.act limit t choice source).value.result = .ok t' → P t')
    (hs : P s) (limit : Nat) (actions : List (Option Choice)) (source : Source) :
    P (story.actEach limit actions s source).1 := by
  obtain ⟨count, choices, -, hruns⟩ := exists_runs_actEach story limit actions s source
  exact hruns.invariant hact hs

end Story

namespace Game

variable {game : Game} {allowed : PlayerAction → Prop} {s : Playthrough}

/-! ## Actions of a player -/

/-- A playthrough that is reached has come by a run from one that has begun. -/
theorem Reachable.exists_runs (h : game.Reachable allowed s) :
    ∃ persona location begun count choices, (game.begin persona location).value = .ok begun ∧
      game.story.Runs begun count choices s := by
  induction h with
  | begun hbegin => exact ⟨_, _, _, 0, [], hbegin, .stay⟩
  | acted _ _ hrespond ih =>
      obtain ⟨persona, location, begun, count, choices, hbegin, hruns⟩ := ih
      exact ⟨persona, location, begun, _, _, hbegin, hruns.act (respond_eq_ok_iff.mp hrespond)⟩

/-- Choices in hand lead where the story leads with them. -/
theorem leftBy_respondEach_inHand (game : Game) (actions : List (Option Choice))
    (s : Playthrough) :
    s.leftBy (game.respondEach (actions.map .inHand) s).value =
      (game.story.actEach game.settings.maxHops actions s game.source).1 := by
  induction actions generalizing game s with
  | nil => rfl
  | cons action actions ih =>
      let turn := (game.story.act game.settings.maxHops s action game.source).value
      let after : Game := { game with source := turn.source }
      have hplayed : (game.respondEach ((action :: actions).map .inHand) s).value =
          ⟨turn.result.mapError .routing, after⟩ :: (after.respondEach (actions.map .inHand)
            ((turn.result.mapError GameError.routing).toOption.getD s)).value :=
        rfl
      rw [hplayed, leftBy_cons, ih after, Story.actEach]
      cases turn.result <;> rfl

/-- A call does not ask for the source of the game. -/
theorem playEach_withSource (game : Game) (source : Source) (calls : List Call)
    (s : Playthrough) :
    ({ game with source := source } : Game).playEach calls s = game.playEach calls s := by
  induction calls generalizing s with
  | nil => rfl
  | cons call calls ih =>
      have hrespond (t : Playthrough) :
          ({ game with source := source } : Game).respond call.source t call.action =
            game.respond call.source t call.action := by
        cases call.action <;> rfl
      rw [playEach, playEach, hrespond]
      simp only [ih]

/-- Actions with the draws that are left are calls, each with the source that it comes to. -/
theorem exists_respondEach_eq_playEach (game : Game) (actions : List PlayerAction)
    (s : Playthrough) :
    ∃ calls : List Call, calls.map Call.action = actions ∧
      game.respondEach actions s = game.playEach calls s := by
  induction actions generalizing game s with
  | nil => exact ⟨[], rfl, rfl⟩
  | cons action actions ih =>
      let played := game.respond game.source s action
      obtain ⟨calls, hcalls, hrest⟩ := ih played.value.game (played.value.result.toOption.getD s)
      refine ⟨⟨action, game.source⟩ :: calls, by rw [List.map_cons, hcalls], ?_⟩
      have hgame : played.value.game = { game with source := played.value.game.source } := by
        simp only [played, value_respond]
      have hothers : played.value.game.respondEach actions (played.value.result.toOption.getD s) =
          game.playEach calls (played.value.result.toOption.getD s) := by
        rw [hrest, hgame, playEach_withSource]
      rw [respondEach, playEach]
      refine Traced.bind_congr ?_
      rw [hothers]

/-- Actions of an allowed kind lead to playthroughs that are reached. -/
theorem Reachable.leftBy_respondEach {actions : List PlayerAction} (h : game.Reachable allowed s)
    (hallowed : ∀ action ∈ actions, allowed action) :
    game.Reachable allowed (s.leftBy (game.respondEach actions s).value) := by
  obtain ⟨calls, hcalls, hplay⟩ := exists_respondEach_eq_playEach game actions s
  rw [hplay]
  apply h.leftBy_playEach
  intro call hcall
  apply hallowed
  rw [← hcalls]
  exact List.mem_map_of_mem hcall

/-- Where the actions of a story lead is reached by choices in hand. -/
theorem Reachable.actEach (actions : List (Option Choice))
    (hinHand : ∀ choice, allowed (.inHand choice)) (h : game.Reachable allowed s) :
    game.Reachable allowed
      (game.story.actEach game.settings.maxHops actions s game.source).1 := by
  rw [← leftBy_respondEach_inHand]
  apply h.leftBy_respondEach
  intro action haction
  obtain ⟨choice, -, rfl⟩ := List.mem_map.mp haction
  exact hinHand choice

/-- So is the playthrough in which they end, if none of them fails. -/
theorem Reachable.actAll {actions : List (Option Choice)} {s' : Playthrough} {source : Source}
    (hinHand : ∀ choice, allowed (.inHand choice)) (h : game.Reachable allowed s)
    (hact : game.story.actAll game.settings.maxHops actions s game.source = ⟨.ok s', source⟩) :
    game.Reachable allowed s' := by
  have hend := h.actEach actions hinHand
  rwa [Story.actEach_of_actAll hact] at hend

end Game
end BranchingStory
