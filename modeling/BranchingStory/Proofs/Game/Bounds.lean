import BranchingStory.Proofs.Game.Runs
import BranchingStory.Proofs.Play.Bounds
import BranchingStory.Proofs.Story.Validation

/-!
# Stats in a run of a game

A story that was loaded has bounds for every stat, with their ends in order.  The stats at the start
of a game are moved into them, and from then on nothing leads out of them: no adjustment, no draw,
no choice that the story does not have, and no number of actions.

Main results:

- `Story.bounds_of_load`: what loading checks of the bounds.
- `Game.within_opening`: the stats at the start of a game.
- `Game.inAuthoredBounds_of_load`: the stats in every playthrough of a loaded story.
-/

namespace BranchingStory

/-! ## Loaded stories -/

namespace Story

variable {story : Story} {s : Playthrough} {text : String}

/-- Every stat lies between the ends that are authored for it. -/
def InAuthoredBounds (story : Story) (s : Playthrough) : Prop :=
  ∀ stat, ∃ bounds, story.system.bounds? stat = some bounds ∧
    bounds.min ≤ s.value stat ∧ s.value stat ≤ bounds.max

/-- A loaded story has the bounds that are authored in it, with their ends in order. -/
theorem bounds_of_load (h : load text = .ok story) (stat : Stat) :
    story.system.bounds? stat = some (story.bounds.get stat) ∧
      (story.bounds.get stat).min ≤ (story.bounds.get stat).max := by
  obtain ⟨doc, hdoc⟩ := exists_ofDocument?_of_load h
  obtain ⟨hwell, rfl, hfinds⟩ := ofDocument?_eq_ok_iff.mp hdoc
  obtain ⟨bounds, hbounds, horder⟩ := hwell.isBounded stat
  refine ⟨SystemSection.bounds?_eq_some_iff.mpr (hfinds stat), ?_⟩
  rwa [(hfinds stat).unique hbounds]

/-- In a loaded story the authored bounds are those that play keeps to. -/
theorem inAuthoredBounds_iff (h : load text = .ok story) :
    story.InAuthoredBounds s ↔ s.stats.Within story.bounds := by
  refine forall_congr' fun stat => ?_
  obtain ⟨hbounds, -⟩ := bounds_of_load h stat
  simp [hbounds, Bounds.contains, Playthrough.value]

/-- The initial values are moved into the bounds. -/
theorem within_initialStats (h : load text = .ok story) :
    story.initialStats.Within story.bounds := by
  intro stat
  rw [initialStats, PerStat.get_ofFn]
  exact Bounds.contains_clamp (bounds_of_load h stat).2 _

end Story

/-! ## Runs -/

namespace Game

variable {game : Game} {text : String}

/-- A playthrough opens within bounds. -/
theorem within_opening (h : Story.load text = .ok game.story) (persona location : String)
    (ofPersona ofLocation : Adjustment) :
    (game.opening persona location ofPersona ofLocation).stats.Within game.story.bounds :=
  ((Story.within_initialStats h).applyTo _).applyTo _

/-- In a game of a loaded story every stat lies between its authored ends: in every playthrough that
is reached, whatever is done and drawn, and after every action on any playthrough where it did
before. -/
theorem inAuthoredBounds_of_load (h : Story.load text = .ok game.story) :
    (∀ s, game.Reachable (fun _ => True) s → game.story.InAuthoredBounds s) ∧
      ∀ (limit : Nat) (s s' : Playthrough) (choice : Option Choice) (source : Source),
        game.story.InAuthoredBounds s →
        (game.story.act limit s choice source).value.result = .ok s' →
        game.story.InAuthoredBounds s' := by
  simp only [Story.inAuthoredBounds_iff h]
  refine ⟨fun s hs => ?_, fun limit s s' choice source hs hact => Story.within_of_act hact hs⟩
  refine Reachable.invariant (P := fun s => s.stats.Within game.story.bounds)
    (fun _ _ harrive => ?_) (fun hs _ hact => ?_) hs
  · exact Story.within_of_arrive harrive (within_opening h _ _ _ _)
  · exact Story.within_of_act hact hs

/-! ## A narrow range -/

/-- A story in which safety goes from zero to nine.  The persona starts far above that range, and
the one choice takes far more away than there is. -/
def narrowText : String :=
  "[null,[\x7b\"S\":[0,9],\"R\":[0,9],\"M\":[0,9],\"SC\":[0,9],\"HR\":[0,9],"
    ++ "\"SA\":[0,5],\"FM\":[0,5],\"LA\":[0,5]\x7d],"
    ++ "\x7b\"Student\":[\x7b\"S\":20\x7d]\x7d,\x7b\"River\":[]\x7d,\x7b\x7d,\x7b\x7d,"
    ++ "\x7b\"A\":\x7b\"type\":\"decision\",\"options\":"
    ++ "[[\"rob\",\"\",null,\x7b\x7d,\x7b\"S\":-2147483648\x7d,null,[],\x7b\x7d,\"A\"]]\x7d\x7d]"

/-- A game of a story from its node `A` on. -/
def narrowGame (story : Story) : Game where
  story := story
  settings := { startNode := "A" }
  source := .scripted []

/-- Safety is at the upper end at first, and at the lower end after the choice. -/
theorem safety_narrowGame :
    (do
      let story ← (Story.load narrowText).toOption
      let s ← ((narrowGame story).begin "Student" "River").value.toOption
      let played := ((narrowGame story).respond (.scripted []) s (.byId (some "rob"))).value
      let t ← played.result.toOption
      return (s.value .safety, t.value .safety)) = some (9, 0) := by
  decide +kernel

/-- The narrow game reaches both ends of the range, and stays in it. -/
theorem inAuthoredBounds_of_narrowText :
    ∃ story s t, Story.load narrowText = .ok story ∧
      ((narrowGame story).Reachable (fun _ => True) s ∧ s.value .safety = 9) ∧
      ((narrowGame story).Reachable (fun _ => True) t ∧ t.value .safety = 0) ∧
      story.InAuthoredBounds s ∧ story.InAuthoredBounds t := by
  obtain ⟨story, hload, hrun⟩ := Option.bind_eq_some_iff.mp safety_narrowGame
  obtain ⟨s, hbegin, hrun⟩ := Option.bind_eq_some_iff.mp hrun
  obtain ⟨t, hrespond, hvalues⟩ := Option.bind_eq_some_iff.mp hrun
  have hsafety := Prod.mk.inj (Option.some.inj hvalues)
  have hstory : Story.load narrowText = .ok (narrowGame story).story :=
    toOption_eq_some_iff.mp hload
  have hs : (narrowGame story).Reachable (fun _ => True) s :=
    .begun (toOption_eq_some_iff.mp hbegin)
  have ht : (narrowGame story).Reachable (fun _ => True) t :=
    .acted hs trivial (toOption_eq_some_iff.mp hrespond)
  have hkept := (inAuthoredBounds_of_load hstory).1
  exact ⟨story, s, t, hstory, ⟨hs, hsafety.1⟩, ⟨ht, hsafety.2⟩, hkept s hs, hkept t ht⟩

end Game
end BranchingStory
