import BranchingStory.Proofs.Play.Steps
import BranchingStory.Proofs.Story.Plain

/-!
# Walks and their limit

A walk repeats steps until the playthrough rests.  It may go round and round for a while, as the
adjustments on the way change which conditions hold.  The limit counts every router at which the
walk stands: one that it has been at before, one that it cannot leave and one that fires as well as
one that it passes.

So a walk is seen through exactly if it rests before it has stood at more routers than the limit
allows, and otherwise the first router beyond the limit is reported.

Main results:

- `Story.rests_or_goes_beyond`: every walk rests within a limit or comes to a router beyond it.
- `Story.value_walk_of_restsAfter`, `Story.value_walk_of_passes`: what comes of the one and of the
  other.
- `Story.advance_bounds_walk`: the same for moving on, and for different limits.
-/

namespace BranchingStory
namespace Story

variable {story : Story} {s s' t m last : Playthrough} {stop : Stop} {hops limit : Nat}
  {ids passed : List String}

/-! ## The routers of a walk -/

/-- The story moves on by itself from one playthrough to another one.  The routers that are passed
on the way are listed in order, each as often as it is passed. -/
inductive Passes (story : Story) : Playthrough → List String → Playthrough → Prop
  | nothing (s : Playthrough) : Passes story s [] s
  | move {s t m : Playthrough} {passed : List String} (hmove : story.Moves s t)
      (hpasses : Passes story t passed m) : Passes story s (s.node :: passed) m

/-- The router at which a playthrough stands, if it stands at one. -/
def routerAt (story : Story) (s : Playthrough) : List String :=
  if story.routesAt s.node then [s.node] else []

/-- The walk from a playthrough comes to rest.  The routers that it has visited are those that it
has passed and the one at which it rests. -/
inductive RestsAfter (story : Story) (s : Playthrough) :
    List String → Stop → Playthrough → Prop
  | intro {passed : List String} {m s' : Playthrough} {stop : Stop}
      (hpasses : story.Passes s passed m) (hrests : story.Rests m stop s') :
      RestsAfter story s (passed ++ story.routerAt m) stop s'

/-- What moves on by itself is at a router. -/
theorem Moves.routesAt (h : story.Moves s t) : story.routesAt s.node = true := by
  cases h with
  | branch hnode _ => simp [Story.routesAt, hnode, Node.isRouting]
  | default hnode _ => simp [Story.routesAt, hnode, Node.isRouting]
  | passed hnode _ => simp [Story.routesAt, hnode, Node.isRouting]
  | unmatched hnode _ _ => simp [Story.routesAt, hnode, Node.isRouting]

/-- A playthrough stands at one router at most. -/
theorem length_routerAt_le (story : Story) (s : Playthrough) : (story.routerAt s).length ≤ 1 := by
  unfold routerAt
  split <;> simp

/-- Where no router is counted there is none. -/
theorem routesAt_eq_false_of_routerAt (h : (story.routerAt s).length = 0) :
    story.routesAt s.node = false := by
  unfold routerAt at h
  split at h
  · cases h
  · rename_i hroutes
    exact Bool.eq_false_iff.mpr hroutes

/-- Two ways to places of rest are the same way. -/
theorem Passes.eq_of_rests {others : List String} {stop' : Stop} {n : Playthrough}
    (h : story.Passes s passed m) (hrests : story.Rests m stop s') (h' : story.Passes s others n)
    (hrests' : story.Rests n stop' t) : passed = others ∧ m = n := by
  induction h generalizing others with
  | nothing s =>
      cases h' with
      | nothing _ => exact ⟨rfl, rfl⟩
      | move hmove _ => exact absurd hmove hrests.not_moves
  | move hmove _ ih =>
      cases h' with
      | nothing _ => exact absurd hmove hrests'.not_moves
      | move hmove' hpasses' =>
          obtain rfl := hmove.unique hmove'
          obtain ⟨rfl, rfl⟩ := ih hrests hpasses'
          exact ⟨rfl, rfl⟩

/-- There is one walk from a playthrough: it rests in one place, after the same visits. -/
theorem RestsAfter.unique {others : List String} {stop' : Stop}
    (h : story.RestsAfter s ids stop s') (h' : story.RestsAfter s others stop' t) :
    ids = others ∧ stop = stop' ∧ s' = t := by
  cases h with
  | intro hpasses hrests =>
      cases h' with
      | intro hpasses' hrests' =>
          obtain ⟨rfl, rfl⟩ := hpasses.eq_of_rests hrests hpasses' hrests'
          have hstep := (value_step_of_rests hrests).symm.trans (value_step_of_rests hrests')
          exact ⟨rfl, Step.rest.inj hstep⟩

/-- A router in front of a walk is one more that it has visited. -/
theorem RestsAfter.move (hmove : story.Moves s t) (h : story.RestsAfter t ids stop s') :
    story.RestsAfter s (s.node :: ids) stop s' := by
  cases h with
  | intro hpasses hrests => exact .intro (.move hmove hpasses) hrests

/-! ## Within the limit and beyond -/

/-- A step that comes to rest is all of a walk, if it is not at a router or a router is allowed. -/
theorem value_walk_of_rests (h : story.Rests s stop s')
    (hlimit : (story.routerAt s).length ≤ hops) :
    (story.walk hops s).value = .rested stop s' := by
  cases hops with
  | zero =>
      have hroutes : story.routesAt s.node = false :=
        routesAt_eq_false_of_routerAt (Nat.le_zero.mp hlimit)
      rw [value_walk_zero, hroutes, value_step_of_rests h]
      rfl
  | succ hops => rw [value_walk_succ, value_step_of_rests h]

/-- Passing a router takes one from the limit. -/
theorem value_walk_of_moves (h : story.Moves s t) (hops : Nat) :
    (story.walk (hops + 1) s).value = (story.walk hops t).value := by
  rw [value_walk_succ, value_step_of_moves h]

/-- Passing routers takes as many from the limit. -/
theorem value_walk_add (h : story.Passes s passed m) (hops : Nat) :
    (story.walk (hops + passed.length) s).value = (story.walk hops m).value := by
  induction h with
  | nothing s => rfl
  | move hmove _ ih => rw [List.length_cons, ← Nat.add_assoc, value_walk_of_moves hmove, ih]

/-- A walk that rests within the limit is seen through. -/
theorem value_walk_of_restsAfter (h : story.RestsAfter s ids stop s') (hlimit : ids.length ≤ hops) :
    (story.walk hops s).value = .rested stop s' := by
  cases h with
  | @intro passed m _ _ hpasses hrests =>
      rw [List.length_append, Nat.add_comm] at hlimit
      obtain ⟨more, rfl⟩ := Nat.exists_eq_add_of_le' (Nat.le_of_add_left_le hlimit)
      rw [value_walk_add hpasses]
      exact value_walk_of_rests hrests (Nat.le_of_add_le_add_right hlimit)

/-- A walk that comes to a router beyond the limit is given up in front of it. -/
theorem value_walk_of_passes (h : story.Passes s passed last)
    (hroutes : story.routesAt last.node = true) :
    (story.walk passed.length s).value = .exhausted last := by
  have hwalk := value_walk_add h 0
  rw [Nat.zero_add] at hwalk
  rw [hwalk, value_walk_zero, hroutes]
  rfl

/-- Every walk rests within a limit or comes to a router beyond it. -/
theorem rests_or_goes_beyond (story : Story) (limit : Nat) (s : Playthrough) :
    (∃ ids stop s', ids.length ≤ limit ∧ story.RestsAfter s ids stop s') ∨
      ∃ passed last, passed.length = limit ∧ story.Passes s passed last ∧
        story.routesAt last.node = true := by
  induction limit generalizing s with
  | zero =>
      by_cases hroutes : story.routesAt s.node = true
      · exact Or.inr ⟨[], s, rfl, .nothing s, hroutes⟩
      · rcases story.exists_moves_or_rests s with ⟨t, hmove⟩ | ⟨stop, s', hrests⟩
        · exact absurd hmove.routesAt hroutes
        · have hat : story.routerAt s = [] := if_neg hroutes
          exact Or.inl ⟨_, stop, s', by simp [hat], .intro (.nothing s) hrests⟩
  | succ limit ih =>
      rcases story.exists_moves_or_rests s with ⟨t, hmove⟩ | ⟨stop, s', hrests⟩
      · rcases ih t with
          ⟨ids, stop, s', hlength, hrests⟩ | ⟨passed, last, hlength, hpasses, hroutes⟩
        · exact Or.inl ⟨s.node :: ids, stop, s', Nat.succ_le_succ hlength, hrests.move hmove⟩
        · exact Or.inr ⟨s.node :: passed, last, congrArg Nat.succ hlength, .move hmove hpasses,
            hroutes⟩
      · refine Or.inl ⟨_, stop, s', ?_, .intro (.nothing s) hrests⟩
        exact Nat.le_trans (story.length_routerAt_le s) (Nat.le_add_left 1 limit)

/-! ## Moving on -/

/-- Moving on comes to rest exactly where the walk rests within the limit. -/
theorem value_advance_eq_ok_iff : (story.advance limit s).value = ⟨.ok stop, s'⟩ ↔
    ∃ ids, ids.length ≤ limit ∧ story.RestsAfter s ids stop s' := by
  constructor
  · intro h
    rcases story.rests_or_goes_beyond limit s with
      ⟨ids, stop', t, hlength, hrests⟩ | ⟨passed, last, rfl, hpasses, hroutes⟩
    · rw [value_advance, value_walk_of_restsAfter hrests hlength] at h
      cases h
      exact ⟨ids, hlength, hrests⟩
    · rw [value_advance, value_walk_of_passes hpasses hroutes] at h
      cases h
  · rintro ⟨ids, hlength, hrests⟩
    rw [value_advance, value_walk_of_restsAfter hrests hlength]

/-- Moving on fails exactly if the walk comes to a router beyond the limit, and reports it. -/
theorem value_advance_eq_error_iff {e : RoutingError} :
    (story.advance limit s).value = ⟨.error e, last⟩ ↔
      e = ⟨s.node, last.node, limit⟩ ∧ story.routesAt last.node = true ∧
        ∃ passed, passed.length = limit ∧ story.Passes s passed last := by
  constructor
  · intro h
    rcases story.rests_or_goes_beyond limit s with
      ⟨ids, stop, t, hlength, hrests⟩ | ⟨passed, m, rfl, hpasses, hroutes⟩
    · rw [value_advance, value_walk_of_restsAfter hrests hlength] at h
      cases h
    · rw [value_advance, value_walk_of_passes hpasses hroutes] at h
      cases h
      exact ⟨rfl, hroutes, passed, rfl, hpasses⟩
  · rintro ⟨rfl, hroutes, passed, rfl, hpasses⟩
    rw [value_advance, value_walk_of_passes hpasses hroutes]

/-- A walk that is seen through is seen through with every larger limit. -/
theorem value_advance_of_le {larger : Nat} (hle : limit ≤ larger)
    (h : (story.advance limit s).value = ⟨.ok stop, s'⟩) :
    (story.advance larger s).value = ⟨.ok stop, s'⟩ := by
  obtain ⟨ids, hlength, hrests⟩ := value_advance_eq_ok_iff.mp h
  exact value_advance_eq_ok_iff.mpr ⟨ids, Nat.le_trans hlength hle, hrests⟩

/-- A walk that is given up is given up with every smaller limit. -/
theorem exists_error_of_le {smaller : Nat} {e : RoutingError} (hle : smaller ≤ limit)
    (h : (story.advance limit s).value.result = .error e) :
    ∃ e', (story.advance smaller s).value.result = .error e' := by
  cases hsmaller : (story.advance smaller s).value with
  | mk result t =>
      cases result with
      | error e' => exact ⟨e', rfl⟩
      | ok stop =>
          rw [value_advance_of_le hle hsmaller] at h
          cases h

/-- Moving on is the walk, up to a limit.

- There is one walk, and if it rests within the limit, this is what moving on comes to; moving on
  comes to nothing else.
- Otherwise it fails, with the router at which the walk stands after it has passed as many as the
  limit allows.
- A larger limit changes nothing of a rest, and a smaller one does not help a failure. -/
theorem advance_bounds_walk (story : Story) (limit : Nat) (s : Playthrough) :
    (∀ ids stop s' ids' stop' t, story.RestsAfter s ids stop s' →
      story.RestsAfter s ids' stop' t → ids = ids' ∧ stop = stop' ∧ s' = t) ∧
    (∀ stop s', (story.advance limit s).value = ⟨.ok stop, s'⟩ ↔
      ∃ ids, ids.length ≤ limit ∧ story.RestsAfter s ids stop s') ∧
    ((¬ ∃ ids stop s', ids.length ≤ limit ∧ story.RestsAfter s ids stop s') →
      ∃ passed last, passed.length = limit ∧ story.Passes s passed last ∧
        story.routesAt last.node = true ∧
        (story.advance limit s).value = ⟨.error ⟨s.node, last.node, limit⟩, last⟩) ∧
    (∀ larger, limit ≤ larger → ∀ stop s', (story.advance limit s).value = ⟨.ok stop, s'⟩ →
      (story.advance larger s).value = ⟨.ok stop, s'⟩) ∧
    ∀ smaller, smaller ≤ limit → ∀ e, (story.advance limit s).value.result = .error e →
      ∃ e', (story.advance smaller s).value.result = .error e' := by
  refine ⟨fun ids stop s' ids' stop' t => RestsAfter.unique, fun stop s' => value_advance_eq_ok_iff,
    ?_, fun larger hle stop s' => value_advance_of_le hle,
    fun smaller hle e => exists_error_of_le hle⟩
  intro hbeyond
  rcases story.rests_or_goes_beyond limit s with hwithin | ⟨passed, last, hlength, hpasses, hroutes⟩
  · exact absurd hwithin hbeyond
  · exact ⟨passed, last, hlength, hpasses, hroutes,
      value_advance_eq_error_iff.mpr ⟨rfl, hroutes, passed, hlength, hpasses⟩⟩

/-- A hill, where safety grows by one on each way round until the top can be reached. -/
def hillStory : Story :=
  .plain
    [("HILL", .router [⟨some "S < 2", "HILL", ⟨.ofList [("S", 1)]⟩⟩] (some "TOP")),
      ("TOP", .narrative ⟨none, ∅, ∅⟩ none none)] []

/-- At the foot of the hill. -/
def atHill : Playthrough :=
  .start "HILL" "Student" "River" (.uniform 0)

/-- At the top, two times safer than at the foot. -/
def atTop : Playthrough :=
  { atHill with
    node := "TOP"
    stats := { PerStat.uniform 0 with safety := 2 } }

/-- The walk stands at the hill three times before it reaches the top: three are enough for every
limit from three on, and two are too few for this and every smaller one. -/
theorem advance_bounds_hill :
    (∃ ids, ids.length ≤ 3 ∧ hillStory.RestsAfter atHill ids .interactive atTop) ∧
      (∀ limit, 3 ≤ limit → (hillStory.advance limit atHill).value = ⟨.ok .interactive, atTop⟩) ∧
      (hillStory.advance 2 atHill).value.result = .error ⟨"HILL", "HILL", 2⟩ ∧
      ∀ limit ≤ 2, ∃ e, (hillStory.advance limit atHill).value.result = .error e := by
  have htop : (hillStory.advance 3 atHill).value = ⟨.ok .interactive, atTop⟩ := by
    rfl
  have hhill : (hillStory.advance 2 atHill).value.result = .error ⟨"HILL", "HILL", 2⟩ := by
    rfl
  obtain ⟨-, hrests, -, hlarger, -⟩ := advance_bounds_walk hillStory 3 atHill
  obtain ⟨-, -, -, -, hsmaller⟩ := advance_bounds_walk hillStory 2 atHill
  exact ⟨(hrests .interactive atTop).mp htop, fun limit hle => hlarger limit hle _ _ htop, hhill,
    fun limit hle => hsmaller limit hle _ hhill⟩

end Story
end BranchingStory
