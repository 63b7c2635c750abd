import BranchingStory.Proofs.Lint.Playable
import BranchingStory.Proofs.Play.Steps
import BranchingStory.Proofs.Routers.Cycles

/-!
# Walks past routers

A walk that is exhausted has stood in front of one more router than its limit allows.  With a limit
that is no less than the number of routers it has therefore come back to some router, and the
routers in between are a way on that closes a cycle.

Main results:

- `Story.reports_cycle_of_advance_error`: a walk that is exhausted is predicted by the lint.
- `Story.exists_arrive`: without cycles every playthrough arrives.
-/

namespace BranchingStory
namespace Story

variable {story : Story} {s s' : Playthrough} {hops limit : Nat} {id next : String}
  {ids : List String}

/-! ## Traces -/

/-- An exhausted walk leaves a trace of routers, one more than the limit, each with a way on to the
next. -/
theorem exists_trace_of_walk_exhausted (h : (story.walk hops s).value = .exhausted s') :
    ∃ rest, rest.length = hops ∧ (∀ id ∈ s.node :: rest, story.routesAt id = true) ∧
      (s.node :: rest).IsChain fun id next => next ∈ story.autoSuccessors id := by
  induction hops generalizing s with
  | zero =>
      refine ⟨[], rfl, ?_, List.isChain_singleton _⟩
      intro id hid
      rw [List.mem_singleton.mp hid]
      rw [value_walk_zero] at h
      split at h
      · assumption
      · split at h
        · cases h
        · rename_i hstep
          exact routesAt_of_mem_autoSuccessors (value_step_eq_move_iff.mp hstep).mem_autoSuccessors
  | succ hops ih =>
      rw [value_walk_succ] at h
      split at h
      · cases h
      · rename_i t hstep
        have hnext := (value_step_eq_move_iff.mp hstep).mem_autoSuccessors
        obtain ⟨rest, hlength, hroutes, hchain⟩ := ih h
        refine ⟨t.node :: rest, by simp [hlength], ?_, List.isChain_cons_cons.mpr ⟨hnext, hchain⟩⟩
        intro id hid
        rcases List.mem_cons.mp hid with rfl | hid
        · exact routesAt_of_mem_autoSuccessors hnext
        · exact hroutes id hid

/-- The first router of a trace leads to all of it. -/
theorem leads_of_mem_trace (hroutes : ∀ id ∈ next :: ids, story.routesAt id = true)
    (hchain : (next :: ids).IsChain fun id next => next ∈ story.autoSuccessors id)
    (hid : id ∈ next :: ids) : story.Leads [] next id := by
  induction ids generalizing next with
  | nil =>
      rw [List.mem_singleton.mp hid]
      exact Leads.refl List.not_mem_nil (hroutes next List.mem_cons_self)
  | cons second ids ih =>
      obtain ⟨hsecond, hrest⟩ := List.isChain_cons_cons.mp hchain
      rcases List.mem_cons.mp hid with rfl | hid
      · exact Leads.refl List.not_mem_nil (hroutes id List.mem_cons_self)
      · exact Leads.step List.not_mem_nil hsecond
          (ih (fun x hx => hroutes x (List.mem_cons_of_mem _ hx)) hrest hid)

/-- A trace that comes back to a router has gone round a cycle. -/
theorem exists_leads_back_of_not_nodup (hroutes : ∀ id ∈ ids, story.routesAt id = true)
    (hchain : ids.IsChain fun id next => next ∈ story.autoSuccessors id) (hdup : ¬ ids.Nodup) :
    ∃ id next, next ∈ story.autoSuccessors id ∧ story.Leads [] next id := by
  induction ids with
  | nil => exact absurd List.nodup_nil hdup
  | cons id ids ih =>
      have hrest : ∀ x ∈ ids, story.routesAt x = true := fun x hx =>
        hroutes x (List.mem_cons_of_mem _ hx)
      by_cases hid : id ∈ ids
      · cases ids with
        | nil => exact absurd hid List.not_mem_nil
        | cons next ids =>
            obtain ⟨hnext, htail⟩ := List.isChain_cons_cons.mp hchain
            exact ⟨id, next, hnext, leads_of_mem_trace hrest htail hid⟩
      · exact ih hrest hchain.tail fun hnodup => hdup (List.nodup_cons.mpr ⟨hid, hnodup⟩)

/-! ## Limits -/

/-- A walk with a limit no less than the number of routers is exhausted only by a cycle. -/
theorem routerCycles_ne_nil_of_walk_exhausted (hlimit : story.routerIds.length ≤ limit)
    (h : (story.walk limit s).value = .exhausted s') : story.routerCycles ≠ [] := by
  obtain ⟨rest, hlength, hroutes, hchain⟩ := exists_trace_of_walk_exhausted h
  have hdup : ¬ (s.node :: rest).Nodup := by
    intro hnodup
    have := Trail.length_le ⟨hnodup, hroutes⟩
    rw [List.length_cons, hlength] at this
    omega
  obtain ⟨id, next, hnext, hback⟩ := exists_leads_back_of_not_nodup hroutes hchain hdup
  exact routerCycles_ne_nil hnext hback

/-- Without cycles every playthrough arrives. -/
theorem exists_arrive (hcycles : story.routerCycles = [])
    (hlimit : story.routerIds.length ≤ limit) (s : Playthrough) :
    ∃ s', (story.arrive limit s).value = .ok s' := by
  simp only [arrive, Traced.value_bind, Traced.value_pure, value_advance]
  cases hwalk : (story.walk limit s).value with
  | rested stop s' => exact ⟨s', rfl⟩
  | exhausted s' => exact absurd hcycles (routerCycles_ne_nil_of_walk_exhausted hlimit hwalk)

/-- A playthrough that passes too many routers, though the limit allows them all, is in a story with
a cycle of routers, and the lint reports it from every start. -/
theorem reports_cycle_of_advance_error {e : RoutingError}
    (hlimit : story.routerIds.length ≤ limit)
    (h : (story.advance limit s).value.result = .error e) :
    story.routerCycles ≠ [] ∧
      ∀ start, ∃ cycle ∈ story.routerCycles,
        "Router cycle with no interactive node: " ++ " -> ".intercalate cycle
          ∈ (story.lintReport start).errors := by
  have hcycles : story.routerCycles ≠ [] := by
    rw [value_advance] at h
    cases hwalk : (story.walk limit s).value with
    | rested stop s' =>
        rw [hwalk] at h
        cases h
    | exhausted s' => exact routerCycles_ne_nil_of_walk_exhausted hlimit hwalk
  refine ⟨hcycles, fun start => ?_⟩
  obtain ⟨cycle, hcycle⟩ := List.exists_mem_of_ne_nil _ hcycles
  exact ⟨cycle, hcycle, mem_errors_of_mem_lint (routerCycle_mem_lint hcycle) rfl⟩

/-- In the forked story a playthrough goes round past `C`; the cycle past `B` is reported. -/
theorem reports_cycle_of_forkedStory :
    forkedStory.routerIds.length ≤ 4 ∧
      (forkedStory.advance 4 (.start "A" "Student" "River" (.uniform 0))).value.result =
        .error ⟨"A", "C", 4⟩ ∧
      forkedStory.routerCycles ≠ [] ∧
      ∀ start, ∃ cycle ∈ forkedStory.routerCycles,
        "Router cycle with no interactive node: " ++ " -> ".intercalate cycle
          ∈ (forkedStory.lintReport start).errors := by
  have hlimit : forkedStory.routerIds.length ≤ 4 := by decide
  have herror : (forkedStory.advance 4 (.start "A" "Student" "River" (.uniform 0))).value.result =
      .error ⟨"A", "C", 4⟩ := by decide +kernel
  exact ⟨hlimit, herror, reports_cycle_of_advance_error hlimit herror⟩

end Story
end BranchingStory
