import BranchingStory.Lint.Graph
import Mathlib.Data.List.Perm.Subperm

/-!
# Paths of routers

Where the story can get to by itself, past routers only.  All notions take a list of ids to avoid,
because a search that goes depth first never comes back to the path it is on.

- `Leads story avoid id target`: routers outside the list lead from an id to a target.
- `FirstPath story avoid starts target path`: of all ways from the starts to a target, this path
  takes at every router the earliest way on that still leads there.

Main results:

- `Story.leads_iff`: a way from a router is empty or goes on without coming back to it.
- `Story.exists_firstPath`: what can be got to has a first path.
- `Story.exists_firstPath_closing`: if a router that can be got to leads back to itself, then some
  first path ends in a router with a way on back into the path.
-/

namespace BranchingStory
namespace Story

variable {story : Story} {avoid starts path : List String} {id other next target : String}

/-! ## Routers -/

theorem routesAt_of_mem_autoSuccessors (h : next ∈ story.autoSuccessors id) :
    story.routesAt id = true := by
  unfold autoSuccessors at h
  unfold routesAt
  cases hnode : story.node? id with
  | none => simp [hnode] at h
  | some node =>
      rw [hnode] at h
      cases node <;> simp [Node.autoSuccessors] at h <;> rfl

/-- The listed ids are those of routers. -/
theorem mem_routerIds : id ∈ story.routerIds ↔ story.routesAt id = true := by
  unfold routerIds routesAt node?
  constructor
  · intro h
    obtain ⟨entry, hentry, rfl⟩ := List.mem_map.mp h
    obtain ⟨hmem, hrouting⟩ := List.mem_filter.mp hentry
    rw [Table.mem_toList_iff.mp (show (entry.1, entry.2) ∈ story.nodes.toList from hmem)]
    exact hrouting
  · intro h
    cases hnode : story.nodes.get? id with
    | none => simp [hnode] at h
    | some node =>
        rw [hnode] at h
        exact List.mem_map.mpr
          ⟨(id, node), List.mem_filter.mpr ⟨Table.mem_toList_iff.mpr hnode, h⟩, rfl⟩

/-- Different routers one after the other, as on the path of a search. -/
structure Trail (story : Story) (path : List String) : Prop where
  nodup : path.Nodup
  routes : ∀ id ∈ path, story.routesAt id = true

theorem Trail.nil : story.Trail [] where
  nodup := List.nodup_nil
  routes := by simp

theorem Trail.snoc (h : story.Trail path) (hid : id ∉ path) (hroutes : story.routesAt id = true) :
    story.Trail (path ++ [id]) where
  nodup := by
    rw [List.nodup_append]
    refine ⟨h.nodup, by simp, ?_⟩
    rintro x hx y hy rfl
    exact hid (List.mem_singleton.mp hy ▸ hx)
  routes := by
    intro x hx
    rcases List.mem_append.mp hx with hx | hx
    · exact h.routes x hx
    · rw [List.mem_singleton.mp hx]
      exact hroutes

/-- A trail has no more routers than the story. -/
theorem Trail.length_le (h : story.Trail path) : path.length ≤ story.routerIds.length :=
  (List.subperm_of_subset h.nodup fun id hid => mem_routerIds.mpr (h.routes id hid)).length_le

/-! ## Leading to a router -/

/-- Routers outside a list of ids lead from an id to a target. -/
inductive Leads (story : Story) (avoid : List String) : String → String → Prop
  | refl {id : String} (hid : id ∉ avoid) (hroutes : story.routesAt id = true) :
      Leads story avoid id id
  | step {id next target : String} (hid : id ∉ avoid) (hnext : next ∈ story.autoSuccessors id)
      (h : Leads story avoid next target) : Leads story avoid id target

namespace Leads

theorem not_mem_left (h : story.Leads avoid id target) : id ∉ avoid := by
  cases h with
  | refl hid _ => exact hid
  | step hid _ _ => exact hid

theorem routesAt_left (h : story.Leads avoid id target) : story.routesAt id = true := by
  cases h with
  | refl _ hroutes => exact hroutes
  | step _ hnext _ => exact routesAt_of_mem_autoSuccessors hnext

theorem not_mem_right (h : story.Leads avoid id target) : target ∉ avoid := by
  induction h with
  | refl hid _ => exact hid
  | step _ _ _ ih => exact ih

theorem trans (h : story.Leads avoid id next) (h' : story.Leads avoid next target) :
    story.Leads avoid id target := by
  induction h with
  | refl _ _ => exact h'
  | step hid hnext _ ih => exact step hid hnext (ih h')

theorem snoc (h : story.Leads avoid id target) (hnext : next ∈ story.autoSuccessors target)
    (hroutes : story.routesAt next = true) (havoid : next ∉ avoid) :
    story.Leads avoid id next :=
  h.trans (step h.not_mem_right hnext (refl havoid hroutes))

/-- A way that avoids more ids avoids fewer. -/
theorem weaken {more : List String} (h : story.Leads (avoid ++ more) id target) :
    story.Leads avoid id target := by
  induction h with
  | refl hid hroutes => exact refl (fun hmem => hid (List.mem_append_left _ hmem)) hroutes
  | step hid hnext _ ih => exact step (fun hmem => hid (List.mem_append_left _ hmem)) hnext ih

/-- A way from an id that does not lead to a router does not pass it. -/
theorem strengthen (h : story.Leads avoid id target) (hother : ¬ story.Leads avoid id other) :
    story.Leads (avoid ++ [other]) id target := by
  induction h with
  | @refl id hid hroutes =>
      have hne : id ≠ other := fun heq => hother (heq ▸ refl hid hroutes)
      exact refl (by simp [hid, hne]) hroutes
  | @step id next target hid hnext h ih =>
      have hne : id ≠ other := fun heq =>
        hother (heq ▸ refl hid (routesAt_of_mem_autoSuccessors hnext))
      exact step (by simp [hid, hne]) hnext (ih fun hlead => hother (step hid hnext hlead))

/-- Where a way goes on at least once, there is a last step into its target. -/
theorem exists_last (hid : id ∉ avoid) (hnext : next ∈ story.autoSuccessors id)
    (h : story.Leads avoid next target) :
    ∃ last, story.Leads avoid id last ∧ target ∈ story.autoSuccessors last := by
  induction h generalizing id with
  | refl _ _ => exact ⟨id, refl hid (routesAt_of_mem_autoSuccessors hnext), hnext⟩
  | step hid' hnext' _ ih =>
      obtain ⟨last, hlast, htarget⟩ := ih hid' hnext'
      exact ⟨last, step hid hnext hlast, htarget⟩

/-- Cut a way at its last visit to a router: either it never passes the router, or it goes on from
there without coming back. -/
theorem avoid_or_leave (h : story.Leads avoid id target) (hne : other ≠ target) :
    story.Leads (avoid ++ [other]) id target ∨
      ∃ next ∈ story.autoSuccessors other, story.Leads (avoid ++ [other]) next target := by
  induction h with
  | refl hid hroutes => exact Or.inl (refl (by simp [hid, Ne.symm hne]) hroutes)
  | @step id next target hid hnext _ ih =>
      rcases ih hne with hlead | hleave
      · by_cases heq : id = other
        · exact Or.inr ⟨next, heq ▸ hnext, hlead⟩
        · exact Or.inl (step (by simp [hid, heq]) hnext hlead)
      · exact Or.inr hleave

end Leads

/-- A way from a router is empty or goes on without coming back to it. -/
theorem leads_iff (hid : id ∉ avoid) (hroutes : story.routesAt id = true) :
    story.Leads avoid id target ↔
      target = id ∨
        ∃ next ∈ story.autoSuccessors id, story.Leads (avoid ++ [id]) next target := by
  constructor
  · intro h
    by_cases heq : target = id
    · exact Or.inl heq
    · rcases h.avoid_or_leave (Ne.symm heq) with hlead | hleave
      · exact absurd hlead.not_mem_left (by simp)
      · exact Or.inr hleave
  · rintro (rfl | ⟨next, hnext, hlead⟩)
    · exact Leads.refl hid hroutes
    · exact Leads.step hid hnext hlead.weaken

/-! ## First paths -/

/-- The first path from a list of starts to a target.  A start that does not lead to the target is
skipped.  Any other start is entered, and the path goes on along its ways on in authored order,
without coming back to it. -/
inductive FirstPath (story : Story) (target : String) :
    List String → List String → List String → Prop
  | arrive {avoid starts : List String} (havoid : target ∉ avoid)
      (hroutes : story.routesAt target = true) :
      FirstPath story target avoid (target :: starts) [target]
  | enter {avoid starts path : List String} {id : String} (havoid : id ∉ avoid)
      (hroutes : story.routesAt id = true) (hne : id ≠ target)
      (h : FirstPath story target (avoid ++ [id]) (story.autoSuccessors id) path) :
      FirstPath story target avoid (id :: starts) (id :: path)
  | skip {avoid starts path : List String} {id : String}
      (hskip : ¬ story.Leads avoid id target) (h : FirstPath story target avoid starts path) :
      FirstPath story target avoid (id :: starts) path

namespace FirstPath

/-- A first path leads from one of the starts to its target. -/
theorem exists_leads (h : story.FirstPath target avoid starts path) :
    ∃ start ∈ starts, story.Leads avoid start target := by
  induction h with
  | arrive havoid hroutes => exact ⟨target, List.mem_cons_self, Leads.refl havoid hroutes⟩
  | enter havoid _ _ _ ih =>
      obtain ⟨next, hnext, hlead⟩ := ih
      exact ⟨_, List.mem_cons_self, Leads.step havoid hnext hlead.weaken⟩
  | skip _ _ ih =>
      obtain ⟨start, hstart, hlead⟩ := ih
      exact ⟨start, List.mem_cons_of_mem _ hstart, hlead⟩

/-- Its routers continue a trail. -/
theorem trail (h : story.FirstPath target avoid starts path) (havoid : story.Trail avoid) :
    story.Trail (avoid ++ path) := by
  induction h with
  | arrive hmem hroutes => exact havoid.snoc hmem hroutes
  | enter hmem hroutes _ _ ih => simpa using ih (havoid.snoc hmem hroutes)
  | skip _ _ ih => exact ih havoid

/-- A first path ends in its target. -/
theorem getLast?_eq (h : story.FirstPath target avoid starts path) :
    path.getLast? = some target := by
  induction h with
  | arrive _ _ => rfl
  | enter _ _ _ _ ih => rw [List.getLast?_cons, ih]; rfl
  | skip _ _ ih => exact ih

/-- The first path from one start. -/
theorem singleton_iff :
    story.FirstPath target avoid [id] path ↔
      id ∉ avoid ∧ story.routesAt id = true ∧
        ((target = id ∧ path = [id]) ∨
          (target ≠ id ∧ ∃ onward, path = id :: onward ∧
            story.FirstPath target (avoid ++ [id]) (story.autoSuccessors id) onward)) := by
  constructor
  · intro h
    cases h with
    | arrive havoid hroutes => exact ⟨havoid, hroutes, Or.inl ⟨rfl, rfl⟩⟩
    | enter havoid hroutes hne h =>
        exact ⟨havoid, hroutes, Or.inr ⟨Ne.symm hne, _, rfl, h⟩⟩
    | skip _ h => cases h
  · rintro ⟨havoid, hroutes, ⟨rfl, rfl⟩ | ⟨hne, onward, rfl, h⟩⟩
    · exact arrive havoid hroutes
    · exact enter havoid hroutes (Ne.symm hne) h

/-- The first path goes through the first start unless that one does not lead to the target. -/
theorem cons_iff :
    story.FirstPath target avoid (id :: starts) path ↔
      story.FirstPath target avoid [id] path ∨
        (¬ story.Leads avoid id target ∧ story.FirstPath target avoid starts path) := by
  constructor
  · intro h
    cases h with
    | arrive havoid hroutes => exact Or.inl (arrive havoid hroutes)
    | enter havoid hroutes hne h => exact Or.inl (enter havoid hroutes hne h)
    | skip hskip h => exact Or.inr ⟨hskip, h⟩
  · rintro (h | ⟨hskip, h⟩)
    · obtain ⟨havoid, hroutes, ⟨rfl, rfl⟩ | ⟨hne, onward, rfl, honward⟩⟩ := singleton_iff.mp h
      · exact arrive havoid hroutes
      · exact enter havoid hroutes (Ne.symm hne) honward
    · exact skip hskip h

/-- A first path from a start that leads to the target begins with that start. -/
theorem mem_of_leads (h : story.FirstPath target avoid (id :: starts) path)
    (hlead : story.Leads avoid id target) : id ∈ path := by
  cases h with
  | arrive _ _ => exact List.mem_cons_self
  | enter _ _ _ _ => exact List.mem_cons_self
  | skip hskip _ => exact absurd hlead hskip

end FirstPath

/-- What can be got to has a first path.  The recursion ends because a trail cannot grow beyond the
routers of the story. -/
theorem exists_firstPath {room : Nat} (htrail : story.Trail avoid)
    (hroom : story.routerIds.length < room + avoid.length)
    (h : ∃ start ∈ starts, story.Leads avoid start target) :
    ∃ path, story.FirstPath target avoid starts path := by
  induction room generalizing avoid starts with
  | zero =>
      have := htrail.length_le
      omega
  | succ room ih =>
      induction starts with
      | nil => simp at h
      | cons id starts ihstarts =>
          by_cases hlead : story.Leads avoid id target
          · have havoid := hlead.not_mem_left
            have hroutes := hlead.routesAt_left
            rcases (leads_iff havoid hroutes).mp hlead with rfl | hnext
            · exact ⟨_, FirstPath.arrive havoid hroutes⟩
            · obtain ⟨path, hpath⟩ := ih (htrail.snoc havoid hroutes)
                (by simp only [List.length_append, List.length_singleton]; omega) hnext
              have hne : id ≠ target := by
                rintro rfl
                obtain ⟨_, _, hlead⟩ := hnext
                exact hlead.not_mem_right (by simp)
              exact ⟨_, FirstPath.enter havoid hroutes hne hpath⟩
          · have hrest : ∃ start ∈ starts, story.Leads avoid start target := by
              obtain ⟨start, hstart, hstartLead⟩ := h
              rcases List.mem_cons.mp hstart with rfl | hstart
              · exact absurd hstartLead hlead
              · exact ⟨start, hstart, hstartLead⟩
            obtain ⟨path, hpath⟩ := ihstarts hrest
            exact ⟨path, FirstPath.skip hlead hpath⟩

/-- If a router that can be got to leads back to itself, then some first path ends in a router with
a way on back into the path. -/
theorem exists_firstPath_closing {room : Nat} (htrail : story.Trail avoid)
    (hroom : story.routerIds.length < room + avoid.length)
    (hstart : ∃ start ∈ starts, story.Leads avoid start id) (hid : id ∉ avoid)
    (hnext : next ∈ story.autoSuccessors id) (hback : story.Leads avoid next id) :
    ∃ target path, story.FirstPath target avoid starts path ∧ story.Leads avoid target id ∧
      ∃ back ∈ story.autoSuccessors target, back ∈ path := by
  induction room generalizing avoid starts with
  | zero =>
      have := htrail.length_le
      omega
  | succ room ih =>
      induction starts with
      | nil => simp at hstart
      | cons first starts ihstarts =>
          by_cases hfirst : story.Leads avoid first id
          · have havoid := hfirst.not_mem_left
            have hroutes := hfirst.routesAt_left
            by_cases hreturn : story.Leads avoid next first
            · -- `first` lies on the cycle: the last router before it has a way on back to it.
              obtain ⟨last, hlast, hback'⟩ := Leads.exists_last hid hnext hreturn
              have hfirstLast := hfirst.trans hlast
              obtain ⟨path, hpath⟩ := exists_firstPath htrail hroom
                ⟨first, List.mem_cons_self, hfirstLast⟩
              exact ⟨last, path, hpath, Leads.step hfirstLast.not_mem_right hback' hfirst, first,
                hback', hpath.mem_of_leads hfirstLast⟩
            · -- The cycle avoids `first`, so it is found beyond `first`.
              have hcycle := hback.strengthen hreturn
              have hbeyond := (leads_iff havoid hroutes).mp hfirst
              have hne : id ≠ first := fun heq => hcycle.not_mem_right (by simp [heq])
              obtain ⟨target, path, hpath, htarget, back, hsucc, hmem⟩ :=
                ih (htrail.snoc havoid hroutes)
                  (by simp only [List.length_append, List.length_singleton]; omega)
                  (hbeyond.resolve_left hne) hcycle.not_mem_right hcycle
              have hneTarget : first ≠ target := fun heq =>
                htarget.not_mem_left (by simp [heq])
              exact ⟨target, first :: path, FirstPath.enter havoid hroutes hneTarget hpath,
                htarget.weaken, back, hsucc, List.mem_cons_of_mem _ hmem⟩
          · have hrest : ∃ start ∈ starts, story.Leads avoid start id := by
              obtain ⟨start, hmem, hlead⟩ := hstart
              rcases List.mem_cons.mp hmem with rfl | hmem
              · exact absurd hlead hfirst
              · exact ⟨start, hmem, hlead⟩
            obtain ⟨target, path, hpath, htarget, hclose⟩ := ihstarts hrest
            exact ⟨target, path, FirstPath.skip (fun hlead => hfirst (hlead.trans htarget)) hpath,
              htarget, hclose⟩

end Story
end BranchingStory
