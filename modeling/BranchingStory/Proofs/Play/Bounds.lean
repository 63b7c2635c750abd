import BranchingStory.Proofs.Play.Chances
import BranchingStory.Proofs.Play.Turns

/-!
# Stats and their bounds

Stats are written by adjustments only, and an adjustment moves what it writes into the bounds.  So
stats that are within their bounds stay there, whatever the amounts and the draws are.  That the
ends of the bounds are in order needs no assumption, as a value lies between them.

Main results:

- `PerStat.Within.applyTo`: an adjustment keeps stats within bounds.
- `Story.within_of_arrive`: so does moving on.
- `Story.within_of_act`: so does every action.
-/

namespace BranchingStory

/-- Every stat is within its bounds. -/
def PerStat.Within (stats : Stats) (bounds : PerStat Bounds) : Prop :=
  ∀ stat, (bounds.get stat).contains (stats.get stat) = true

variable {bounds : PerStat Bounds} {stats : Stats}

/-! ## Effects -/

/-- Bounds that contain a value have their ends in order. -/
theorem Bounds.min_le_max_of_contains {b : Bounds} {value : Amount} (h : b.contains value = true) :
    b.min ≤ b.max := by
  rw [Bounds.contains_iff] at h
  rw [Int32.le_iff_toInt_le]
  exact Int.le_trans h.1 h.2

/-- An adjustment does not leave the bounds. -/
theorem PerStat.Within.applyTo (h : stats.Within bounds) (adjustment : Adjustment) :
    (adjustment.applyTo bounds stats).Within bounds := by
  intro stat
  rw [Adjustment.get_applyTo]
  cases adjustment.amount? stat with
  | none => exact h stat
  | some amount => exact Bounds.contains_clamp (Bounds.min_le_max_of_contains (h stat)) _

/-- A choice for a persona adjusts stats once or twice. -/
theorem PerStat.Within.adjustStats {s : Playthrough} (h : s.stats.Within bounds)
    (choice : Choice) : (choice.adjustStats bounds s).Within bounds := by
  have hchoice := h.applyTo choice.adjustment
  unfold Choice.adjustStats
  cases (choice.effectsFor? s.persona).bind PersonaEffects.adjustment with
  | none => exact hchoice
  | some adjustment => exact hchoice.applyTo adjustment

/-- A chance table changes nothing, or has one of its effects. -/
theorem Chance.stats_apply (bounds : PerStat Bounds) (s : Playthrough) (table : List ChanceEntry)
    (source : Source) :
    (Chance.apply bounds s table source).value.stats = s.stats ∨
      ∃ effect : Adjustment, (Chance.apply bounds s table source).value.stats =
        effect.applyTo bounds s.stats := by
  have hgives := Chance.gives_apply bounds s table source
  generalize (Chance.apply bounds s table source).value = outcome at hgives ⊢
  cases hgives with
  | nothing _ => exact Or.inl rfl
  | @effect entry _ _ _ _ _ _ => exact Or.inr ⟨entry.effect, rfl⟩

/-- Taking a choice keeps stats within bounds, whatever is drawn. -/
theorem PerStat.Within.take {s : Playthrough} (h : s.stats.Within bounds) (choice : Choice)
    (source : Source) : (choice.take bounds s source).value.1.stats.Within bounds := by
  have hadjusted := h.adjustStats choice
  simp only [Choice.take, Traced.value_bind, Traced.value_pure]
  rcases Chance.stats_apply bounds
    { s with
      history := s.history ++ [⟨s.node, some choice.id⟩]
      stats := choice.adjustStats bounds s } (choice.chancesFor s.persona) source
    with hsame | ⟨effect, heffect⟩
  · rw [hsame]
    exact hadjusted
  · rw [heffect]
    exact hadjusted.applyTo effect

namespace Story

variable {story : Story} {limit : Nat} {s s' : Playthrough} {stop : Stop} {choice : Option Choice}
  {source : Source}

/-! ## Steps -/

/-- Moving on does not leave the bounds. -/
theorem Moves.within (h : story.Moves s s') (hs : s.stats.Within story.bounds) :
    s'.stats.Within story.bounds := by
  cases h with
  | branch _ _ => exact hs.applyTo _
  | default _ _ => exact hs
  | passed _ _ => exact hs
  | unmatched _ _ _ => exact hs

/-- Coming to rest does not leave the bounds. -/
theorem Rests.within (h : story.Rests s stop s') (hs : s.stats.Within story.bounds) :
    s'.stats.Within story.bounds := by
  cases h with
  | missing _ => exact hs
  | interactive _ _ => exact hs
  | outcome _ =>
      obtain ⟨_, _, _, hscore⟩ := story.exists_value_score_eq s
      rw [hscore]
      exact hs
  | stalled _ _ => exact hs
  | fired _ _ _ => exact hs

/-- Moving on keeps stats within bounds, however many routers are passed. -/
theorem within_of_arrive (h : (story.arrive limit s).value = .ok s')
    (hs : s.stats.Within story.bounds) : s'.stats.Within story.bounds := by
  obtain ⟨stop, m, hm, hrests⟩ := exists_rests_of_arrive_of_invariant
    (P := fun t => t.stats.Within story.bounds) Moves.within h hs
  exact hrests.within hm

/-! ## Actions -/

/-- Every action keeps stats within bounds. -/
theorem within_of_act (h : (story.act limit s choice source).value.result = .ok s')
    (hs : s.stats.Within story.bounds) : s'.stats.Within story.bounds := by
  have hacts := story.acts_act limit s choice source
  generalize (story.act limit s choice source).value.result = result at h hacts
  cases hacts with
  | idle _ =>
      cases h
      exact hs
  | nextStop _ _ _ =>
      cases h
      exact hs
  | resumed _ _ _ => exact within_of_arrive h hs
  | continued _ _ _ => exact within_of_arrive h hs
  | leftFeedback _ _ _ _ => exact within_of_arrive h hs
  | chose _ _ _ _ => exact within_of_arrive h (hs.take _ source)

end Story
end BranchingStory
