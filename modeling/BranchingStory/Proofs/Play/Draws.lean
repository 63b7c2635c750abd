import BranchingStory.Proofs.Play.Effects
import BranchingStory.Proofs.Play.Sight

/-!
# What an action draws

An action takes one word of its source if it is a choice that is taken at a decision, and an entry
of the chance table in force is eligible once the stats have been adjusted.  Any other action takes
none, and moving on from node to node takes none either.  So whether a word is taken is known before
the story moves on, and does not depend on whether it comes to rest.

Main results:

- `Chance.Gives.source_eq`: a table takes a word exactly if one of its entries is eligible.
- `Story.source_act_of_draws`, `Story.source_act_of_not_draws`: the source after an action.
- `Story.draws_once_iff`: an action takes at most one word, and one exactly if it draws.
-/

namespace BranchingStory

variable {s t : Playthrough} {choice : Choice} {bounds : PerStat Bounds} {source : Source}

/-! ## Chance tables -/

namespace Chance

variable {table : List ChanceEntry} {outcome : Outcome}

/-- A table takes a word exactly if one of its entries is eligible. -/
theorem Gives.source_eq (h : Gives bounds s table source outcome) :
    outcome.source = if ∃ entry ∈ table, entry.IsEligible s then source.next else source := by
  cases h with
  | nothing hnone =>
      have hnot : ¬ ∃ entry ∈ table, entry.IsEligible s := by
        rintro ⟨entry, hentry, heligible⟩
        exact hnone entry hentry heligible
      rw [if_neg hnot]
  | effect hentry heligible _ _ =>
      have hexists : ∃ entry ∈ table, entry.IsEligible s :=
        ⟨_, List.mem_of_getElem? hentry, heligible⟩
      rw [if_pos hexists]

end Chance

/-! ## Choices -/

namespace Choice

variable {stats : Stats} {table : List ChanceEntry} {persona : String}

/-- The adjusted stats are those of one of the two cases. -/
theorem Adjusts.eq_adjustStats (h : choice.Adjusts bounds s stats) :
    stats = choice.adjustStats bounds s := by
  unfold adjustStats effectsFor?
  cases h with
  | plain hplain => rw [Option.bind_eq_none_iff.mpr hplain]
  | forPersona heffects hadjustment => rw [heffects, Option.bind_some, hadjustment]

/-- The table in force is that of one of the two cases. -/
theorem HasTable.eq_chancesFor (h : choice.HasTable persona table) :
    table = choice.chancesFor persona := by
  unfold chancesFor effectsFor?
  cases h with
  | plain hplain =>
      rw [Option.bind_eq_none_iff.mpr hplain]
      rfl
  | forPersona heffects hchances =>
      rw [heffects, Option.bind_some, hchances]
      rfl

/-- Taking a choice takes a word exactly if an entry of the table in force is eligible after the
adjustments. -/
theorem source_take (choice : Choice) (bounds : PerStat Bounds) (s : Playthrough)
    (source : Source) :
    (choice.take bounds s source).value.2 =
      if ∃ entry ∈ choice.chancesFor s.persona,
          entry.IsEligible { s with stats := choice.adjustStats bounds s } then source.next
      else source := by
  -- The table is asked after the visit has been recorded, which no condition can see.
  have hlooks : Playthrough.LooksLike
      { s with
        history := s.history ++ [⟨s.node, some choice.id⟩]
        stats := choice.adjustStats bounds s }
      { s with stats := choice.adjustStats bounds s } := ⟨rfl, rfl, rfl⟩
  have hdrawn := hlooks.apply_eq bounds (choice.chancesFor s.persona) source
  calc (choice.take bounds s source).value.2
      = (Chance.apply bounds { s with stats := choice.adjustStats bounds s }
          (choice.chancesFor s.persona) source).value.source :=
        congrArg (fun drawn => drawn.value.source) hdrawn
    _ = _ := (Chance.gives_apply _ _ _ _).source_eq

end Choice

/-! ## Actions -/

namespace Story

variable {story : Story} {limit : Nat} {action : Option Choice}

/-- The action takes a word: it is a choice that is taken at a decision, no stop is pending, and an
entry of the table in force is eligible after the adjustments. -/
inductive Draws (story : Story) (s : Playthrough) (action : Option Choice) : Prop
  | chance {text : NodeText} {choices : List Choice} {choice : Choice} {adjusted : Stats}
      {table : List ChanceEntry} {entry : ChanceEntry}
      (hnode : story.node? s.node = some (.decision text choices)) (hqueue : s.queue = [])
      (haction : action = some choice) (hfree : ¬ choice.IsBarred s)
      (hadjusted : choice.Adjusts story.bounds s adjusted)
      (htable : choice.HasTable s.persona table) (hentry : entry ∈ table)
      (heligible : entry.IsEligible { s with stats := adjusted }) : Draws story s action

/-- After a choice that is taken, the source is as the choice leaves it: moving on takes nothing. -/
theorem source_decide (story : Story) (limit : Nat) (s : Playthrough) (choice : Choice)
    (source : Source) :
    (story.decide limit s choice source).value.source =
      if choice.isOpenTo s then (choice.take story.bounds s source).value.2 else source := by
  unfold Story.decide
  cases choice.isOpenTo s <;> rfl

/-- An action that draws takes the next word. -/
theorem source_act_of_draws (h : story.Draws s action) :
    (story.act limit s action source).value.source = source.next := by
  cases h with
  | @chance _ _ choice _ _ _ hnode hqueue haction hfree hadjusted htable hentry heligible =>
      have hact : (story.act limit s action source).value =
          (story.decide limit s choice source).value := by
        simp [act, hnode, hqueue, haction]
      rw [← Choice.isOpenTo_iff_not_isBarred] at hfree
      rw [hadjusted.eq_adjustStats] at heligible
      rw [htable.eq_chancesFor] at hentry
      rw [hact, source_decide, if_pos hfree, Choice.source_take, if_pos ⟨_, hentry, heligible⟩]

/-- An action that does not draw leaves the source as it is. -/
theorem source_act_of_not_draws (h : ¬ story.Draws s action) :
    (story.act limit s action source).value.source = source := by
  unfold act
  cases hnode : story.node? s.node with
  | none => rfl
  | some node =>
      cases hqueue : s.queue with
      | cons stop rest => rfl
      | nil =>
          cases node with
          | narrative text next nextByLocation => rfl
          | router branches fallback => rfl
          | fanout branches resume => rfl
          | outcome text => rfl
          | decision text choices =>
              cases action with
              | none => rfl
              | some choice =>
                  refine (source_decide story limit s choice source).trans ?_
                  by_cases hopen : choice.isOpenTo s = true
                  · have hfree := Choice.isOpenTo_iff_not_isBarred.mp hopen
                    rw [if_pos hopen, Choice.source_take, if_neg]
                    rintro ⟨entry, hentry, heligible⟩
                    exact h (.chance hnode hqueue rfl hfree (choice.adjusts_adjustStats _ s)
                      (choice.hasTable_chancesFor s.persona) hentry heligible)
                  · rw [if_neg hopen]

/-- An action takes no word or one. -/
theorem source_act_eq (story : Story) (limit : Nat) (s : Playthrough) (action : Option Choice)
    (source : Source) :
    (story.act limit s action source).value.source = source ∨
      (story.act limit s action source).value.source = source.next := by
  by_cases h : story.Draws s action
  · exact Or.inr (source_act_of_draws h)
  · exact Or.inl (source_act_of_not_draws h)

/-- One word more is used exactly if the action draws. -/
theorem used_act_eq_succ_iff :
    (story.act limit s action source).value.source.used = source.used + 1 ↔
      story.Draws s action := by
  constructor
  · intro hused
    apply Classical.byContradiction
    intro h
    rw [source_act_of_not_draws h] at hused
    omega
  · intro h
    rw [source_act_of_draws h, Source.used_next]

/-- How far the story may move on makes no difference. -/
theorem source_act_congr (story : Story) (limit other : Nat) (s : Playthrough)
    (action : Option Choice) (source : Source) :
    (story.act other s action source).value.source =
      (story.act limit s action source).value.source := by
  by_cases h : story.Draws s action
  · rw [source_act_of_draws h, source_act_of_draws h]
  · rw [source_act_of_not_draws h, source_act_of_not_draws h]

/-! ## Actions that take nothing -/

/-- No action draws while a stop is pending. -/
theorem not_draws_of_queue (h : s.queue ≠ []) : ¬ story.Draws s action := by
  rintro ⟨_, hqueue, _, _, _, _, _, _⟩
  exact h hqueue

/-- No action draws at a narrative. -/
theorem not_draws_of_narrative {text : NodeText} {next : Option String}
    {nextByLocation : Option (Table String)}
    (h : story.node? s.node = some (.narrative text next nextByLocation)) :
    ¬ story.Draws s action := by
  rintro ⟨hnode, _, _, _, _, _, _, _⟩
  rw [h] at hnode
  cases hnode

/-- A choice that is barred does not draw. -/
theorem not_draws_of_isBarred (h : choice.IsBarred s) : ¬ story.Draws s (some choice) := by
  rintro ⟨_, _, haction, hfree, _, _, _, _⟩
  cases haction
  exact hfree h

/-! ## The number of words -/

/-- An action takes at most one word, and one exactly if it draws, however far the limit lets the
story move on and whether it comes to rest or not.  Going to a pending stop, continuing a narrative
and a choice that is barred take none. -/
theorem draws_once_iff (story : Story) (limit : Nat) (s : Playthrough) (action : Option Choice)
    (source : Source) :
    let after := (story.act limit s action source).value.source
    (after = source ∨ after = source.next) ∧
    (after.used = source.used + 1 ↔ story.Draws s action) ∧
    (∀ other, (story.act other s action source).value.source = after) ∧
    (s.queue ≠ [] → after = source) ∧
    (∀ text next nextByLocation,
      story.node? s.node = some (.narrative text next nextByLocation) → after = source) ∧
    ∀ choice, action = some choice → choice.IsBarred s → after = source := by
  refine ⟨source_act_eq story limit s action source, used_act_eq_succ_iff, ?_, ?_, ?_, ?_⟩
  · intro other
    exact source_act_congr story limit other s action source
  · intro hqueue
    exact source_act_of_not_draws (not_draws_of_queue hqueue)
  · intro text next nextByLocation hnode
    exact source_act_of_not_draws (not_draws_of_narrative hnode)
  · rintro choice rfl hbarred
    exact source_act_of_not_draws (not_draws_of_isBarred hbarred)

/-- The shore of `shoreStory`, but the far side leads nowhere. -/
def whirlStory : Story :=
  .plain
    [("FAR", .router [] (some "FAR")),
      ("SHORE", .decision ⟨none, ∅, ∅⟩ [rowing])] []

/-- Rowing takes a word, as the student's table has an entry that is eligible after both
adjustments, and the word is spent although the story does not come to rest.  Without a boat none is
taken. -/
theorem draws_once_on_shore :
    let turn := (whirlStory.act 1 (onShore ["boat"]) (some rowing) (.scripted [])).value
    turn.result = .error ⟨"FAR", "FAR", 1⟩ ∧ turn.source.used = 1 ∧
      whirlStory.Draws (onShore ["boat"]) (some rowing) ∧
      (whirlStory.act 1 (onShore []) (some rowing) (.scripted [])).value.source = .scripted [] := by
  intro turn
  have hresult : turn.result = .error ⟨"FAR", "FAR", 1⟩ := by rfl
  have hused : turn.source.used = 1 := by decide +kernel
  have hboat := draws_once_iff whirlStory 1 (onShore ["boat"]) (some rowing) (.scripted [])
  have hshore := draws_once_iff whirlStory 1 (onShore []) (some rowing) (.scripted [])
  refine ⟨hresult, hused, hboat.2.1.mp hused, ?_⟩
  exact hshore.2.2.2.2.2 rowing rfl (.flag rfl (Names.not_mem_empty "boat"))

end Story
end BranchingStory
