import BranchingStory.Proofs.Lint.Playable

/-!
# The conditions that a lint checks

A story asks conditions in six places: at routers and at fan-out routers, for the entries of the
chance tables of choices and of their special tables for personas, for outcomes, and in the rubric.
A lint walks through all of them.

Main results:

- `Story.Asks.checkCondition_subset_lint`: every condition that the story asks is checked.
- `Story.Asks.exists_parse`: after a report without errors every one of them parses.
-/

namespace BranchingStory

/-- Somewhere in the story a condition stands that play asks. -/
inductive Story.Asks (story : Story) : String → Prop
  | router {id condition : String} {branches : List Branch} {fallback : Option String}
      {branch : Branch} (hnode : story.node? id = some (.router branches fallback))
      (hbranch : branch ∈ branches) (hcondition : branch.condition = some condition) :
      Asks story condition
  | fanout {id resume condition : String} {branches : List Branch} {branch : Branch}
      (hnode : story.node? id = some (.fanout branches resume)) (hbranch : branch ∈ branches)
      (hcondition : branch.condition = some condition) : Asks story condition
  | chance {id condition : String} {text : NodeText} {choices : List Choice} {choice : Choice}
      {entry : ChanceEntry} (hnode : story.node? id = some (.decision text choices))
      (hchoice : choice ∈ choices) (hentry : entry ∈ choice.chances)
      (hcondition : entry.condition = some condition) : Asks story condition
  | personaChance {id persona condition : String} {text : NodeText} {choices : List Choice}
      {choice : Choice} {effects : PersonaEffects} {table : List ChanceEntry} {entry : ChanceEntry}
      (hnode : story.node? id = some (.decision text choices)) (hchoice : choice ∈ choices)
      (heffects : choice.effectsFor? persona = some effects) (htable : effects.chances = some table)
      (hentry : entry ∈ table) (hcondition : entry.condition = some condition) :
      Asks story condition
  | outcome {rule : OutcomeRule} (hrule : rule ∈ story.outcomes) : Asks story rule.condition
  | rubric {rule : RubricRule} {condition : String} (hrule : rule ∈ story.rubric.rules)
      (hmatcher : rule.matcher = .condition condition) : Asks story condition

variable {story : Story} {start id condition : String} {place : Place}

/-! ## Checks of parts -/

/-- The condition of a branch is checked with the branch. -/
theorem checkCondition_subset_checkBranchCondition {branch : Branch}
    (h : branch.condition = some condition) :
    checkCondition place condition ⊆ checkBranchCondition place branch := by
  rw [checkBranchCondition, h]
  exact List.Subset.refl _

/-- The condition of an entry is checked with its chance table. -/
theorem checkCondition_subset_checkChances {table : List ChanceEntry} {entry : ChanceEntry}
    (hentry : entry ∈ table) (h : entry.condition = some condition) :
    checkCondition place condition ⊆ checkChances place table := by
  intro finding hfinding
  refine List.mem_flatMap.mpr ⟨entry, hentry, List.mem_append_left _ ?_⟩
  simpa [h] using hfinding

/-- The chance table of a choice is checked. -/
theorem checkChances_subset_checkChoice (id : String) (choice : Choice) :
    checkChances (.choice choice.id id) choice.chances ⊆ checkChoice id choice := by
  intro finding hfinding
  unfold checkChoice
  exact List.mem_append_left _ (List.mem_append_right _ hfinding)

/-- The tables that take its place for some personas are checked too. -/
theorem checkChances_subset_checkChoice_of_effects {choice : Choice} {persona : String}
    {effects : PersonaEffects} {table : List ChanceEntry} (id : String)
    (heffects : choice.effectsFor? persona = some effects)
    (htable : effects.chances = some table) :
    checkChances (.choice choice.id id) table ⊆ checkChoice id choice := by
  intro finding hfinding
  have hlisted : (persona, effects) ∈ choice.personaEffects.toList :=
    Table.mem_toList_iff.mpr heffects
  unfold checkChoice
  refine List.mem_append_right _ (List.mem_flatMap.mpr ⟨_, hlisted, ?_⟩)
  simpa [htable] using hfinding

namespace Story

/-- What is checked at a node is found in the story. -/
theorem checkEffects_subset_lint {node : Node} (hnode : story.node? id = some node)
    (start : String) : checkEffects id node ⊆ story.lint start := by
  intro finding hfinding
  apply mem_lint_of_mem_checkNode hnode
  exact List.mem_append_left _ (List.mem_append_right _ hfinding)

/-- The condition of an outcome rule is checked with the outcomes. -/
theorem checkCondition_subset_checkOutcomes {rule : OutcomeRule} (hrule : rule ∈ story.outcomes) :
    ∃ place, checkCondition place rule.condition ⊆ story.checkOutcomes := by
  obtain ⟨i, hi, hget⟩ := List.mem_iff_getElem.mp hrule
  have hindexed : (rule, i) ∈ story.outcomes.zipIdx :=
    List.mem_zipIdx_iff_getElem?.mpr (hget ▸ List.getElem?_eq_getElem hi)
  refine ⟨.outcomeRule i rule.result, ?_⟩
  intro finding hfinding
  exact List.mem_append_left _ (List.mem_flatMap.mpr ⟨_, hindexed, hfinding⟩)

/-- The condition of a rubric rule is checked with the rule. -/
theorem checkCondition_subset_checkRubricRule {rule : RubricRule}
    (h : rule.matcher = .condition condition) :
    checkCondition (.rubricRule rule.id) condition ⊆ checkRubricRule rule := by
  rw [checkRubricRule, h]
  exact List.Subset.refl _

/-- The outcomes are checked. -/
theorem checkOutcomes_subset_lint (story : Story) (start : String) :
    story.checkOutcomes ⊆ story.lint start := by
  intro finding hfinding
  unfold lint
  simp [hfinding]

/-- Every rule of the rubric is checked. -/
theorem checkRubricRule_subset_lint {rule : RubricRule} (hrule : rule ∈ story.rubric.rules)
    (start : String) : checkRubricRule rule ⊆ story.lint start := by
  intro finding hfinding
  have hfound : ∃ rule ∈ story.rubric.rules, finding ∈ checkRubricRule rule :=
    ⟨rule, hrule, hfinding⟩
  unfold lint
  simp [hfound]

/-! ## The whole story -/

/-- Every condition that the story asks is checked. -/
theorem Asks.checkCondition_subset_lint (h : story.Asks condition) (start : String) :
    ∃ place, checkCondition place condition ⊆ story.lint start := by
  cases h with
  | @router id _ branches fallback branch hnode hbranch hcondition =>
      refine ⟨.router id, fun finding hfinding => checkEffects_subset_lint hnode start ?_⟩
      refine List.mem_flatMap.mpr ⟨branch, hbranch, List.mem_append_left _ ?_⟩
      exact checkCondition_subset_checkBranchCondition hcondition hfinding
  | @fanout id _ _ branches branch hnode hbranch hcondition =>
      refine ⟨.fanout id, fun finding hfinding => checkEffects_subset_lint hnode start ?_⟩
      refine List.mem_flatMap.mpr ⟨branch, hbranch, ?_⟩
      exact checkCondition_subset_checkBranchCondition hcondition hfinding
  | @chance id _ text choices choice entry hnode hchoice hentry hcondition =>
      refine ⟨.choice choice.id id,
        fun finding hfinding => checkEffects_subset_lint hnode start ?_⟩
      refine List.mem_flatMap.mpr ⟨choice, hchoice, checkChances_subset_checkChoice id choice ?_⟩
      exact checkCondition_subset_checkChances hentry hcondition hfinding
  | @personaChance id _ _ text choices choice _ _ entry hnode hchoice heffects htable hentry
      hcondition =>
      refine ⟨.choice choice.id id,
        fun finding hfinding => checkEffects_subset_lint hnode start ?_⟩
      refine List.mem_flatMap.mpr ⟨choice, hchoice,
        checkChances_subset_checkChoice_of_effects id heffects htable ?_⟩
      exact checkCondition_subset_checkChances hentry hcondition hfinding
  | outcome hrule =>
      obtain ⟨place, hchecked⟩ := checkCondition_subset_checkOutcomes hrule
      exact ⟨place, List.Subset.trans hchecked (story.checkOutcomes_subset_lint start)⟩
  | @rubric rule _ hrule hmatcher =>
      exact ⟨.rubricRule rule.id, List.Subset.trans
        (checkCondition_subset_checkRubricRule hmatcher) (checkRubricRule_subset_lint hrule start)⟩

/-- A report without errors means that every condition that the story asks parses. -/
theorem Asks.exists_parse (h : story.Asks condition)
    (hlint : (story.lintReport start).errors = []) :
    ∃ expr, Condition.Expr.parse condition = .ok expr := by
  obtain ⟨place, hchecked⟩ := h.checkCondition_subset_lint start
  cases hparse : Condition.Expr.parse condition with
  | ok expr => exact ⟨expr, rfl⟩
  | error e =>
      have hfound : .badCondition place condition e ∈ checkCondition place condition := by
        simp [checkCondition, hparse]
      exact absurd (hchecked hfound) (not_mem_lint_of_errors hlint rfl)

end Story
end BranchingStory
