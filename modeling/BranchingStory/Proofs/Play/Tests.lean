import BranchingStory.Play.Action
import BranchingStory.Proofs.Condition.Failures
import BranchingStory.Proofs.Lint.Conditions

/-!
# The conditions that play tests

Every test of a condition is noted, with its result.  Whatever play does, the conditions that it
tests stand in the story, and so the lint has looked at them.  A condition that parses can still
have no value: its values may not go together, or it divides by zero.

Main results:

- `Condition.isOfValues_of_test`: what can go wrong with a test.
- `Story.only_arrive`, `Story.only_act`: the story moves on by itself, and a player acts, with tests
  of the conditions of the story only.
-/

namespace BranchingStory

/-! ## Failures of tests -/

namespace Condition

/-- A condition that parses fails for its values only. -/
theorem isOfValues_of_test {s : Playthrough} {e : Error} {text : String} {expr : Expr}
    (hparse : Expr.parse text = .ok expr) (h : test s text = .error e) : e.IsOfValues := by
  simp only [test, hparse, Expr.test] at h
  split at h
  · rename_i heval
    cases h
    exact Expr.isOfValues_of_eval heval
  · cases h

end Condition

/-! ## Events of a kind -/

namespace Traced

variable {α β : Type} {P : Event → Prop} {x : Traced α} {f : α → Traced β} {e : Event}
  {test : α → Traced Bool} {l : List α}

/-- Every event noted on the way to a result is of a kind. -/
def Only (P : Event → Prop) (x : Traced α) : Prop :=
  ∀ e ∈ x.events, P e

/-- A result without events has no event of another kind. -/
theorem only_pure (P : Event → Prop) (a : α) : (pure a : Traced α).Only P := by
  intro e he
  cases he

/-- Noting an event of the kind keeps to the kind. -/
theorem only_note (h : P e) : (note e).Only P := by
  intro e' he
  rwa [List.mem_singleton.mp he]

/-- What follows a result has to keep to the kind for this result only. -/
theorem Only.bind_value (hx : x.Only P) (hf : (f x.value).Only P) : (x >>= f).Only P := by
  intro e he
  rcases List.mem_append.mp he with he | he
  · exact hx e he
  · exact hf e he

/-- A sequence of steps keeps to the kind if every step does. -/
theorem Only.bind (hx : x.Only P) (hf : ∀ a, (f a).Only P) : (x >>= f).Only P :=
  hx.bind_value (hf x.value)

/-- An event is noted on the way to a result that is given anyway. -/
theorem only_noting (h : P e) (a : α) : (note e >>= fun _ => pure a).Only P :=
  (only_note h).bind fun _ => only_pure P a

/-- A search keeps to the kind if the tests of all elements do. -/
theorem only_find? (h : ∀ a ∈ l, (test a).Only P) : (find? test l).Only P := by
  induction l with
  | nil => exact only_pure P none
  | cons a rest ih =>
      refine (h a List.mem_cons_self).bind fun passes => ?_
      cases passes with
      | true => exact only_pure P _
      | false => exact ih fun b hb => h b (List.mem_cons_of_mem a hb)

/-- A selection keeps to the kind if the tests of all elements do. -/
theorem only_filter (h : ∀ a ∈ l, (test a).Only P) : (filter test l).Only P := by
  induction l with
  | nil => exact only_pure P []
  | cons a rest ih =>
      refine (h a List.mem_cons_self).bind fun passes => ?_
      have hrest : (filter test rest).Only P := ih fun b hb => h b (List.mem_cons_of_mem a hb)
      exact hrest.bind fun others => only_pure P _

end Traced

/-! ## Tests of the conditions of a story -/

/-- If the event reports a test, then it is one of a condition of the story, with the result in some
playthrough. -/
def Story.Reports (story : Story) : Event → Prop
  | .tested condition result => story.Asks condition ∧ ∃ s, result = Condition.test s condition
  | _ => True

/-- If the event reports a test, then the condition parses, and if it fails, then for its values. -/
def Event.IsSound : Event → Prop
  | tested condition result =>
      (∃ expr, Condition.Expr.parse condition = .ok expr) ∧
        ∀ e, result = .error e → e.IsOfValues
  | _ => True

variable {story : Story} {s : Playthrough} {id : String}

/-- A report without errors makes all tests of the story's conditions sound. -/
theorem Story.isSound_of_reports {start : String} {e : Event}
    (hlint : (story.lintReport start).errors = []) (h : story.Reports e) : e.IsSound := by
  cases e with
  | tested condition result =>
      obtain ⟨hasks, s, rfl⟩ := h
      obtain ⟨expr, hparse⟩ := hasks.exists_parse hlint
      exact ⟨⟨expr, hparse⟩, fun e he => Condition.isOfValues_of_test hparse he⟩
  | _ => exact trivial

/-- A test of a condition that the story asks is a test of the story. -/
theorem only_testing {condition : String} (h : story.Asks condition) :
    (testing s condition).Only story.Reports := by
  intro e he
  obtain rfl := List.mem_singleton.mp he
  exact ⟨h, s, rfl⟩

/-- So it is where the condition may be absent. -/
theorem only_testingOr {absent : Bool} {condition : Option String}
    (h : ∀ text, condition = some text → story.Asks text) :
    (testingOr absent s condition).Only story.Reports := by
  cases condition with
  | none => exact Traced.only_pure _ absent
  | some text => exact only_testing (h text rfl)

/-! ### Routers -/

/-- A router tests the conditions of its branches. -/
theorem only_stepRouter {branches : List Branch} {fallback : Option String}
    (hnode : story.node? id = some (.router branches fallback)) :
    (stepRouter story.bounds branches fallback s).Only story.Reports := by
  have hbranches : (Traced.find? (Branch.isTaken s) branches).Only story.Reports :=
    Traced.only_find? fun branch hbranch =>
      only_testingOr fun text htext => .router hnode hbranch htext
  refine hbranches.bind fun taken => ?_
  cases taken with
  | some branch => exact Traced.only_noting trivial _
  | none =>
      cases fallback with
      | some target => exact Traced.only_noting trivial _
      | none => exact Traced.only_noting trivial _

/-- A fan-out router tests the conditions of its branches. -/
theorem only_stepFanout {branches : List Branch} {resume : String}
    (hnode : story.node? id = some (.fanout branches resume)) :
    (stepFanout branches resume s).Only story.Reports := by
  have hbranches : (Traced.filter (Branch.isTaken s) branches).Only story.Reports :=
    Traced.only_filter fun branch hbranch =>
      only_testingOr fun text htext => .fanout hnode hbranch htext
  unfold stepFanout
  split
  · exact Traced.only_noting trivial _
  · refine hbranches.bind fun taken => ?_
    cases taken with
    | nil => exact Traced.only_pure _ _
    | cons first others => exact Traced.only_noting trivial _

/-! ### Endings -/

/-- The outcome is selected by the conditions of the outcome rules. -/
theorem only_selectOutcome (story : Story) (s : Playthrough) :
    (selectOutcome story.outcomes s).Only story.Reports := by
  refine Traced.only_find? fun rule hrule => only_testing (.outcome ?_)
  exact (List.mergeSort_perm _ _).mem_iff.mp hrule

/-- The rubric tests the conditions of its rules. -/
theorem only_scorecard (story : Story) (s : Playthrough) :
    (story.rubric.scorecard s).Only story.Reports := by
  have hrule : ∀ rule ∈ story.rubric.rules, (rule.appliesTo s).Only story.Reports := by
    intro rule hrule
    unfold RubricRule.appliesTo
    cases hmatcher : rule.matcher with
    | condition text => exact only_testing (.rubric hrule hmatcher)
    | flag flag => exact Traced.only_pure _ _
    | anyFlag flags => exact Traced.only_pure _ _
    | never => exact Traced.only_pure _ _
  exact (Traced.only_filter hrule).bind fun counted => Traced.only_pure _ _

/-! ### Chance tables -/

/-- A chance table tests the conditions of its entries. -/
theorem only_chance {table : List ChanceEntry}
    (h : ∀ entry ∈ table, ∀ text, entry.condition = some text → story.Asks text)
    (bounds : PerStat Bounds) (s : Playthrough) (source : Source) :
    (Chance.apply bounds s table source).Only story.Reports := by
  have heligible : (Chance.eligible s table).Only story.Reports := by
    refine Traced.only_filter fun entry hentry => only_testingOr (h entry.1 ?_)
    exact List.mem_of_getElem? (List.mem_zipIdx_iff_getElem?.mp hentry)
  unfold Chance.apply
  split
  · exact Traced.only_pure _ _
  · refine heligible.bind fun entries => ?_
    dsimp only
    split
    · exact Traced.only_noting trivial _
    · split
      · exact Traced.only_pure _ _
      · exact Traced.only_noting trivial _

/-- The table in force for a persona is one that the lint has looked at. -/
theorem asks_of_mem_chancesFor {text : NodeText} {choices : List Choice} {choice : Choice}
    {persona condition : String} {entry : ChanceEntry}
    (hnode : story.node? id = some (.decision text choices)) (hchoice : choice ∈ choices)
    (hentry : entry ∈ choice.chancesFor persona) (hcondition : entry.condition = some condition) :
    story.Asks condition := by
  unfold Choice.chancesFor at hentry
  cases htable : (choice.effectsFor? persona).bind PersonaEffects.chances with
  | none =>
      rw [htable] at hentry
      exact .chance hnode hchoice hentry hcondition
  | some table =>
      rw [htable] at hentry
      obtain ⟨effects, heffects, hchances⟩ := Option.bind_eq_some_iff.mp htable
      exact .personaChance hnode hchoice heffects hchances hentry hcondition

/-- A choice at a decision tests the conditions of its chance tables. -/
theorem only_take {text : NodeText} {choices : List Choice} {choice : Choice}
    (hnode : story.node? id = some (.decision text choices)) (hchoice : choice ∈ choices)
    (bounds : PerStat Bounds) (s : Playthrough) (source : Source) :
    (choice.take bounds s source).Only story.Reports := by
  have hchances : ∀ entry ∈ choice.chancesFor s.persona, ∀ condition,
      entry.condition = some condition → story.Asks condition := by
    intro entry hentry condition hcondition
    exact asks_of_mem_chancesFor hnode hchoice hentry hcondition
  exact (only_chance hchances bounds _ source).bind fun outcome => Traced.only_noting trivial _

namespace Story

/-! ### Walks -/

/-- Scoring tests conditions of outcome rules and of the rubric. -/
theorem only_score (story : Story) (s : Playthrough) : (story.score s).Only story.Reports := by
  unfold score
  split
  · exact Traced.only_noting trivial _
  · refine (only_selectOutcome story s).bind fun rule => ?_
    split
    · refine (Traced.only_note trivial).bind fun _ => (only_scorecard story _).bind fun card => ?_
      exact Traced.only_noting trivial _
    · refine (only_scorecard story _).bind fun card => ?_
      exact Traced.only_noting trivial _

/-- A step tests conditions of the story. -/
theorem only_step (story : Story) (s : Playthrough) : (story.step s).Only story.Reports := by
  unfold step
  cases hnode : story.node? s.node with
  | none => exact Traced.only_noting trivial _
  | some node =>
      cases node with
      | narrative text next nextByLocation => exact Traced.only_pure _ _
      | decision text choices => exact Traced.only_pure _ _
      | outcome text => exact (only_score story s).bind fun _ => Traced.only_pure _ _
      | router branches fallback => exact only_stepRouter hnode
      | fanout branches resume => exact only_stepFanout hnode

/-- So does a walk, step by step. -/
theorem only_walk (story : Story) (hops : Nat) (s : Playthrough) :
    (story.walk hops s).Only story.Reports := by
  induction hops generalizing s with
  | zero =>
      unfold walk
      split
      · exact Traced.only_pure _ _
      · refine (only_step story s).bind fun next => ?_
        cases next <;> exact Traced.only_pure _ _
  | succ hops ih =>
      unfold walk
      refine (only_step story s).bind fun next => ?_
      cases next with
      | rest stop s' => exact Traced.only_pure _ _
      | move s' => exact ih s'

/-- By itself the story tests its own conditions only. -/
theorem only_arrive (story : Story) (limit : Nat) (s : Playthrough) :
    (story.arrive limit s).Only story.Reports := by
  have hadvance : (story.advance limit s).Only story.Reports := by
    refine (only_walk story limit s).bind fun walk => ?_
    cases walk <;> exact Traced.only_pure _ _
  exact hadvance.bind fun advance => Traced.only_pure _ _

/-! ### Actions -/

/-- Going to the next stop tests conditions of the story, if any. -/
theorem only_visitStop (story : Story) (limit : Nat) (s : Playthrough) (stop : String)
    (rest : List String) : (story.visitStop limit s stop rest).Only story.Reports := by
  unfold visitStop
  split
  · exact Traced.only_noting trivial _
  · cases s.returnNode with
    | some resume => exact only_arrive story limit _
    | none => exact Traced.only_pure _ _

/-- So does going on from a narrative. -/
theorem only_continueFrom (story : Story) (limit : Nat) (s : Playthrough)
    (successor : Option String) : (story.continueFrom limit s successor).Only story.Reports := by
  unfold continueFrom
  cases successor with
  | some target => exact only_arrive story limit _
  | none =>
      cases s.returnNode with
      | some resume => exact only_arrive story limit _
      | none => exact Traced.only_noting trivial _

/-- So does taking a choice of the decision. -/
theorem only_decide {text : NodeText} {choices : List Choice} {choice : Choice}
    (hnode : story.node? id = some (.decision text choices)) (hchoice : choice ∈ choices)
    (limit : Nat) (s : Playthrough) (source : Source) :
    (story.decide limit s choice source).Only story.Reports := by
  unfold decide
  split
  · exact Traced.only_noting trivial _
  · refine (only_take hnode hchoice story.bounds s source).bind fun taken => ?_
    exact (only_arrive story limit taken.1).bind fun _ => Traced.only_pure _ _

/-- A player who acts with a choice that is offered makes the story test its own conditions only. -/
theorem only_act {choice : Option Choice}
    (hchoice : ∀ chosen, choice = some chosen →
      ∃ node, story.node? s.node = some node ∧ chosen ∈ node.choices)
    (limit : Nat) (source : Source) : (story.act limit s choice source).Only story.Reports := by
  unfold act
  cases hnode : story.node? s.node with
  | none => exact Traced.only_noting trivial _
  | some node =>
      cases s.queue with
      | cons stop rest =>
          exact (only_visitStop story limit s stop rest).bind fun _ => Traced.only_pure _ _
      | nil =>
          cases node with
          | narrative text next nextByLocation =>
              exact (only_continueFrom story limit s _).bind fun _ => Traced.only_pure _ _
          | decision text choices =>
              cases choice with
              | none => exact Traced.only_pure _ _
              | some chosen =>
                  obtain ⟨node, hnode', hmem⟩ := hchoice chosen rfl
                  cases hnode.symm.trans hnode'
                  exact only_decide hnode hmem limit s source
          | router branches fallback => exact Traced.only_pure _ _
          | fanout branches resume => exact Traced.only_pure _ _
          | outcome text => exact Traced.only_pure _ _

end Story
end BranchingStory
