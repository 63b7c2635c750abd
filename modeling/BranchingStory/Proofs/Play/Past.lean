import BranchingStory.Proofs.Play.Growth
import BranchingStory.Proofs.Play.Sight

/-!
# The past does not matter

Nothing in play reads the history.  So a playthrough that recalls a longer past goes on in the same
way: it takes the same steps, notes the same events, draws the same and fails with the same errors.
Each piece of play is shown to commute with recalling a past, from one step up to a whole action.

Main results:

- `Story.act_recalling`: what an action does with a longer past.
- `Story.history_of_act`: which visits an action records.
-/

namespace BranchingStory

/-! ## Traced results under a map -/

namespace Traced

variable {α β γ : Type}

/-- What comes after a result depends on that result only. -/
theorem bind_congr {x : Traced α} {f g : α → Traced β} (h : f x.value = g x.value) :
    x >>= f = x >>= g :=
  congrArg (fun y : Traced β => Traced.mk y.value (x.events ++ y.events)) h

/-- A map goes under a bind. -/
theorem map_bind (f : β → γ) (x : Traced α) (g : α → Traced β) :
    f <$> (x >>= g) = x >>= fun a => f <$> g a := by
  show Traced.mk _ _ = Traced.mk _ _
  simp

/-- A map in front of a bind goes into what follows. -/
theorem bind_map (f : α → β) (x : Traced α) (g : β → Traced γ) :
    (f <$> x) >>= g = x >>= fun a => g (f a) := by
  show Traced.mk _ _ = Traced.mk _ _
  simp

end Traced

variable {story : Story} {s s' : Playthrough} {limit : Nat} {choice : Option Choice}
  {source : Source} {past : List Visit}

/-! ## Recalling a past -/

/-- The playthrough with a past that comes before its history. -/
def Playthrough.recalling (past : List Visit) (s : Playthrough) : Playthrough :=
  { s with history := past ++ s.history }

/-- The step with a past that comes before the history of its playthrough. -/
def Step.recalling (past : List Visit) : Step → Step
  | rest stop s => rest stop (s.recalling past)
  | move s => move (s.recalling past)

/-- The walk with a past that comes before the history of its playthrough. -/
def Walk.recalling (past : List Visit) : Walk → Walk
  | rested stop s => rested stop (s.recalling past)
  | exhausted s => exhausted (s.recalling past)

/-- The advance with a past that comes before the history of its playthrough. -/
def Advance.recalling (past : List Visit) (advance : Advance) : Advance where
  result := advance.result
  state := advance.state.recalling past

/-- The turn with a past that comes before the history of its playthrough, if it has one. -/
def Turn.recalling (past : List Visit) (turn : Turn) : Turn where
  result := turn.result.map (Playthrough.recalling past)
  source := turn.source

namespace Playthrough

@[simp]
theorem node_recalling (past : List Visit) (s : Playthrough) : (s.recalling past).node = s.node :=
  rfl

@[simp]
theorem persona_recalling (past : List Visit) (s : Playthrough) :
    (s.recalling past).persona = s.persona :=
  rfl

@[simp]
theorem location_recalling (past : List Visit) (s : Playthrough) :
    (s.recalling past).location = s.location :=
  rfl

@[simp]
theorem queue_recalling (past : List Visit) (s : Playthrough) :
    (s.recalling past).queue = s.queue :=
  rfl

@[simp]
theorem returnNode_recalling (past : List Visit) (s : Playthrough) :
    (s.recalling past).returnNode = s.returnNode :=
  rfl

@[simp]
theorem isFinished_recalling (past : List Visit) (s : Playthrough) :
    (s.recalling past).isFinished = s.isFinished :=
  rfl

/-- No condition can ask for the past. -/
theorem looksLike_recalling (past : List Visit) (s : Playthrough) :
    (s.recalling past).LooksLike s :=
  ⟨rfl, rfl, rfl⟩

end Playthrough

/-! ## Moving on -/

/-- A router takes the same way with a longer past. -/
theorem stepRouter_recalling (bounds : PerStat Bounds) (branches : List Branch)
    (fallback : Option String) (past : List Visit) (s : Playthrough) :
    stepRouter bounds branches fallback (s.recalling past) =
      Step.recalling past <$> stepRouter bounds branches fallback s := by
  unfold stepRouter
  rw [(s.looksLike_recalling past).isTaken_eq, Traced.map_bind]
  congr 1
  funext taken
  cases taken with
  | some branch => rfl
  | none => cases fallback <;> rfl

/-- A fan-out router fires or passes on in the same way with a longer past. -/
theorem stepFanout_recalling (branches : List Branch) (resume : String) (past : List Visit)
    (s : Playthrough) :
    stepFanout branches resume (s.recalling past) =
      Step.recalling past <$> stepFanout branches resume s := by
  unfold stepFanout
  rw [(s.looksLike_recalling past).isTaken_eq]
  by_cases hmark : s.node ∈ s.marks
  · have hrecalled : (s.recalling past).node ∈ (s.recalling past).marks := hmark
    rw [if_pos hmark, if_pos hrecalled]
    rfl
  · have hrecalled : (s.recalling past).node ∉ (s.recalling past).marks := hmark
    rw [if_neg hmark, if_neg hrecalled, Traced.map_bind]
    congr 1
    funext taken
    cases taken <;> rfl

namespace Story

/-- A playthrough is scored in the same way with a longer past. -/
theorem score_recalling (story : Story) (past : List Visit) (s : Playthrough) :
    story.score (s.recalling past) = Playthrough.recalling past <$> story.score s := by
  unfold score
  rw [(s.looksLike_recalling past).answersAlike.selected, Playthrough.isFinished_recalling]
  cases s.isFinished with
  | true => rfl
  | false =>
      simp only [Bool.false_eq_true, if_false, Traced.map_bind]
      congr 1
      funext rule
      have hended : (s.recalling past).withOutcome rule = (s.withOutcome rule).recalling past := by
        cases rule <;> rfl
      rw [hended, ((s.withOutcome rule).looksLike_recalling past).answersAlike.scorecard]
      cases rule with
      | none =>
          simp only [Option.isNone_none, if_true, Traced.map_bind]
          rfl
      | some rule =>
          simp only [Option.isNone_some, Bool.false_eq_true, if_false, Traced.map_bind]
          rfl

/-- The story takes the same step with a longer past. -/
theorem step_recalling (story : Story) (past : List Visit) (s : Playthrough) :
    story.step (s.recalling past) = Step.recalling past <$> story.step s := by
  unfold step
  rw [Playthrough.node_recalling]
  cases story.node? s.node with
  | none => rfl
  | some node =>
      cases node with
      | narrative text next nextByLocation => rfl
      | decision text choices => rfl
      | outcome text =>
          simp only [score_recalling, Traced.map_bind, Traced.bind_map]
          rfl
      | router branches fallback => exact stepRouter_recalling ..
      | fanout branches resume => exact stepFanout_recalling ..

/-- So it walks in the same way, and through as many routers. -/
theorem walk_recalling (story : Story) (past : List Visit) (hops : Nat) (s : Playthrough) :
    story.walk hops (s.recalling past) = Walk.recalling past <$> story.walk hops s := by
  induction hops generalizing s with
  | zero =>
      rw [walk, walk, Playthrough.node_recalling]
      cases story.routesAt s.node with
      | true => rfl
      | false =>
          simp only [Bool.false_eq_true, if_false]
          rw [step_recalling, Traced.bind_map, Traced.map_bind]
          congr 1
          funext next
          cases next <;> rfl
  | succ hops ih =>
      rw [walk, walk, step_recalling, Traced.bind_map, Traced.map_bind]
      congr 1
      funext next
      cases next with
      | rest stop s' => rfl
      | move s' => exact ih s'

/-- It comes to rest, or fails to, in the same way with a longer past. -/
theorem advance_recalling (story : Story) (limit : Nat) (past : List Visit) (s : Playthrough) :
    story.advance limit (s.recalling past) = Advance.recalling past <$> story.advance limit s := by
  rw [advance, advance, walk_recalling, Traced.bind_map, Traced.map_bind]
  congr 1
  funext walk
  cases walk <;> rfl

/-- It arrives with a longer past where it arrives without one. -/
theorem arrive_recalling (story : Story) (limit : Nat) (past : List Visit) (s : Playthrough) :
    story.arrive limit (s.recalling past) =
      Except.map (Playthrough.recalling past) <$> story.arrive limit s := by
  rw [arrive, arrive, advance_recalling, Traced.bind_map, Traced.map_bind]
  congr 1
  funext advance
  obtain ⟨result, state⟩ := advance
  cases result <;> rfl

end Story

/-! ## Actions -/

/-- A choice has the same effects and draws the same with a longer past. -/
theorem Choice.take_recalling (choice : Choice) (bounds : PerStat Bounds) (past : List Visit)
    (s : Playthrough) (source : Source) :
    choice.take bounds (s.recalling past) source =
      (fun taken => (taken.1.recalling past, taken.2)) <$> choice.take bounds s source := by
  unfold take
  have hstats : choice.adjustStats bounds (s.recalling past) = choice.adjustStats bounds s := rfl
  have hhistory (visit : Visit) :
      (s.recalling past).history ++ [visit] = past ++ (s.history ++ [visit]) :=
    List.append_assoc ..
  simp only [hstats, hhistory, Playthrough.persona_recalling, Traced.map_bind]
  congr 1
  apply Playthrough.LooksLike.apply_eq
  exact ⟨rfl, rfl, rfl⟩

namespace Story

/-- Leaving for a node adds the visit behind the past, however long it is. -/
theorem leaveFor_recalling (story : Story) (limit : Nat) (past : List Visit) (s : Playthrough)
    (target : String) :
    story.leaveFor limit (s.recalling past) target =
      Except.map (Playthrough.recalling past) <$> story.leaveFor limit s target := by
  rw [leaveFor, leaveFor, ← arrive_recalling]
  simp only [Playthrough.recalling, List.append_assoc]

/-- The next stop is the same one with a longer past. -/
theorem visitStop_recalling (story : Story) (limit : Nat) (past : List Visit) (s : Playthrough)
    (stop : String) (rest : List String) :
    story.visitStop limit (s.recalling past) stop rest =
      Except.map (Playthrough.recalling past) <$> story.visitStop limit s stop rest := by
  unfold visitStop
  by_cases hstop : stop ≠ ""
  · rw [if_pos hstop, if_pos hstop]
    rfl
  · rw [if_neg hstop, if_neg hstop, Playthrough.returnNode_recalling]
    cases s.returnNode with
    | none => rfl
    | some resume =>
        exact story.arrive_recalling limit past
          { s with queue := [], returnNode := none, node := resume }

/-- A narrative leads on in the same way with a longer past. -/
theorem continueFrom_recalling (story : Story) (limit : Nat) (past : List Visit) (s : Playthrough)
    (successor : Option String) :
    story.continueFrom limit (s.recalling past) successor =
      Except.map (Playthrough.recalling past) <$> story.continueFrom limit s successor := by
  unfold continueFrom
  rw [Playthrough.returnNode_recalling]
  cases successor with
  | some target => exact leaveFor_recalling ..
  | none =>
      cases s.returnNode with
      | none => rfl
      | some resume =>
          exact story.leaveFor_recalling limit past { s with returnNode := none } resume

/-- A choice is open, and is taken, in the same way with a longer past. -/
theorem decide_recalling (story : Story) (limit : Nat) (past : List Visit) (s : Playthrough)
    (choice : Choice) (source : Source) :
    story.decide limit (s.recalling past) choice source =
      Turn.recalling past <$> story.decide limit s choice source := by
  unfold decide
  rw [(s.looksLike_recalling past).isOpenTo_eq]
  cases choice.isOpenTo s with
  | false => rfl
  | true =>
      simp only [Bool.not_true, Bool.false_eq_true, if_false]
      rw [Choice.take_recalling, Traced.bind_map, Traced.map_bind]
      congr 1
      funext taken
      obtain ⟨t, source'⟩ := taken
      simp only [arrive_recalling, Traced.bind_map, Traced.map_bind]
      rfl

/-- With a longer past an action does the same: it notes the same events, fails in the same way,
draws the same, and leads to the same playthrough with the longer past. -/
theorem act_recalling (story : Story) (limit : Nat) (past : List Visit) (s : Playthrough)
    (choice : Option Choice) (source : Source) :
    story.act limit (s.recalling past) choice source =
      Turn.recalling past <$> story.act limit s choice source := by
  unfold act
  rw [Playthrough.node_recalling, Playthrough.queue_recalling, Playthrough.location_recalling]
  cases story.node? s.node with
  | none => rfl
  | some node =>
      cases s.queue with
      | cons stop rest =>
          simp only [visitStop_recalling, Traced.bind_map, Traced.map_bind]
          rfl
      | nil =>
          cases node with
          | narrative text next nextByLocation =>
              simp only [continueFrom_recalling, Traced.bind_map, Traced.map_bind]
              rfl
          | decision text choices =>
              cases choice with
              | none => rfl
              | some choice => exact decide_recalling ..
          | router branches fallback => rfl
          | fanout branches resume => rfl
          | outcome text => rfl

/-! ## What is recorded -/

/-- The visits that an action records: the node that a narrative is left from, if it leads on or
there is somewhere to go back to, or a decision with the choice that is made there, if it is open.
While stops are pending nothing is recorded. -/
def recorded (story : Story) (s : Playthrough) (choice : Option Choice) : List Visit :=
  match story.node? s.node, s.queue, choice with
  | some (.narrative text next nextByLocation), [], _ =>
      if ((Node.narrative text next nextByLocation).successor? s.location).isSome ||
          s.returnNode.isSome then
        [⟨s.node, none⟩]
      else []
  | some (.decision ..), [], some chosen =>
      if chosen.isOpenTo s then [⟨s.node, some chosen.id⟩] else []
  | _, _, _ => []

/-- An idle action records no visit. -/
theorem recorded_of_idle (h : story.Idle s choice) : story.recorded s choice = [] := by
  cases h with
  | nowhere hnode => simp [recorded, hnode]
  | lostStop _ hqueue _ => simp [recorded, hqueue]
  | ending hnode hqueue hnext hreturn => simp [recorded, hnode, hqueue, hnext, hreturn]
  | undecided hnode hqueue hchoice => simp [recorded, hnode, hchoice]
  | rejected hnode hqueue hchoice hclosed => simp [recorded, hnode, hqueue, hchoice, hclosed]
  | @notWaiting node hnode _ hwaits =>
      cases node <;> simp_all [recorded, Node.isInteractive]

/-- Which visits an action records does not depend on those before. -/
theorem recorded_recalling (story : Story) (past : List Visit) (s : Playthrough)
    (choice : Option Choice) :
    story.recorded (s.recalling past) choice = story.recorded s choice := by
  have hopen (chosen : Choice) : chosen.isOpenTo (s.recalling past) = chosen.isOpenTo s :=
    (s.looksLike_recalling past).isOpenTo_eq chosen
  simp only [recorded, hopen]
  rfl

/-- An action that gives a playthrough records exactly its visits. -/
theorem history_of_act (h : (story.act limit s choice source).value.result = .ok s') :
    s'.history = s.history ++ story.recorded s choice := by
  have hacts := story.acts_act limit s choice source
  generalize (story.act limit s choice source).value.result = result at h hacts
  cases hacts with
  | idle hidle =>
      cases h
      rw [recorded_of_idle hidle, List.append_nil]
  | nextStop _ hqueue _ =>
      cases h
      simp [recorded, hqueue]
  | resumed _ hqueue _ => simp [(grows_of_arrive h).history, recorded, hqueue]
  | continued hnode hqueue hnext =>
      simp [(grows_of_arrive h).history, recorded, hnode, hqueue, hnext]
  | leftFeedback hnode hqueue hnext hreturn =>
      simp [(grows_of_arrive h).history, recorded, hnode, hqueue, hnext, hreturn]
  | chose hnode hqueue hchoice hopen =>
      rw [(grows_of_arrive h).history, List.append_nil]
      simp [recorded, hnode, hqueue, hchoice, hopen, Choice.take]

end Story
end BranchingStory
