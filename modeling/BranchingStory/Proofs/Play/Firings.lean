import BranchingStory.Proofs.Play.Detours

/-!
# Firings and resumptions

A fan-out router fires when a walk comes to rest at the first of its stops, and the event that it
notes says so.  It is marked then, and no move takes a mark back, so it does not fire again.  A
firing is also the only thing that begins an excursion, and every action that resumes the story
after an excursion ends it.  So there are no more resumptions than firings.

Main results:

- `Story.fires_arrive`: what fires on a walk, at most one router at its end.
- `Story.mem_firings_act_iff`: what it is for a router to fire in an action.
- `Story.resumesFrom_iff`: what it is for an action to resume the story.
- `Story.step_of_mem_marks`: what a step does at a fan-out router that has fired.
- `Story.FiringsAccounted.act`: every action keeps the account of firings and resumptions.
-/

namespace BranchingStory

/-- The fan-out router that an event reports to have fired. -/
def Event.firedRouter? : Event → Option String
  | fired router _ _ => some router
  | _ => none

/-! ## Results without firings -/

namespace Traced

variable {α β : Type}

/-- The fan-out routers that fired on the way to a result, in order. -/
def firings (x : Traced α) : List String :=
  x.events.filterMap Event.firedRouter?

@[simp]
theorem firings_pure (a : α) : (pure a : Traced α).firings = [] :=
  rfl

@[simp]
theorem firings_bind (x : Traced α) (f : α → Traced β) :
    (x >>= f).firings = x.firings ++ (f x.value).firings :=
  List.filterMap_append

@[simp]
theorem firings_note (e : Event) : (note e).firings = e.firedRouter?.toList := by
  cases h : e.firedRouter? <;> simp [firings, h]

/-- Searching fires nothing if the tests do not. -/
theorem firings_find? {test : α → Traced Bool} (h : ∀ a, (test a).firings = []) (l : List α) :
    (find? test l).firings = [] := by
  induction l with
  | nil => rfl
  | cons a rest ih =>
      rw [find?, firings_bind, h a, List.nil_append]
      split
      · rfl
      · exact ih

/-- A selection by tests that fire nothing fires nothing. -/
theorem firings_filter {test : α → Traced Bool} (h : ∀ a, (test a).firings = []) (l : List α) :
    (filter test l).firings = [] := by
  induction l with
  | nil => rfl
  | cons a rest ih => simp [filter, h a, ih]

end Traced

section Quiet

variable {s : Playthrough}

@[simp]
theorem firings_testingOr (absent : Bool) (condition : Option String) :
    (testingOr absent s condition).firings = [] := by
  cases condition <;> rfl

@[simp]
theorem firings_isTaken (branch : Branch) : (branch.isTaken s).firings = [] :=
  firings_testingOr false branch.condition

/-- Selecting an outcome fires nothing. -/
theorem firings_selectOutcome (rules : List OutcomeRule) : (selectOutcome rules s).firings = [] :=
  Traced.firings_find? (fun _ => rfl) (byPriority rules)

/-- The rubric fires nothing. -/
theorem firings_scorecard (rubric : Rubric) : (rubric.scorecard s).firings = [] := by
  have hrule : ∀ rule : RubricRule, (rule.appliesTo s).firings = [] := by
    intro rule
    rw [RubricRule.appliesTo]
    cases rule.matcher <;> rfl
  simp [Rubric.scorecard, Traced.firings_filter hrule]

/-- Scoring fires nothing. -/
theorem firings_score (story : Story) (s : Playthrough) : (story.score s).firings = [] := by
  unfold Story.score
  split
  · simp [Event.firedRouter?]
  · simp only [Traced.firings_bind, firings_selectOutcome]
    split <;> simp [Event.firedRouter?, firings_scorecard]

/-- A chance table fires nothing. -/
theorem firings_chance (bounds : PerStat Bounds) (s : Playthrough) (table : List ChanceEntry)
    (source : Source) : (Chance.apply bounds s table source).firings = [] := by
  have heligible : (Chance.eligible s table).firings = [] := by
    unfold Chance.eligible
    apply Traced.firings_filter
    intro entry
    exact firings_testingOr true entry.1.condition
  unfold Chance.apply
  split
  · rfl
  · simp only [Traced.firings_bind, heligible, List.nil_append]
    split
    · simp [Event.firedRouter?]
    · split
      · rfl
      · simp [Event.firedRouter?]

/-- The effects of a choice fire nothing. -/
theorem firings_take (choice : Choice) (bounds : PerStat Bounds) (s : Playthrough)
    (source : Source) : (choice.take bounds s source).firings = [] := by
  simp [Choice.take, firings_chance, Event.firedRouter?]

end Quiet

namespace Story

variable {story : Story} {limit hops : Nat} {s s' t m : Playthrough} {stop : Stop}
  {choice : Option Choice} {source : Source} {id : String}

/-! ## Walks -/

/-- A step that moves on fires nothing. -/
theorem firings_step_of_moves (h : story.Moves s s') : (story.step s).firings = [] := by
  cases h with
  | branch hnode htaken =>
      simp [step, stepRouter, hnode, htaken, Traced.firings_find?, Event.firedRouter?]
  | default hnode htaken =>
      simp [step, stepRouter, hnode, htaken, Traced.firings_find?, Event.firedRouter?]
  | passed hnode hmark => simp [step, stepFanout, hnode, hmark, Event.firedRouter?]
  | unmatched hnode hmark htaken =>
      simp [step, stepFanout, hnode, hmark, htaken, Traced.firings_filter]

/-- A step that rests fires where it is, if it rests at a stop, and nothing otherwise. -/
theorem firings_step_of_rests (h : story.Rests s stop s') :
    (story.step s).firings = if stop = .feedback then [s.node] else [] := by
  cases h with
  | missing hnode => simp [step, hnode, Event.firedRouter?]
  | @interactive node hnode hwaits => cases node <;> simp_all [step, Node.isInteractive]
  | outcome hnode => simp [step, hnode, firings_score]
  | stalled hnode htaken =>
      simp [step, stepRouter, hnode, htaken, Traced.firings_find?, Event.firedRouter?]
  | fired hnode hmark htaken =>
      simp [step, stepFanout, hnode, hmark, htaken, Traced.firings_filter, Event.firedRouter?]

/-- The result of a walk, and what fires on it. -/
inductive Fires (story : Story) (s : Playthrough) :
    Except RoutingError Playthrough → List String → Prop
  /-- The walk comes to rest at the first stop of a fan-out router. -/
  | fired {m s' : Playthrough} (hmoves : Relation.ReflTransGen story.Moves s m)
      (hrests : story.Rests m .feedback s') : Fires story s (.ok s') [m.node]
  | quiet {m s' : Playthrough} {stop : Stop} (hmoves : Relation.ReflTransGen story.Moves s m)
      (hrests : story.Rests m stop s') (hstop : stop ≠ .feedback) : Fires story s (.ok s') []
  | lost {e : RoutingError} : Fires story s (.error e) []

/-- A move does not change what fires on the walk from there. -/
theorem Fires.head {result : Except RoutingError Playthrough} {fired : List String}
    (h : story.Fires t result fired) (hmove : story.Moves s t) : story.Fires s result fired := by
  cases h with
  | fired hmoves hrests => exact .fired (hmoves.head hmove) hrests
  | quiet hmoves hrests hstop => exact .quiet (hmoves.head hmove) hrests hstop
  | lost => exact .lost

/-- What comes to rest at the first stop of an excursion has fired, and nothing else has. -/
theorem Rests.fires (h : story.Rests s stop s') :
    story.Fires s (.ok s') (if stop = .feedback then [s.node] else []) := by
  split
  · subst stop
    exact .fired .refl h
  · rename_i hstop
    exact .quiet .refl h hstop

/-- At most one router fires on a walk, whatever the error of a walk that does not end is. -/
theorem fires_walk (story : Story) (hops : Nat) (s : Playthrough)
    (error : Playthrough → RoutingError) :
    story.Fires s
      (match (story.walk hops s).value with
        | .rested _ s' => .ok s'
        | .exhausted last => .error (error last))
      (story.walk hops s).firings := by
  induction hops generalizing s with
  | zero =>
      rw [walk]
      by_cases hroutes : story.routesAt s.node = true
      · rw [if_pos hroutes]
        exact .lost
      · rw [if_neg hroutes]
        rcases story.exists_moves_or_rests s with ⟨t, hmove⟩ | ⟨stop, t, hrests⟩
        · simp only [Traced.value_bind, Traced.firings_bind, value_step_of_moves hmove,
            firings_step_of_moves hmove]
          exact .lost
        · simp only [Traced.value_bind, Traced.firings_bind, value_step_of_rests hrests,
            firings_step_of_rests hrests, Traced.firings_pure, List.append_nil]
          exact hrests.fires
  | succ hops ih =>
      rw [walk]
      rcases story.exists_moves_or_rests s with ⟨t, hmove⟩ | ⟨stop, t, hrests⟩
      · simp only [Traced.value_bind, Traced.firings_bind, value_step_of_moves hmove,
          firings_step_of_moves hmove, List.nil_append]
        exact (ih t).head hmove
      · simp only [Traced.value_bind, Traced.firings_bind, value_step_of_rests hrests,
          firings_step_of_rests hrests, Traced.firings_pure, List.append_nil]
        exact hrests.fires

/-- A router fires only where a walk ends, so a walk that fails fires nothing. -/
theorem fires_arrive (story : Story) (limit : Nat) (s : Playthrough) :
    story.Fires s (story.arrive limit s).value (story.arrive limit s).firings := by
  have hwalk := story.fires_walk limit s fun last => ⟨s.node, last.node, limit⟩
  simp only [arrive, advance, Traced.value_bind, Traced.firings_bind]
  cases hend : (story.walk limit s).value with
  | rested stop s' =>
      simpa [hend, Except.map] using hwalk
  | exhausted last =>
      simpa [hend, Except.map] using hwalk

/-- A walk comes to rest in one place only. -/
theorem Rests.eq_of_moves {stop' : Stop} {t' m' : Playthrough}
    (hmoves : Relation.ReflTransGen story.Moves s m) (hrests : story.Rests m stop t)
    (hmoves' : Relation.ReflTransGen story.Moves s m') (hrests' : story.Rests m' stop' t') :
    m = m' := by
  have hunique : Relator.RightUnique story.Moves := fun _ _ _ h h' => h.unique h'
  -- One of the two ways goes on the other, and neither end can be left.
  rcases Relation.ReflTransGen.total_of_right_unique hunique hmoves hmoves' with hpath | hpath
  · rcases hpath.cases_head with heq | ⟨next, hmove, _⟩
    · exact heq
    · exact absurd hmove hrests.not_moves
  · rcases hpath.cases_head with heq | ⟨next, hmove, _⟩
    · exact heq.symm
    · exact absurd hmove hrests'.not_moves

/-- By itself the story comes to a fan-out router, which fires and leaves the playthrough at the
first of its stops. -/
def FiresAt (story : Story) (id : String) (s s' : Playthrough) : Prop :=
  ∃ m, Relation.ReflTransGen story.Moves s m ∧ m.node = id ∧ story.Rests m .feedback s'

/-- A router fires on the way exactly if the story comes to it and comes to rest at its first
stop. -/
theorem mem_firings_arrive_iff : id ∈ (story.arrive limit s).firings ↔
    ∃ s', story.FiresAt id s s' ∧ (story.arrive limit s).value = .ok s' := by
  have hfires := story.fires_arrive limit s
  generalize (story.arrive limit s).value = result at hfires
  generalize (story.arrive limit s).firings = fired at hfires
  cases hfires with
  | @fired m s' hmoves hrests =>
      rw [List.mem_singleton]
      constructor
      · rintro rfl
        exact ⟨s', ⟨m, hmoves, rfl, hrests⟩, rfl⟩
      · rintro ⟨_, ⟨m', hmoves', rfl, hrests'⟩, _⟩
        rw [hrests.eq_of_moves hmoves hmoves' hrests']
  | @quiet m s' stop hmoves hrests hstop =>
      refine iff_of_false List.not_mem_nil ?_
      rintro ⟨_, ⟨m', hmoves', rfl, hrests'⟩, _⟩
      obtain rfl := hrests.eq_of_moves hmoves hmoves' hrests'
      -- The walk ends in one place, so it has one kind of stop.
      have hstep := (value_step_of_rests hrests).symm.trans (value_step_of_rests hrests')
      exact hstop (Step.rest.inj hstep).1
  | lost =>
      refine iff_of_false List.not_mem_nil ?_
      rintro ⟨_, _, ⟨⟩⟩

/-! ## Actions -/

/-- An action fires what the walk from where it sets out fires. -/
theorem firings_act_of_setsOut (h : story.SetsOut s choice source t) (limit : Nat) :
    (story.act limit s choice source).firings = (story.arrive limit t).firings := by
  cases h with
  | resumed hnode hqueue hreturn => simp [act, visitStop, hnode, hqueue, hreturn]
  | continued hnode hqueue hnext => simp [act, continueFrom, leaveFor, hnode, hqueue, hnext]
  | leftFeedback hnode hqueue hnext hreturn =>
      simp [act, continueFrom, leaveFor, hnode, hqueue, hnext, hreturn]
  | chose hnode hqueue hchoice hopen =>
      subst hchoice
      simp [act, Story.decide, hnode, hqueue, hopen, firings_take]

/-- An action without effect fires nothing. -/
theorem firings_act_of_idle (h : story.Idle s choice) (limit : Nat) (source : Source) :
    (story.act limit s choice source).firings = [] := by
  cases h with
  | nowhere hnode => simp [act, hnode, Event.firedRouter?]
  | lostStop hnode hqueue hreturn => simp [act, visitStop, hnode, hqueue, hreturn]
  | ending hnode hqueue hnext hreturn =>
      simp [act, continueFrom, hnode, hqueue, hnext, hreturn, Event.firedRouter?]
  | undecided hnode hqueue hchoice => simp [act, hnode, hqueue, hchoice]
  | rejected hnode hqueue hchoice hclosed =>
      simp [act, Story.decide, hnode, hqueue, hchoice, hclosed, Event.firedRouter?]
  | @notWaiting node hnode hqueue hwaits =>
      cases node <;> simp_all [act, Node.isInteractive]

/-! ## Resumptions -/

/-- Whether an action resumes the story after an excursion: the next stop has no id, or the player
is at a narrative that leads nowhere, and there is a place to go on. -/
def resumesFrom (story : Story) (s : Playthrough) : Bool :=
  s.returnNode.isSome &&
    match story.node? s.node, s.queue with
    | some _, stop :: _ => stop == ""
    | some (.narrative text next nextByLocation), [] =>
        ((Node.narrative text next nextByLocation).successor? s.location).isNone
    | _, _ => false

/-- The story is resumed exactly if continuing takes what says where to go on, and goes there. -/
theorem resumesFrom_iff (source : Source) : story.resumesFrom s = true ↔
    ∃ t, story.SetsOut s none source t ∧ s.returnNode = some t.node ∧ t.returnNode = none := by
  constructor
  · intro h
    obtain ⟨hpending, hcase⟩ := Bool.and_eq_true_iff.mp h
    obtain ⟨resume, hreturn⟩ := Option.isSome_iff_exists.mp hpending
    split at hcase
    · rename_i hnode hqueue
      rw [eq_of_beq hcase] at hqueue
      exact ⟨_, .resumed hnode hqueue hreturn, hreturn, rfl⟩
    · rename_i hnode hqueue
      exact ⟨_, .leftFeedback hnode hqueue (Option.isNone_iff_eq_none.mp hcase) hreturn, hreturn,
        rfl⟩
    · cases hcase
  · rintro ⟨t, hsets, hreturn, hnone⟩
    cases hsets with
    | resumed hnode hqueue hresume => simp [resumesFrom, hnode, hqueue, hreturn]
    | continued _ _ _ =>
        rw [show s.returnNode = none from hnone] at hreturn
        cases hreturn
    | leftFeedback hnode hqueue hnext _ => simp [resumesFrom, hnode, hqueue, hnext, hreturn]
    | chose _ _ hchoice _ => cases hchoice

/-- Setting out marks nothing. -/
theorem SetsOut.marks (h : story.SetsOut s choice source t) : t.marks = s.marks := by
  cases h <;> rfl

/-- An action that resumes the story ends an excursion, and none begins one where it sets out. -/
theorem SetsOut.resumed_le (h : story.SetsOut s choice source t) :
    (story.resumesFrom s).toNat + t.returnNode.isSome.toNat ≤ s.returnNode.isSome.toNat := by
  cases h with
  | resumed hnode hqueue hreturn => simp [resumesFrom, hnode, hqueue, hreturn]
  | continued hnode hqueue hnext => simp [resumesFrom, hnode, hqueue, hnext]
  | leftFeedback hnode hqueue hnext hreturn => simp [resumesFrom, hnode, hqueue, hnext, hreturn]
  | chose hnode hqueue _ _ => simp [resumesFrom, hnode, hqueue, Choice.take]

/-- An idle action resumes nothing. -/
theorem Idle.resumesFrom_eq_false (h : story.Idle s choice) : story.resumesFrom s = false := by
  cases h with
  | nowhere hnode => simp [resumesFrom, hnode]
  | lostStop _ _ hreturn => simp [resumesFrom, hreturn]
  | ending _ _ _ hreturn => simp [resumesFrom, hreturn]
  | undecided hnode hqueue _ => simp [resumesFrom, hnode, hqueue]
  | rejected hnode hqueue _ _ => simp [resumesFrom, hnode, hqueue]
  | @notWaiting node hnode hqueue hwaits =>
      cases node <;> simp_all [resumesFrom, Node.isInteractive]

/-- An action sets out from somewhere, or it fires nothing, resumes nothing and keeps what says
which routers have fired and where the story goes on. -/
theorem setsOut_or_quiet (story : Story) (limit : Nat) (s : Playthrough) (choice : Option Choice)
    (source : Source) :
    (∃ t, story.SetsOut s choice source t) ∨
      (story.act limit s choice source).firings = [] ∧ story.resumesFrom s = false ∧
        ∃ s', (story.act limit s choice source).value.result = .ok s' ∧
          s'.marks = s.marks ∧ s'.returnNode = s.returnNode := by
  have hacts := story.acts_act limit s choice source
  generalize hresult : (story.act limit s choice source).value.result = result at hacts
  cases hacts with
  | idle hidle =>
      exact Or.inr ⟨firings_act_of_idle hidle limit source, hidle.resumesFrom_eq_false, s, rfl, rfl,
        rfl⟩
  | nextStop hnode hqueue hstop =>
      have hfirings : (story.act limit s choice source).firings = [] := by
        simp [act, visitStop, hnode, hqueue, hstop, Event.firedRouter?]
      have hresumes : story.resumesFrom s = false := by
        simp [resumesFrom, hnode, hqueue, hstop]
      exact Or.inr ⟨hfirings, hresumes, _, rfl, rfl, rfl⟩
  | resumed hnode hqueue hreturn => exact Or.inl ⟨_, .resumed hnode hqueue hreturn⟩
  | continued hnode hqueue hnext => exact Or.inl ⟨_, .continued hnode hqueue hnext⟩
  | leftFeedback hnode hqueue hnext hreturn =>
      exact Or.inl ⟨_, .leftFeedback hnode hqueue hnext hreturn⟩
  | chose hnode hqueue hchoice hopen => exact Or.inl ⟨_, .chose hnode hqueue hchoice hopen⟩

/-- A router fires in an action exactly if the story comes to it from where the action sets out and
it fires there. -/
theorem mem_firings_act_iff : id ∈ (story.act limit s choice source).firings ↔
    ∃ t s', story.SetsOut s choice source t ∧ story.FiresAt id t s' ∧
      (story.act limit s choice source).value.result = .ok s' := by
  constructor
  · intro h
    rcases story.setsOut_or_quiet limit s choice source with ⟨t, hsets⟩ | ⟨hquiet, _⟩
    · rw [firings_act_of_setsOut hsets] at h
      obtain ⟨s', hfires, harrive⟩ := mem_firings_arrive_iff.mp h
      exact ⟨t, s', hsets, hfires, (result_act_of_setsOut hsets limit).trans harrive⟩
    · rw [hquiet] at h
      cases h
  · rintro ⟨t, s', hsets, hfires, hresult⟩
    rw [firings_act_of_setsOut hsets]
    exact mem_firings_arrive_iff.mpr
      ⟨s', hfires, (result_act_of_setsOut hsets limit).symm.trans hresult⟩

/-! ## The account -/

/-- A fan-out router that has fired is passed, and none of its conditions is tested. -/
theorem step_of_mem_marks {branches : List Branch} {resume : String}
    (hnode : story.node? s.node = some (.fanout branches resume)) (hmark : s.node ∈ s.marks) :
    story.step s =
      ⟨.move { s with returnNode := none, node := resume }, [.alreadyFired s.node]⟩ := by
  simp only [step, hnode, stepFanout, if_pos hmark]
  rfl

/-- What the routers that have fired and the number of resumptions say about a playthrough. -/
structure FiringsAccounted (story : Story) (s : Playthrough) (fired : List String)
    (resumptions : Nat) : Prop where
  nodup : fired.Nodup
  marks : ∀ id ∈ fired, id ∈ s.marks
  isFanout : ∀ id ∈ fired, ∃ branches resume, story.node? id = some (.fanout branches resume)
  resumptions_le : resumptions + s.returnNode.isSome.toNat ≤ fired.length

/-- Nothing has fired and nothing has been resumed where a playthrough starts. -/
theorem firingsAccounted_nil (story : Story) (hs : s.returnNode = none) :
    story.FiringsAccounted s [] 0 where
  nodup := List.nodup_nil
  marks := nofun
  isFanout := nofun
  resumptions_le := by simp [hs]

namespace FiringsAccounted

variable {fired fired' : List String} {resumptions : Nat}

/-- The account is kept where nothing fires, if every resumption ends an excursion. -/
theorem keep (hs : story.FiringsAccounted s fired resumptions) (more : Nat)
    (hmarks : t.marks = s.marks)
    (hpending : more + t.returnNode.isSome.toNat ≤ s.returnNode.isSome.toNat) :
    story.FiringsAccounted t fired (resumptions + more) where
  nodup := hs.nodup
  marks := by
    rw [hmarks]
    exact hs.marks
  isFanout := hs.isFanout
  resumptions_le := by
    have hle := hs.resumptions_le
    omega

/-- The account is kept by moving on. -/
theorem move (hs : story.FiringsAccounted s fired resumptions) (h : story.Moves s t) :
    story.FiringsAccounted t fired resumptions := by
  refine hs.keep 0 h.marks ?_
  rw [Nat.zero_add]
  rcases h.atFired_or_returnNode with ⟨_, hnone⟩ | ⟨_, hsame⟩
  · rw [hnone]
    exact Nat.zero_le _
  · exact Nat.le_of_eq (congrArg (·.isSome.toNat) hsame)

/-- It is kept by moving on several times. -/
theorem moves (hs : story.FiringsAccounted s fired resumptions)
    (h : Relation.ReflTransGen story.Moves s m) :
    story.FiringsAccounted m fired resumptions := by
  induction h with
  | refl => exact hs
  | tail _ hmove ih => exact ih.move hmove

/-- Where an action sets out, a resumption has been counted. -/
theorem setOut (hs : story.FiringsAccounted s fired resumptions)
    (h : story.SetsOut s choice source t) :
    story.FiringsAccounted t fired (resumptions + (story.resumesFrom s).toNat) :=
  hs.keep _ h.marks h.resumed_le

/-- A router that fires has not fired before, and it begins an excursion. -/
theorem rest (hs : story.FiringsAccounted s fired resumptions) (h : story.Rests s .feedback t) :
    story.FiringsAccounted t (fired ++ [s.node]) resumptions := by
  cases h with
  | @fired branches _ resume _ hnode hmark _ =>
      have hnew : s.node ∉ fired := fun hmem => hmark (hs.marks _ hmem)
      constructor
      · refine List.nodup_append.mpr ⟨hs.nodup, by simp, ?_⟩
        rintro id hmem _ hid rfl
        rw [List.mem_singleton] at hid
        exact hnew (hid ▸ hmem)
      · intro id hid
        rw [Names.mem_insert]
        rcases List.mem_append.mp hid with hmem | hmem
        · exact Or.inr (hs.marks id hmem)
        · exact Or.inl (List.mem_singleton.mp hmem)
      · intro id hid
        rcases List.mem_append.mp hid with hmem | hmem
        · exact hs.isFanout id hmem
        · rw [List.mem_singleton.mp hmem]
          exact ⟨branches, resume, hnode⟩
      · have hle := hs.resumptions_le
        simp
        omega

/-- A walk that comes to rest keeps the account. -/
theorem walk (hs : story.FiringsAccounted s fired resumptions)
    (h : story.Fires s (.ok t) fired') :
    story.FiringsAccounted t (fired ++ fired') resumptions := by
  cases h with
  | fired hmoves hrests => exact (hs.moves hmoves).rest hrests
  | @quiet m _ stop hmoves hrests hstop =>
      rw [List.append_nil]
      have hkept : t.marks = m.marks ∧ t.returnNode = m.returnNode := by
        cases hrests with
        | outcome _ =>
            obtain ⟨_, _, _, hscore⟩ := story.exists_value_score_eq m
            rw [hscore]
            exact ⟨rfl, rfl⟩
        | fired _ _ _ => exact absurd rfl hstop
        | _ => exact ⟨rfl, rfl⟩
      refine (hs.moves hmoves).keep 0 hkept.1 ?_
      rw [Nat.zero_add]
      exact Nat.le_of_eq (congrArg (·.isSome.toNat) hkept.2)

/-- An action that gives a playthrough keeps the account. -/
theorem act (hs : story.FiringsAccounted s fired resumptions)
    (h : (story.act limit s choice source).value.result = .ok t) :
    story.FiringsAccounted t (fired ++ (story.act limit s choice source).firings)
      (resumptions + (story.resumesFrom s).toNat) := by
  rcases story.setsOut_or_quiet limit s choice source with
    ⟨m, hsets⟩ | ⟨hquiet, hresumes, s', hresult, hmarks, hreturn⟩
  · have hfires := story.fires_arrive limit m
    rw [← result_act_of_setsOut hsets, h] at hfires
    rw [firings_act_of_setsOut hsets]
    exact (hs.setOut hsets).walk hfires
  · rw [hresult] at h
    cases h
    rw [hquiet, List.append_nil]
    refine hs.keep _ hmarks ?_
    rw [hresumes, hreturn]
    simp

end FiringsAccounted

/-- An action that fails fires nothing. -/
theorem firings_act_of_error {e : RoutingError}
    (h : (story.act limit s choice source).value.result = .error e) :
    (story.act limit s choice source).firings = [] := by
  rcases story.setsOut_or_quiet limit s choice source with ⟨t, hsets⟩ | ⟨hquiet, _⟩
  · have hfires := story.fires_arrive limit t
    rw [← result_act_of_setsOut hsets, h, ← firings_act_of_setsOut hsets limit] at hfires
    generalize (story.act limit s choice source).firings = fired at hfires
    cases hfires
    rfl
  · exact hquiet

end Story
end BranchingStory
