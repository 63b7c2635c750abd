import BranchingStory.Play.Action
import BranchingStory.Proofs.Play.Steps

/-!
# What an action does

An action is without effect for one of six reasons, or it does one of five things: it goes to the
next pending stop, ends a feedback excursion, continues a narrative, leaves a feedback stop that
leads nowhere, or takes a choice.  All but the first of these let the story move on by itself.

Main results:

- `Story.acts_act`: an action does one of these things, with what the case says known.
- `Story.value_act_of_idle`: an idle action has no effect and draws nothing.
- `Story.setsOut_or_stays`: an action lets the story move on by itself at most once, and
  `Story.SetsOut` says from where.
-/

namespace BranchingStory
namespace Story

variable {story : Story} {limit : Nat} {s s' t : Playthrough} {choice : Option Choice}
  {source : Source}

/-- Why an action leaves a playthrough as it is. -/
inductive Idle (story : Story) (s : Playthrough) (choice : Option Choice) : Prop
  | nowhere (hnode : story.node? s.node = none)
  /-- The next stop has no id, and nothing says where to go on. -/
  | lostStop {node : Node} {rest : List String} (hnode : story.node? s.node = some node)
      (hqueue : s.queue = "" :: rest) (hreturn : s.returnNode = none)
  | ending {text : NodeText} {next : Option String} {nextByLocation : Option (Table String)}
      (hnode : story.node? s.node = some (.narrative text next nextByLocation))
      (hqueue : s.queue = [])
      (hnext : (Node.narrative text next nextByLocation).successor? s.location = none)
      (hreturn : s.returnNode = none)
  | undecided {text : NodeText} {choices : List Choice}
      (hnode : story.node? s.node = some (.decision text choices)) (hqueue : s.queue = [])
      (hchoice : choice = none)
  | rejected {text : NodeText} {choices : List Choice} {chosen : Choice}
      (hnode : story.node? s.node = some (.decision text choices)) (hqueue : s.queue = [])
      (hchoice : choice = some chosen) (hclosed : chosen.isOpenTo s = false)
  | notWaiting {node : Node} (hnode : story.node? s.node = some node) (hqueue : s.queue = [])
      (hwaits : node.isInteractive = false)

/-- What an action does with a playthrough. -/
inductive Acts (story : Story) (limit : Nat) (s : Playthrough) (choice : Option Choice)
    (source : Source) : Except RoutingError Playthrough → Prop
  | idle (hidle : story.Idle s choice) : Acts story limit s choice source (.ok s)
  | nextStop {node : Node} {stop : String} {rest : List String}
      (hnode : story.node? s.node = some node) (hqueue : s.queue = stop :: rest)
      (hstop : stop ≠ "") :
      Acts story limit s choice source (.ok { s with node := stop, queue := rest })
  | resumed {node : Node} {rest : List String} {resume : String}
      (hnode : story.node? s.node = some node) (hqueue : s.queue = "" :: rest)
      (hreturn : s.returnNode = some resume) :
      Acts story limit s choice source
        (story.arrive limit { s with queue := [], returnNode := none, node := resume }).value
  | continued {text : NodeText} {next : Option String} {nextByLocation : Option (Table String)}
      {target : String} (hnode : story.node? s.node = some (.narrative text next nextByLocation))
      (hqueue : s.queue = [])
      (hnext : (Node.narrative text next nextByLocation).successor? s.location = some target) :
      Acts story limit s choice source
        (story.arrive limit
          { s with history := s.history ++ [⟨s.node, none⟩], node := target }).value
  | leftFeedback {text : NodeText} {next : Option String} {nextByLocation : Option (Table String)}
      {resume : String} (hnode : story.node? s.node = some (.narrative text next nextByLocation))
      (hqueue : s.queue = [])
      (hnext : (Node.narrative text next nextByLocation).successor? s.location = none)
      (hreturn : s.returnNode = some resume) :
      Acts story limit s choice source
        (story.arrive limit {
          s with
          history := s.history ++ [⟨s.node, none⟩]
          returnNode := none
          node := resume }).value
  | chose {text : NodeText} {choices : List Choice} {chosen : Choice}
      (hnode : story.node? s.node = some (.decision text choices)) (hqueue : s.queue = [])
      (hchoice : choice = some chosen) (hopen : chosen.isOpenTo s = true) :
      Acts story limit s choice source
        (story.arrive limit (chosen.take story.bounds s source).value.1).value

/-- A pending stop is visited, or its excursion ends. -/
theorem acts_visitStop {node : Node} {stop : String} {rest : List String}
    (hnode : story.node? s.node = some node) (hqueue : s.queue = stop :: rest) :
    story.Acts limit s choice source (story.visitStop limit s stop rest).value := by
  unfold visitStop
  by_cases hstop : stop = ""
  · subst hstop
    cases hreturn : s.returnNode with
    | none => exact .idle (.lostStop hnode hqueue hreturn)
    | some resume => exact .resumed hnode hqueue hreturn
  · rw [if_pos hstop]
    exact .nextStop hnode hqueue hstop

/-- A narrative leads on, back from feedback, or nowhere. -/
theorem acts_continueFrom {text : NodeText} {next : Option String}
    {nextByLocation : Option (Table String)}
    (hnode : story.node? s.node = some (.narrative text next nextByLocation))
    (hqueue : s.queue = []) :
    story.Acts limit s choice source
      (story.continueFrom limit s
        ((Node.narrative text next nextByLocation).successor? s.location)).value := by
  unfold continueFrom
  cases hnext : (Node.narrative text next nextByLocation).successor? s.location with
  | some target => exact .continued hnode hqueue hnext
  | none =>
      cases hreturn : s.returnNode with
      | some resume => exact .leftFeedback hnode hqueue hnext hreturn
      | none => exact .idle (.ending hnode hqueue hnext hreturn)

/-- A choice is rejected or taken. -/
theorem acts_decide {text : NodeText} {choices : List Choice} {chosen : Choice}
    (hnode : story.node? s.node = some (.decision text choices)) (hqueue : s.queue = []) :
    story.Acts limit s (some chosen) source (story.decide limit s chosen source).value.result := by
  unfold decide
  cases hopen : chosen.isOpenTo s with
  | false => exact .idle (.rejected hnode hqueue rfl hopen)
  | true => exact .chose hnode hqueue rfl hopen

/-- The result of an action is that of one of the cases. -/
theorem acts_act (story : Story) (limit : Nat) (s : Playthrough) (choice : Option Choice)
    (source : Source) :
    story.Acts limit s choice source (story.act limit s choice source).value.result := by
  unfold act
  cases hnode : story.node? s.node with
  | none => exact .idle (.nowhere hnode)
  | some node =>
      cases hqueue : s.queue with
      | cons stop rest => exact acts_visitStop hnode hqueue
      | nil =>
          cases node with
          | narrative text next nextByLocation => exact acts_continueFrom hnode hqueue
          | decision text choices =>
              cases choice with
              | none => exact .idle (.undecided hnode hqueue rfl)
              | some chosen => exact acts_decide hnode hqueue
          | router branches fallback => exact .idle (.notWaiting hnode hqueue rfl)
          | fanout branches resume => exact .idle (.notWaiting hnode hqueue rfl)
          | outcome text => exact .idle (.notWaiting hnode hqueue rfl)

/-! ## Setting out -/

/-- The playthrough from which an action lets the story move on by itself. -/
inductive SetsOut (story : Story) (s : Playthrough) (choice : Option Choice) (source : Source) :
    Playthrough → Prop
  /-- After an excursion that a stop without an id has ended. -/
  | resumed {node : Node} {rest : List String} {resume : String}
      (hnode : story.node? s.node = some node) (hqueue : s.queue = "" :: rest)
      (hreturn : s.returnNode = some resume) :
      SetsOut story s choice source { s with queue := [], returnNode := none, node := resume }
  | continued {text : NodeText} {next : Option String} {nextByLocation : Option (Table String)}
      {target : String} (hnode : story.node? s.node = some (.narrative text next nextByLocation))
      (hqueue : s.queue = [])
      (hnext : (Node.narrative text next nextByLocation).successor? s.location = some target) :
      SetsOut story s choice source
        { s with history := s.history ++ [⟨s.node, none⟩], node := target }
  | leftFeedback {text : NodeText} {next : Option String} {nextByLocation : Option (Table String)}
      {resume : String} (hnode : story.node? s.node = some (.narrative text next nextByLocation))
      (hqueue : s.queue = [])
      (hnext : (Node.narrative text next nextByLocation).successor? s.location = none)
      (hreturn : s.returnNode = some resume) :
      SetsOut story s choice source {
        s with
        history := s.history ++ [⟨s.node, none⟩]
        returnNode := none
        node := resume }
  | chose {text : NodeText} {choices : List Choice} {chosen : Choice}
      (hnode : story.node? s.node = some (.decision text choices)) (hqueue : s.queue = [])
      (hchoice : choice = some chosen) (hopen : chosen.isOpenTo s = true) :
      SetsOut story s choice source (chosen.take story.bounds s source).value.1

/-- An action is idle, or it lets the story move on by itself, or it goes to the next pending
stop. -/
theorem idle_or_setsOut_or_nextStop (story : Story) (limit : Nat) (s : Playthrough)
    (choice : Option Choice) (source : Source) :
    story.Idle s choice ∨
      (∃ t, story.SetsOut s choice source t ∧
        (story.act limit s choice source).value.result = (story.arrive limit t).value) ∨
      ∃ stop rest, s.queue = stop :: rest ∧
        (story.act limit s choice source).value.result =
          .ok { s with node := stop, queue := rest } := by
  have hacts := story.acts_act limit s choice source
  generalize (story.act limit s choice source).value.result = result at hacts ⊢
  cases hacts with
  | idle hidle => exact Or.inl hidle
  | nextStop _ hqueue _ => exact Or.inr (Or.inr ⟨_, _, hqueue, rfl⟩)
  | resumed hnode hqueue hreturn => exact Or.inr (Or.inl ⟨_, .resumed hnode hqueue hreturn, rfl⟩)
  | continued hnode hqueue hnext => exact Or.inr (Or.inl ⟨_, .continued hnode hqueue hnext, rfl⟩)
  | leftFeedback hnode hqueue hnext hreturn =>
      exact Or.inr (Or.inl ⟨_, .leftFeedback hnode hqueue hnext hreturn, rfl⟩)
  | chose hnode hqueue hchoice hopen =>
      exact Or.inr (Or.inl ⟨_, .chose hnode hqueue hchoice hopen, rfl⟩)

/-- An idle action has no effect and draws nothing. -/
theorem value_act_of_idle (h : story.Idle s choice) (limit : Nat) (source : Source) :
    (story.act limit s choice source).value = ⟨.ok s, source⟩ := by
  cases h with
  | nowhere hnode => simp [act, hnode]
  | lostStop hnode hqueue hreturn => simp [act, visitStop, hnode, hqueue, hreturn]
  | ending hnode hqueue hnext hreturn =>
      simp [act, continueFrom, hnode, hqueue, hnext, hreturn]
  | undecided hnode hqueue hchoice => simp [act, hnode, hqueue, hchoice]
  | rejected hnode hqueue hchoice hclosed =>
      simp [act, Story.decide, hnode, hqueue, hchoice, hclosed]
  | @notWaiting node hnode hqueue hwaits =>
      cases node <;> simp_all [act, Node.isInteractive]

/-- An action lets the story move on by itself, or it leaves the playthrough as it is, or it goes to
the next pending stop. -/
theorem setsOut_or_stays (story : Story) (limit : Nat) (s : Playthrough) (choice : Option Choice)
    (source : Source) :
    (∃ t, story.SetsOut s choice source t ∧
        (story.act limit s choice source).value.result = (story.arrive limit t).value) ∨
      (story.act limit s choice source).value.result = .ok s ∨
      ∃ stop rest, s.queue = stop :: rest ∧
        (story.act limit s choice source).value.result =
          .ok { s with node := stop, queue := rest } := by
  rcases story.idle_or_setsOut_or_nextStop limit s choice source with hidle | hsets | hnext
  · exact Or.inr (Or.inl (by rw [value_act_of_idle hidle]))
  · exact Or.inl hsets
  · exact Or.inr (Or.inr hnext)

/-- The story moves on from where the action sets out. -/
theorem result_act_of_setsOut (h : story.SetsOut s choice source t) (limit : Nat) :
    (story.act limit s choice source).value.result = (story.arrive limit t).value := by
  cases h with
  | resumed hnode hqueue hreturn => simp [act, visitStop, hnode, hqueue, hreturn]
  | continued hnode hqueue hnext => simp [act, continueFrom, leaveFor, hnode, hqueue, hnext]
  | leftFeedback hnode hqueue hnext hreturn =>
      simp [act, continueFrom, leaveFor, hnode, hqueue, hnext, hreturn]
  | chose hnode hqueue hchoice hopen =>
      subst hchoice
      simp [act, Story.decide, hnode, hqueue, hopen]

/-- No stop is pending where an action sets out. -/
theorem SetsOut.queue_eq_nil (h : story.SetsOut s choice source t) : t.queue = [] := by
  cases h with
  | resumed _ _ _ => rfl
  | continued _ hqueue _ => exact hqueue
  | leftFeedback _ hqueue _ _ => exact hqueue
  | chose _ hqueue _ _ => exact hqueue

end Story
end BranchingStory
