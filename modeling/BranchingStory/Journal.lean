import BranchingStory.Condition.Eval

/-!
# The journal

What the engine notes while it works, results that come with such notes, and the tests of
conditions, which are noted whatever comes of them.

Main results:

- `Traced.value_bind`, `Traced.events_bind`: the laws by which results and events are computed.
- `value_testing`: a test gives whether the condition holds.
-/

namespace BranchingStory

/-!
## Events

What the engine notes while it works.  Every test of a condition is an event, whether it succeeds or
not; the log shows only those that failed.  The other events are shown as one line each, headed by
their weight.
-/

/-- Something that the engine notes. -/
inductive Event where
  | tested (condition : String) (result : Except Condition.Error Bool)
  | nothingEligible
  | drew (draw : Float) (picked eligible : Nat)
  | nodeMissing (node : String)
  | routed (router target : String)
  | routedByDefault (router target : String)
  | routerStuck (router : String)
  | alreadyFired (router : String)
  | fired (router first : String) (queued : Nat)
  | alreadyScored (node : String)
  | noOutcome (node : String)
  | scored (outcome : Option String) (node : String) (score maxScore : Amount)
  | actedNowhere (node : String)
  | feedbackStop (node stop : String)
  | storyEnds (node location : String)
  | rejected (option node : String)
  | chose (option node target : String)
  | noSuchOption (option node : String)
  | gameStarted (persona location : String)
  | startMissing (node : String)

namespace Event

/-- The line that the log shows for an event. -/
def line? : Event → Option String
  | tested condition (.error e) =>
      some ("WARN condition `" ++ condition ++ "` failed: " ++ e.message)
  | tested _ (.ok _) => none
  | nothingEligible => some "DEBUG probability table has no eligible entries"
  | drew draw picked eligible =>
      some ("DEBUG probability draw " ++ fixedText 4 draw ++ " picked entry " ++ toString picked
        ++ " of " ++ toString eligible ++ " eligible")
  | nodeMissing node => some ("WARN node '" ++ node ++ "' not found in catalog")
  | routed router target => some ("DEBUG router '" ++ router ++ "' -> '" ++ target ++ "'")
  | routedByDefault router target =>
      some ("DEBUG router '" ++ router ++ "' -> '" ++ target ++ "' (default)")
  | routerStuck router =>
      some ("WARN router '" ++ router ++ "' matched nothing and has no default")
  | alreadyFired router => some ("DEBUG multi-router '" ++ router ++ "' already fired")
  | fired router first queued =>
      some ("DEBUG multi-router '" ++ router ++ "' -> '" ++ first ++ "' with " ++ toString queued
        ++ " queued")
  | alreadyScored node => some ("DEBUG state at '" ++ node ++ "' already scored")
  | noOutcome node => some ("WARN no outcome rule matched at node '" ++ node ++ "'")
  | scored outcome node score maxScore =>
      some ("INFO outcome " ++ quotedOption outcome ++ " reached at '" ++ node ++ "', literacy "
        ++ score.text ++ "/" ++ maxScore.text)
  | actedNowhere node => some ("WARN action on unknown node '" ++ node ++ "'")
  | feedbackStop node stop => some ("DEBUG feedback '" ++ node ++ "' -> '" ++ stop ++ "'")
  | storyEnds node location =>
      some ("WARN narrative '" ++ node ++ "' has no successor for location '" ++ location ++ "'")
  | rejected option node => some ("DEBUG option '" ++ option ++ "' rejected at '" ++ node ++ "'")
  | chose option node target =>
      some ("DEBUG option '" ++ option ++ "' at '" ++ node ++ "' -> '" ++ target ++ "'")
  | noSuchOption option node => some ("DEBUG no option '" ++ option ++ "' at '" ++ node ++ "'")
  | gameStarted persona location => some ("INFO new game: " ++ persona ++ " at " ++ location)
  | startMissing node => some ("WARN start node '" ++ node ++ "' is not in the catalog")

end Event

/-!
## Results with their events

A `Traced α` is a result together with the events noted on the way to it, in order.  It is a monad:
a sequence of steps notes the events of all its steps.  The events never influence the result.
-/

/-- A result together with the events noted on the way to it. -/
structure Traced (α : Type) where
  value : α
  events : List Event

namespace Traced

variable {α β : Type}

instance : Monad Traced where
  pure a := ⟨a, []⟩
  bind x f := ⟨(f x.value).value, x.events ++ (f x.value).events⟩

@[simp]
theorem value_pure (a : α) : (pure a : Traced α).value = a :=
  rfl

@[simp]
theorem events_pure (a : α) : (pure a : Traced α).events = [] :=
  rfl

@[simp]
theorem value_bind (x : Traced α) (f : α → Traced β) : (x >>= f).value = (f x.value).value :=
  rfl

@[simp]
theorem events_bind (x : Traced α) (f : α → Traced β) :
    (x >>= f).events = x.events ++ (f x.value).events :=
  rfl

@[simp]
theorem value_map (f : α → β) (x : Traced α) : (f <$> x).value = f x.value :=
  rfl

@[simp]
theorem events_map (f : α → β) (x : Traced α) : (f <$> x).events = x.events :=
  List.append_nil _

/-- Note an event. -/
def note (e : Event) : Traced Unit :=
  ⟨(), [e]⟩

@[simp]
theorem value_note (e : Event) : (note e).value = () :=
  rfl

@[simp]
theorem events_note (e : Event) : (note e).events = [e] :=
  rfl

/-- The lines that the log shows for the events. -/
def log (x : Traced α) : List String :=
  x.events.filterMap Event.line?

/-! ### Searching with a traced test -/

/-- The first element that passes a test; no later element is tested. -/
def find? (test : α → Traced Bool) : List α → Traced (Option α)
  | [] => pure none
  | a :: rest => do
      if ← test a then return some a
      find? test rest

@[simp]
theorem value_find? (test : α → Traced Bool) (l : List α) :
    (find? test l).value = l.find? fun a => (test a).value := by
  induction l with
  | nil => rfl
  | cons a rest ih =>
      rw [find?, value_bind]
      cases h : (test a).value with
      | true => simp [h]
      | false => simp [h, ih]

/-- The elements that pass a test, all of them tested in order. -/
def filter (test : α → Traced Bool) : List α → Traced (List α)
  | [] => pure []
  | a :: rest => do
      let passes ← test a
      let others ← filter test rest
      return if passes then a :: others else others

@[simp]
theorem value_filter (test : α → Traced Bool) (l : List α) :
    (filter test l).value = l.filter fun a => (test a).value := by
  induction l with
  | nil => rfl
  | cons a rest ih =>
      rw [filter, value_bind, value_bind, ih, value_pure]
      cases h : (test a).value <;> simp [h]

end Traced

/-!
## Testing conditions

Play never stops at a broken condition: one that has no value counts as false and is noted.
-/

/-- Whether a condition holds in a playthrough; a condition without a value does not hold. -/
def holds (s : Playthrough) (condition : String) : Bool :=
  match Condition.test s condition with
  | .ok b => b
  | .error _ => false

/-- Test a condition and note the test. -/
def testing (s : Playthrough) (condition : String) : Traced Bool :=
  ⟨holds s condition, [.tested condition (Condition.test s condition)]⟩

@[simp]
theorem value_testing (s : Playthrough) (condition : String) :
    (testing s condition).value = holds s condition :=
  rfl

/-- Test a condition that may be absent; an absent one has the given answer. -/
def testingOr (absent : Bool) (s : Playthrough) : Option String → Traced Bool
  | some condition => testing s condition
  | none => pure absent

@[simp]
theorem value_testingOr (absent : Bool) (s : Playthrough) (condition : Option String) :
    (testingOr absent s condition).value = (condition.map (holds s)).getD absent := by
  cases condition <;> rfl

end BranchingStory
