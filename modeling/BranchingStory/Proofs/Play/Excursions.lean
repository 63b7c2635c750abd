import BranchingStory.Proofs.Lint.Playable
import BranchingStory.Proofs.Play.Turns
import BranchingStory.Proofs.Story.Plain

/-!
# The way through a feedback excursion

A fan-out router sends the player to the stops whose conditions hold.  Whatever is chosen, each
action then goes to the next stop, in authored order, as long as the stops are nodes.  From the
last one, a narrative that leads nowhere goes on where the router says.

Main results:

- `Story.actAll_of_stops`: so many actions, so many stops further.
- `Story.actAll_of_not_has`: where there is no node, no number of actions has an effect.
- `Story.excursion_of_fanout`: a whole excursion, from the router to where the story goes on.
-/

namespace BranchingStory

/-- The playthrough that a fan-out router has sent to its stops. -/
def Playthrough.onExcursion (s : Playthrough) (first : String) (others : List String)
    (resume : String) : Playthrough :=
  { s with
    marks := s.marks.insert s.node
    queue := others
    returnNode := some resume
    node := first }

namespace Story

variable {story : Story} {limit : Nat} {s s' : Playthrough} {source source' : Source}
  {choices : List (Option Choice)} {next resume first : String} {rest others visited : List String}
  {branches : List Branch}

/-! ## Several actions -/

/-- Apply actions one after the other.  The first that fails is the last. -/
def actAll (story : Story) (limit : Nat) : List (Option Choice) → Playthrough → Source → Turn
  | [], s, source => ⟨.ok s, source⟩
  | choice :: choices, s, source =>
      let turn := (story.act limit s choice source).value
      match turn.result with
      | .ok s' => story.actAll limit choices s' turn.source
      | .error e => ⟨.error e, turn.source⟩

/-- After an action that succeeds, the others go on from where it has led to. -/
theorem actAll_cons {choice : Option Choice}
    (h : (story.act limit s choice source).value = ⟨.ok s', source'⟩)
    (choices : List (Option Choice)) :
    story.actAll limit (choice :: choices) s source = story.actAll limit choices s' source' := by
  simp [actAll, h]

/-- One action is a sequence of one. -/
theorem actAll_singleton (choice : Option Choice) :
    story.actAll limit [choice] s source = (story.act limit s choice source).value := by
  simp only [actAll]
  cases hturn : (story.act limit s choice source).value with
  | mk result source' => cases result <;> rfl

/-- More actions go on from where the ones before them have led to. -/
theorem actAll_append (h : story.actAll limit choices s source = ⟨.ok s', source'⟩)
    (more : List (Option Choice)) :
    story.actAll limit (choices ++ more) s source = story.actAll limit more s' source' := by
  induction choices generalizing s source with
  | nil =>
      cases h
      rfl
  | cons choice choices ih =>
      simp only [actAll] at h
      split at h
      · rename_i t hresult
        simp only [List.cons_append, actAll, hresult]
        exact ih h
      · cases h

/-! ## Pending stops -/

/-- The next pending stop is visited, whatever is chosen, and nothing is drawn. -/
theorem value_act_of_queue (hnode : story.Has s.node) (hqueue : s.queue = next :: rest)
    (hnext : next ≠ "") (choice : Option Choice) (source : Source) :
    (story.act limit s choice source).value =
      ⟨.ok { s with node := next, queue := rest }, source⟩ := by
  obtain ⟨node, hnode⟩ := hnode
  simp [act, visitStop, hnode, hqueue, hnext]

/-- Where there is no node, an action has no effect. -/
theorem value_act_of_not_has (hnode : ¬ story.Has s.node) (choice : Option Choice)
    (source : Source) : (story.act limit s choice source).value = ⟨.ok s, source⟩ := by
  have hnone : story.node? s.node = none := by
    apply Option.eq_none_iff_forall_not_mem.mpr
    intro node hmem
    exact hnode ⟨node, hmem⟩
  simp [act, hnone]

/-- Where there is no node, no number of actions has an effect. -/
theorem actAll_of_not_has (hnode : ¬ story.Has s.node) (choices : List (Option Choice))
    (source : Source) : story.actAll limit choices s source = ⟨.ok s, source⟩ := by
  induction choices with
  | nil => rfl
  | cons choice choices ih =>
      have hact : (story.act limit s choice source).value = ⟨.ok s, source⟩ :=
        value_act_of_not_has hnode choice source
      rw [actAll_cons hact, ih]

/-- If the player is at a stop and the pending stops are nodes, each action goes one stop further,
and only the node and the pending stops change. -/
theorem actAll_of_stops (hnode : story.Has s.node)
    (hstops : ∀ stop ∈ s.queue, stop ≠ "" ∧ story.Has stop)
    (hsplit : s.node :: s.queue = visited ++ next :: rest)
    (hlength : choices.length = visited.length) (source : Source) :
    story.actAll limit choices s source =
      ⟨.ok { s with node := next, queue := rest }, source⟩ := by
  induction visited generalizing s choices with
  | nil =>
      obtain ⟨rfl, rfl⟩ := List.cons.inj hsplit
      have hnil : choices = [] := List.eq_nil_of_length_eq_zero hlength
      rw [hnil]
      rfl
  | cons first visited ih =>
      obtain ⟨choice, choices, rfl⟩ := List.exists_cons_of_length_eq_add_one hlength
      have hlength' : choices.length = visited.length := by simpa using hlength
      have hqueue : s.queue = visited ++ next :: rest := (List.cons.inj hsplit).2
      -- The queue is not empty, as `next` is in it.
      obtain ⟨second, later, hsecond⟩ : ∃ second later, s.queue = second :: later := by
        apply List.exists_cons_of_ne_nil
        simp [hqueue]
      have hstop := hstops second (by simp [hsecond])
      have hact : (story.act limit s choice source).value =
          ⟨.ok { s with node := second, queue := later }, source⟩ :=
        value_act_of_queue hnode hsecond hstop.1 choice source
      rw [actAll_cons hact]
      refine ih (s := { s with node := second, queue := later }) hstop.2 ?_ ?_ hlength'
      · intro stop hmem
        exact hstops stop (by simp [hsecond, show stop ∈ later from hmem])
      · rw [← hqueue, hsecond]

/-! ## The whole way -/

/-- A step that comes to rest is all of the way, if a router may be passed. -/
theorem value_advance_of_rests {stop : Stop} (h : story.Rests s stop s') (hlimit : 0 < limit) :
    (story.advance limit s).value = ⟨.ok stop, s'⟩ := by
  obtain ⟨hops, rfl⟩ : ∃ hops, limit = hops + 1 := Nat.exists_eq_add_one.mpr hlimit
  rw [value_advance, value_walk_succ, value_step_of_rests h]

/-- A feedback stop that leads nowhere is left for where the story goes on. -/
theorem value_act_of_leftFeedback {text : NodeText} {successor : Option String}
    {nextByLocation : Option (Table String)}
    (hnode : story.node? s.node = some (.narrative text successor nextByLocation))
    (hqueue : s.queue = [])
    (hnone : (Node.narrative text successor nextByLocation).successor? s.location = none)
    (hreturn : s.returnNode = some resume) (choice : Option Choice) (source : Source) :
    (story.act limit s choice source).value =
      ⟨(story.arrive limit {
        s with
        history := s.history ++ [⟨s.node, none⟩]
        returnNode := none
        node := resume }).value, source⟩ := by
  simp [act, continueFrom, leaveFor, hnode, hqueue, hnone, hreturn]

/-- A fan-out router that has not fired sends the player to the first stop whose condition holds,
and keeps the others in authored order.  If the stops are nodes, each action goes one stop further,
and the last stop, if it leads nowhere, is left for where the story goes on. -/
theorem excursion_of_fanout (hnode : story.node? s.node = some (.fanout branches resume))
    (hmark : s.node ∉ s.marks) (hlimit : 0 < limit)
    (hstops : (branches.filter fun b => (b.isTaken s).value).map Branch.next = first :: others) :
    (story.advance limit s).value = ⟨.ok .feedback, s.onExcursion first others resume⟩ ∧
      ((∀ stop ∈ first :: others, stop ≠ "" ∧ story.Has stop) →
        (∀ visited stop rest, first :: others = visited ++ stop :: rest →
          ∀ hops choices source, choices.length = visited.length →
            story.actAll hops choices (s.onExcursion first others resume) source =
              ⟨.ok { s.onExcursion first others resume with node := stop, queue := rest },
                source⟩) ∧
        ∀ visited last text successor nextByLocation, first :: others = visited ++ [last] →
          story.node? last = some (.narrative text successor nextByLocation) →
          (Node.narrative text successor nextByLocation).successor? s.location = none →
          ∀ hops choices choice source, choices.length = visited.length →
            story.actAll hops (choices ++ [choice]) (s.onExcursion first others resume) source =
              ⟨(story.arrive hops {
                s with
                marks := s.marks.insert s.node
                history := s.history ++ [⟨last, none⟩]
                queue := []
                returnNode := none
                node := resume }).value, source⟩) := by
  have hrests : story.Rests s .feedback (s.onExcursion first others resume) := by
    obtain ⟨branch, later, htaken, rfl, rfl⟩ := List.map_eq_cons_iff.mp hstops
    exact .fired hnode hmark htaken
  refine ⟨value_advance_of_rests hrests hlimit, ?_⟩
  intro hnodes
  have hvisit : ∀ visited stop rest, first :: others = visited ++ stop :: rest →
      ∀ hops choices source, choices.length = visited.length →
        story.actAll hops choices (s.onExcursion first others resume) source =
          ⟨.ok { s.onExcursion first others resume with node := stop, queue := rest }, source⟩ := by
    intro visited stop rest hsplit hops choices source hlength
    have hfirst : story.Has first := (hnodes first List.mem_cons_self).2
    have hothers : ∀ stop ∈ others, stop ≠ "" ∧ story.Has stop := by
      intro stop hstop
      exact hnodes stop (List.mem_cons_of_mem _ hstop)
    exact actAll_of_stops (s := s.onExcursion first others resume) hfirst hothers hsplit hlength
      source
  refine ⟨hvisit, ?_⟩
  intro visited last text successor nextByLocation hsplit hlast hnone hops choices choice source
    hlength
  rw [actAll_append (hvisit visited last [] hsplit hops choices source hlength) [choice],
    actAll_singleton]
  exact value_act_of_leftFeedback
    (s := { s.onExcursion first others resume with node := last, queue := [] })
    hlast rfl hnone rfl choice source

/-! ## A gate -/

/-- Nodes behind a gate: two texts, the second of which leads nowhere, and an end. -/
def gateNodes (branches : List Branch) : List (String × Node) :=
  [("END", .outcome ⟨none, ∅, ∅⟩),
    ("GATE", .fanout branches "END"),
    ("KIT", .narrative ⟨none, ∅, ∅⟩ (some "END") none),
    ("SAFE", .narrative ⟨none, ∅, ∅⟩ none none)]

/-- A story of these nodes. -/
def gateStory (branches : List Branch) : Story :=
  .plain (gateNodes branches) [⟨"S < 1", 1, "Unsafe", none⟩]

/-- Two of three conditions hold for a player without any safety. -/
def gateBranches : List Branch :=
  [⟨some "S < 1", "KIT", .none⟩, ⟨some "S > 5", "END", .none⟩, ⟨some "S < 2", "SAFE", .none⟩]

/-- In front of the gate. -/
def atGate : Playthrough :=
  .start "GATE" "Student" "River" (.uniform 0)

/-- The gate sends the player past `KIT` and `SAFE` to the end, whatever is chosen. -/
theorem excursion_of_gateStory :
    ((gateStory gateBranches).advance 1 atGate).value =
        ⟨.ok .feedback, atGate.onExcursion "KIT" ["SAFE"] "END"⟩ ∧
      ∀ choice choice' source,
        let turn := (gateStory gateBranches).actAll 1 [choice, choice']
          (atGate.onExcursion "KIT" ["SAFE"] "END") source
        turn.source = source ∧
          turn.result.toOption.map (fun s => (s.node, s.isFinished, s.history)) =
            some ("END", true, [⟨"SAFE", none⟩]) := by
  have hgate : (gateStory gateBranches).node? atGate.node = some (.fanout gateBranches "END") :=
    rfl
  have hmark : atGate.node ∉ atGate.marks := Names.not_mem_empty _
  have hstops : (gateBranches.filter fun b => (b.isTaken atGate).value).map Branch.next =
      ["KIT", "SAFE"] := by
    decide +kernel
  have hnodes : ∀ stop ∈ ["KIT", "SAFE"], stop ≠ "" ∧ (gateStory gateBranches).Has stop := by
    intro stop hstop
    rcases List.mem_cons.mp hstop with rfl | hstop
    · exact ⟨by decide, _, rfl⟩
    · rw [List.mem_singleton.mp hstop]
      exact ⟨by decide, _, rfl⟩
  obtain ⟨hadvance, hactions⟩ := excursion_of_fanout hgate hmark Nat.one_pos hstops
  refine ⟨hadvance, ?_⟩
  intro choice choice' source
  have hend := (hactions hnodes).2 ["KIT"] "SAFE" _ _ _ rfl rfl rfl 1 [choice] choice' source rfl
  rw [List.singleton_append] at hend
  rw [hend]
  -- Only the last walk is run; the way to it is the theorem's.
  refine ⟨rfl, ?_⟩
  dsimp only
  decide +kernel

end Story
end BranchingStory
