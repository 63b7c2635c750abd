import BranchingStory.Lint.Report

/-!
# Stories that the lint lets play

A report clears a story for play if it lists no error, no router without a default, and no feedback
at a node that does not wait for the player.  Such a report says four things about the graph of the
story, and these are all that play relies on.

Main results:

- `Story.mem_errors_of_mem_lint`, `Story.mem_warnings_of_mem_lint`: every finding is reported.
- `Story.mem_lint_of_mem_checkNode`: the findings at a node are findings of the story.
- `Story.playable_of_clearsPlay`: a report that clears play is right about the graph.
- `Story.successor?_ne_none_of_isClean`: after a clean report every narrative leads on.
-/

namespace BranchingStory

/-!
## What a report tells about a story

A report lists messages.  A finding of an error puts its message among the errors, any other finding
among the warnings; so a report without a message rules out the findings with that message.
-/

namespace Story

variable {story : Story} {start id : String} {node : Node} {finding : Finding}

/-- The message of a finding of an error is among the errors. -/
theorem mem_errors_of_mem_lint (hmem : finding ∈ story.lint start)
    (herror : finding.isError = true) :
    finding.message ∈ (story.lintReport start).errors :=
  List.mem_map_of_mem (List.mem_filter.mpr ⟨hmem, herror⟩)

/-- The message of any other finding is among the warnings. -/
theorem mem_warnings_of_mem_lint (hmem : finding ∈ story.lint start)
    (herror : finding.isError = false) :
    finding.message ∈ (story.lintReport start).warnings :=
  List.mem_map_of_mem (List.mem_filter.mpr ⟨hmem, by simp [herror]⟩)

/-- A finding at a node is a finding of the story. -/
theorem mem_lint_of_mem_checkNode (hnode : story.node? id = some node)
    (hmem : finding ∈ story.checkNode id node) : finding ∈ story.lint start := by
  have hfound : ∃ id node, (id, node) ∈ story.nodes.toList ∧ finding ∈ story.checkNode id node :=
    ⟨id, node, Table.mem_toList_iff.mpr hnode, hmem⟩
  unfold lint
  simp [hfound]

/-- A start that is no node is found. -/
theorem missingStart_mem_lint (h : story.node? start = none) :
    .missingStart start ∈ story.lint start := by
  unfold lint checkStart
  simp [h]

/-- Every cycle of routers that the search comes across is found. -/
theorem routerCycle_mem_lint {cycle : List String} (h : cycle ∈ story.routerCycles) :
    .routerCycle cycle ∈ story.lint start := by
  unfold lint
  simp [h]

end Story

/-- The report has nothing that can stop a game: no error, and neither of two warnings. -/
structure LintReport.ClearsPlay (report : LintReport) : Prop where
  errors : report.errors = []
  defaults : ∀ node, "Router '" ++ node ++ "' has no default_next" ∉ report.warnings
  feedback : ∀ node target,
    "Multi-router '" ++ node ++ "'" ++ " sends feedback to non-interactive node '" ++ target ++ "'"
      ∉ report.warnings

namespace Story

/-- An id names a node. -/
def Has (story : Story) (id : String) : Prop :=
  ∃ node, story.node? id = some node

/-- An id names a node that waits for the player. -/
def WaitsAt (story : Story) (id : String) : Prop :=
  ∃ node, story.node? id = some node ∧ node.isInteractive = true

/-- The graph of a story in which a game cannot get lost. -/
structure Playable (story : Story) : Prop where
  /-- Every way on leads to a node, and none is left empty. -/
  successors : ∀ {id node target}, story.node? id = some node → target ∈ node.successors →
    target ≠ "" ∧ story.Has target
  defaults : ∀ {id branches}, story.node? id ≠ some (.router branches none)
  feedback : ∀ {id branches resume branch}, story.node? id = some (.fanout branches resume) →
    branch ∈ branches → story.WaitsAt branch.next
  cycles : story.routerCycles = []

variable {story : Story} {start id target location : String} {node : Node} {finding : Finding}

/-- Where the story waits there is a node. -/
theorem WaitsAt.has (h : story.WaitsAt id) : story.Has id := by
  obtain ⟨node, hnode, -⟩ := h
  exact ⟨node, hnode⟩

/-! ### What the findings say -/

/-- A report without errors comes from findings without errors. -/
theorem not_mem_lint_of_errors (h : (story.lintReport start).errors = [])
    (herror : finding.isError = true) : finding ∉ story.lint start := by
  intro hmem
  have hmessage := mem_errors_of_mem_lint hmem herror
  rw [h] at hmessage
  exact List.not_mem_nil hmessage

/-- A way on to the empty id is found. -/
theorem emptySuccessor_mem_checkNode (htarget : "" ∈ node.successors) :
    .emptySuccessor id ∈ story.checkNode id node := by
  have hfound : .emptySuccessor id ∈ story.checkSuccessors id node :=
    List.mem_flatMap.mpr ⟨"", htarget, by simp⟩
  simp [checkNode, hfound]

/-- A way on to an id without a node is found. -/
theorem unknownSuccessor_mem_checkNode (htarget : target ∈ node.successors) (hempty : target ≠ "")
    (hnode : story.node? target = none) :
    .unknownSuccessor id target ∈ story.checkNode id node := by
  have hfound : .unknownSuccessor id target ∈ story.checkSuccessors id node :=
    List.mem_flatMap.mpr ⟨target, htarget, by simp [hempty, hnode]⟩
  simp [checkNode, hfound]

/-- A router without a default is found. -/
theorem noDefault_mem_checkNode (branches : List Branch) :
    .noDefault id ∈ story.checkNode id (.router branches none) := by
  simp [checkNode, checkShape]

/-- A stop at which the player cannot act is found. -/
theorem restlessFeedback_mem_checkNode {branches : List Branch} {resume : String} {branch : Branch}
    (hbranch : branch ∈ branches) (hrestless : story.isRestless branch.next = true) :
    .restlessFeedback (.fanout id) branch.next
      ∈ story.checkNode id (.fanout branches resume) := by
  have hfound : .restlessFeedback (.fanout id) branch.next
      ∈ story.checkShape id (.fanout branches resume) :=
    List.mem_map.mpr ⟨branch, List.mem_filter.mpr ⟨hbranch, hrestless⟩, rfl⟩
  simp [checkNode, hfound]

/-- A narrative that leads nowhere from some location is found. -/
theorem noSuccessor_mem_checkNode {text : NodeText} {nextByLocation : Option (Table String)}
    (hlocation : location ∈ story.locations.keys)
    (hnone : (Node.narrative text none nextByLocation).successor? location = none) :
    .noSuccessor id (story.locationsWithoutSuccessor (.narrative text none nextByLocation))
      ∈ story.checkNode id (.narrative text none nextByLocation) := by
  have hlocations : story.locationsWithoutSuccessor (.narrative text none nextByLocation) ≠ [] := by
    refine List.ne_nil_of_mem (a := location) ?_
    exact List.mem_filter.mpr ⟨hlocation, by simp [hnone]⟩
  simp [checkNode, checkShape, hlocations]

/-! ### What a report says about the graph -/

/-- A story without errors has a node for every way on. -/
theorem has_successor_of_errors (h : (story.lintReport start).errors = [])
    (hnode : story.node? id = some node) (htarget : target ∈ node.successors) :
    target ≠ "" ∧ story.Has target := by
  have hempty : target ≠ "" := by
    rintro rfl
    exact not_mem_lint_of_errors h rfl
      (mem_lint_of_mem_checkNode hnode (emptySuccessor_mem_checkNode htarget))
  refine ⟨hempty, ?_⟩
  cases hfound : story.node? target with
  | some next => exact ⟨next, hfound⟩
  | none =>
      exact absurd (mem_lint_of_mem_checkNode hnode
        (unknownSuccessor_mem_checkNode htarget hempty hfound)) (not_mem_lint_of_errors h rfl)

/-- A report that clears play is right about the graph. -/
theorem playable_of_clearsPlay (h : (story.lintReport start).ClearsPlay) : story.Playable where
  successors hnode htarget := has_successor_of_errors h.errors hnode htarget
  defaults {id branches} hnode :=
    h.defaults id (mem_warnings_of_mem_lint
      (mem_lint_of_mem_checkNode hnode (noDefault_mem_checkNode branches)) rfl)
  feedback {id branches resume branch} hnode hbranch := by
    have htarget : branch.next ∈ (Node.fanout branches resume).successors :=
      List.mem_append_left _ (List.mem_map_of_mem hbranch)
    obtain ⟨-, next, hnext⟩ := has_successor_of_errors h.errors hnode htarget
    cases hwaits : next.isInteractive with
    | true => exact ⟨next, hnext, hwaits⟩
    | false =>
        have hrestless : story.isRestless branch.next = true := by simp [isRestless, hnext, hwaits]
        exact absurd (mem_warnings_of_mem_lint
          (mem_lint_of_mem_checkNode hnode (restlessFeedback_mem_checkNode hbranch hrestless)) rfl)
          (h.feedback id branch.next)
  cycles := by
    refine List.eq_nil_iff_forall_not_mem.mpr fun cycle hcycle => ?_
    exact not_mem_lint_of_errors h.errors rfl (routerCycle_mem_lint hcycle)

/-- A report that clears play has the start among the nodes. -/
theorem has_start_of_clearsPlay (h : (story.lintReport start).ClearsPlay) : story.Has start := by
  cases hstart : story.node? start with
  | some node => exact ⟨node, hstart⟩
  | none =>
      exact absurd (missingStart_mem_lint hstart) (not_mem_lint_of_errors h.errors rfl)

/-- A clean report has no warning. -/
theorem warnings_of_isClean (h : (story.lintReport start).isClean = true) :
    (story.lintReport start).warnings = [] := by
  simp only [LintReport.isClean, Bool.and_eq_true, List.isEmpty_iff] at h
  exact h.2

/-- After a clean report every narrative leads on from every location. -/
theorem successor?_ne_none_of_isClean {text : NodeText} {next : Option String}
    {nextByLocation : Option (Table String)} (h : (story.lintReport start).isClean = true)
    (hnode : story.node? id = some (.narrative text next nextByLocation))
    (hlocation : location ∈ story.locations.keys) :
    (Node.narrative text next nextByLocation).successor? location ≠ none := by
  intro hnone
  cases next with
  | some target => simp [Node.successor?] at hnone
  | none =>
      have hfound : .noSuccessor id _ ∈ story.lint start :=
        mem_lint_of_mem_checkNode hnode (noSuccessor_mem_checkNode hlocation hnone)
      have hwarning := mem_warnings_of_mem_lint hfound rfl
      rw [warnings_of_isClean h] at hwarning
      exact List.not_mem_nil hwarning

end Story
end BranchingStory
