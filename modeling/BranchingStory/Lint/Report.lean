import BranchingStory.Condition.Parser
import BranchingStory.Lint.Graph

/-!
# Lint reports

Checks of a story that find what would go wrong in play.  Errors make a story unplayable on some
path; warnings are worth a look.  Findings are listed in a fixed order: the start node, every node
by its id, outcome rules, rubric, personas, locations, cycles of routers, unreachable nodes.
-/

namespace BranchingStory

/-- The part of a story that a finding is about. -/
inductive Place where
  | router (node : String)
  | fanout (node : String)
  | choice (id node : String)
  | choiceFor (id node persona : String)
  | outcomeRule (index : Nat) (result : String)
  | rubricRule (id : String)
  | persona (name : String)
  | location (name : String)
deriving DecidableEq, Repr

/-- The wording of a place. -/
def Place.text : Place → String
  | router node => "Router '" ++ node ++ "'"
  | fanout node => "Multi-router '" ++ node ++ "'"
  | choice id node => "Option '" ++ id ++ "' on '" ++ node ++ "'"
  | choiceFor id node who =>
      "Option '" ++ id ++ "' on '" ++ node ++ "' (persona '" ++ who ++ "')"
  | outcomeRule index result => "Outcome rule " ++ toString index ++ " ('" ++ result ++ "')"
  | rubricRule id => "Literacy rule '" ++ id ++ "'"
  | .persona name => "Persona '" ++ name ++ "'"
  | location name => "Location '" ++ name ++ "'"

/-- Something that a check found. -/
inductive Finding where
  | missingStart (start : String)
  | emptySuccessor (node : String)
  | unknownSuccessor (node target : String)
  | badCondition (place : Place) (condition : String) (error : Condition.Error)
  | routerCycle (cycle : List String)
  | noOutcomeRules
  | noMatcher (place : Place)
  | unknownStat (place : Place) (symbol : String)
  | unknownGate (place : Place) (symbol : String)
  | noCondition (place : Place) (target : String)
  | noSuccessor (node : String) (locations : List String)
  | noChoices (node : String)
  | noDefault (node : String)
  | restlessFeedback (place : Place) (target : String)
  | unreachable (node start : String)

namespace Finding

/-- Whether the finding is an error; otherwise it is a warning. -/
def isError : Finding → Bool
  | missingStart .. | emptySuccessor .. | unknownSuccessor .. | badCondition .. | routerCycle .. =>
      true
  | _ => false

/-- The wording of a finding. -/
def message : Finding → String
  | missingStart start => "Start node '" ++ start ++ "' does not exist"
  | emptySuccessor node => "Node '" ++ node ++ "' has an empty successor id"
  | unknownSuccessor node target =>
      "Node '" ++ node ++ "' references non-existent node '" ++ target ++ "'"
  | badCondition place condition error =>
      place.text ++ " has invalid condition `" ++ condition ++ "`: " ++ error.message
  | routerCycle cycle =>
      "Router cycle with no interactive node: " ++ " -> ".intercalate cycle
  | noOutcomeRules => "Outcome nodes exist but no outcome rules are authored"
  | noMatcher place => place.text ++ " has no matcher and can never score"
  | unknownStat place symbol => place.text ++ " adjusts unknown stat '" ++ symbol ++ "'"
  | unknownGate place symbol => place.text ++ " gates on unknown stat '" ++ symbol ++ "'"
  | noCondition place target =>
      place.text ++ " has a branch to '" ++ target ++ "' with no condition"
  | noSuccessor node locations =>
      "Narrative '" ++ node ++ "' has no successor for location(s) " ++ quotedList locations
  | noChoices node => "Decision '" ++ node ++ "' has no options"
  | noDefault node => "Router '" ++ node ++ "' has no default_next"
  | restlessFeedback place target =>
      place.text ++ " sends feedback to non-interactive node '" ++ target ++ "'"
  | unreachable node start => "Node '" ++ node ++ "' is unreachable from '" ++ start ++ "'"

end Finding

/-! ## Checks of parts -/

/-- A condition must parse. -/
def checkCondition (place : Place) (condition : String) : List Finding :=
  match Condition.Expr.parse condition with
  | .ok _ => []
  | .error e => [.badCondition place condition e]

/-- An adjustment should name stats only. -/
def checkAdjustment (place : Place) (adjustment : Adjustment) : List Finding :=
  adjustment.unknownKeys.map (.unknownStat place)

/-- A branch should have a condition, and the condition must parse. -/
def checkBranchCondition (place : Place) (branch : Branch) : List Finding :=
  match branch.condition with
  | some condition => checkCondition place condition
  | none => [.noCondition place branch.next]

/-- The effects of chance entries. -/
def checkChances (place : Place) (chances : List ChanceEntry) : List Finding :=
  chances.flatMap fun entry =>
    (entry.condition.map (checkCondition place)).getD [] ++ checkAdjustment place entry.effect

/-- The effects and gates of a choice.  All its chance tables are checked after the adjustments. -/
def checkChoice (node : String) (choice : Choice) : List Finding :=
  let place := Place.choice choice.id node
  checkAdjustment place choice.adjustment
    ++ (choice.gates.keys.filter fun key => (Stat.ofKey? key).isNone).map (.unknownGate place)
    ++ choice.personaEffects.toList.flatMap (fun (persona, effects) =>
      (effects.adjustment.map
        (checkAdjustment (.choiceFor choice.id node persona))).getD [])
    ++ checkChances place choice.chances
    ++ choice.personaEffects.toList.flatMap (fun (_, effects) =>
      checkChances place (effects.chances.getD []))

/-! ## Checks of nodes -/

namespace Story

/-- Every way on must lead to a node. -/
def checkSuccessors (story : Story) (id : String) (node : Node) : List Finding :=
  node.successors.flatMap fun target =>
    if target = "" then [.emptySuccessor id]
    else if (story.node? target).isNone then [.unknownSuccessor id target]
    else []

/-- The conditions and effects at a node. -/
def checkEffects (id : String) : Node → List Finding
  | .router branches _ =>
      branches.flatMap fun branch =>
        checkBranchCondition (.router id) branch ++ checkAdjustment (.router id) branch.adjustment
  | .fanout branches _ => branches.flatMap (checkBranchCondition (.fanout id))
  | .decision _ choices => choices.flatMap (checkChoice id)
  | _ => []

/-- Locations for which a narrative leads nowhere. -/
def locationsWithoutSuccessor (story : Story) (node : Node) : List String :=
  story.locations.keys.filter fun location => (node.successor? location).isNone

/-- Whether an id names a node that does not wait for the player. -/
def isRestless (story : Story) (id : String) : Bool :=
  match story.node? id with
  | some node => !node.isInteractive
  | none => false

/-- Whether play can go on from a node. -/
def checkShape (story : Story) (id : String) (node : Node) : List Finding :=
  match node with
  | .narrative _ next _ =>
      let locations := story.locationsWithoutSuccessor node
      if next.isNone && !locations.isEmpty then [.noSuccessor id locations] else []
  | .decision _ choices => if choices.isEmpty then [.noChoices id] else []
  | .router _ fallback => if fallback.isNone then [.noDefault id] else []
  | .fanout branches _ =>
      (branches.filter fun branch => story.isRestless branch.next).map
        fun branch => .restlessFeedback (.fanout id) branch.next
  | .outcome _ => []

/-- All checks of a node. -/
def checkNode (story : Story) (id : String) (node : Node) : List Finding :=
  story.checkSuccessors id node ++ checkEffects id node ++ story.checkShape id node

/-! ## Checks of a story -/

/-- The start must be a node. -/
def checkStart (story : Story) (start : String) : List Finding :=
  if (story.node? start).isNone then [.missingStart start] else []

/-- Outcome rules must have conditions that parse, and outcomes should have rules. -/
def checkOutcomes (story : Story) : List Finding :=
  story.outcomes.zipIdx.flatMap
      (fun (rule, i) => checkCondition (.outcomeRule i rule.result) rule.condition)
    ++ if story.outcomes.isEmpty && story.nodes.values.any Node.isOutcome then [.noOutcomeRules]
       else []

/-- A rubric rule should have a matcher, and its condition must parse. -/
def checkRubricRule (rule : RubricRule) : List Finding :=
  match rule.matcher with
  | .condition condition => checkCondition (.rubricRule rule.id) condition
  | .never => [.noMatcher (.rubricRule rule.id)]
  | .flag _ | .anyFlag _ => []

/-- The adjustments at the start of a game should name stats only. -/
def checkStartAdjustments (story : Story) : List Finding :=
  story.personas.toList.flatMap (fun (name, adjustment) =>
      checkAdjustment (.persona name) adjustment)
    ++ story.locations.toList.flatMap (fun (name, adjustment) =>
      checkAdjustment (.location name) adjustment)

/-- Every node should be reachable from the start, if the start is a node. -/
def checkReachable (story : Story) (start : String) : List Finding :=
  if (story.node? start).isNone then []
  else
    let reached := story.reachable start
    (story.nodes.keys.filter fun id => !reached.contains id).map (.unreachable · start)

/-- All findings about a story. -/
def lint (story : Story) (start : String) : List Finding :=
  story.checkStart start
    ++ story.nodes.toList.flatMap (fun (id, node) => story.checkNode id node)
    ++ story.checkOutcomes
    ++ story.rubric.rules.flatMap checkRubricRule
    ++ story.checkStartAdjustments
    ++ story.routerCycles.map .routerCycle
    ++ story.checkReachable start

end Story

/-! ## Reports -/

/-- The messages of a lint, errors and warnings apart. -/
structure LintReport where
  errors : List String
  warnings : List String
deriving DecidableEq, Repr

/-- The report of findings. -/
def LintReport.ofFindings (findings : List Finding) : LintReport where
  errors := (findings.filter Finding.isError).map Finding.message
  warnings := (findings.filter fun finding => !finding.isError).map Finding.message

/-- Whether there is nothing to report. -/
def LintReport.isClean (report : LintReport) : Bool :=
  report.errors.isEmpty && report.warnings.isEmpty

/-- The lint report of a story. -/
def Story.lintReport (story : Story) (start : String) : LintReport :=
  .ofFindings (story.lint start)

end BranchingStory
