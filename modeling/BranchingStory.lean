import BranchingStory.Condition.Eval
import BranchingStory.Condition.Lexer
import BranchingStory.Condition.Outline
import BranchingStory.Condition.Parser
import BranchingStory.Condition.Syntax
import BranchingStory.Game.Basic
import BranchingStory.Game.Exchange
import BranchingStory.Game.Settings
import BranchingStory.Game.Setup
import BranchingStory.Journal
import BranchingStory.Json.Basic
import BranchingStory.Json.Decode
import BranchingStory.Json.Reader
import BranchingStory.Lint.Graph
import BranchingStory.Lint.Report
import BranchingStory.Main
import BranchingStory.Number
import BranchingStory.Play.Action
import BranchingStory.Play.Chance
import BranchingStory.Play.Routing
import BranchingStory.Play.Scoring
import BranchingStory.Play.View
import BranchingStory.Playthrough.Basic
import BranchingStory.Playthrough.Json
import BranchingStory.Proofs.Condition.Blame
import BranchingStory.Proofs.Condition.Completeness
import BranchingStory.Proofs.Condition.Descent
import BranchingStory.Proofs.Condition.Failures
import BranchingStory.Proofs.Condition.Grammar
import BranchingStory.Proofs.Condition.Places
import BranchingStory.Proofs.Condition.Sight
import BranchingStory.Proofs.Condition.Soundness
import BranchingStory.Proofs.Condition.Spelling
import BranchingStory.Proofs.Condition.Termination
import BranchingStory.Proofs.Condition.Tokens
import BranchingStory.Proofs.Condition.Typing
import BranchingStory.Proofs.Condition.Writing
import BranchingStory.Proofs.Game.Beginning
import BranchingStory.Proofs.Game.Bounds
import BranchingStory.Proofs.Game.Choices
import BranchingStory.Proofs.Game.Endings
import BranchingStory.Proofs.Game.Exchange
import BranchingStory.Proofs.Game.Feedback
import BranchingStory.Proofs.Game.Firings
import BranchingStory.Proofs.Game.Past
import BranchingStory.Proofs.Game.Reach
import BranchingStory.Proofs.Game.Runs
import BranchingStory.Proofs.Game.Sequences
import BranchingStory.Proofs.Game.Soundness
import BranchingStory.Proofs.Game.Tests
import BranchingStory.Proofs.Json.Decoding
import BranchingStory.Proofs.Json.Scalars
import BranchingStory.Proofs.Json.Values
import BranchingStory.Proofs.Lint.Conditions
import BranchingStory.Proofs.Lint.Playable
import BranchingStory.Proofs.Lint.Reachability
import BranchingStory.Proofs.Number.Order
import BranchingStory.Proofs.Play.Bounds
import BranchingStory.Proofs.Play.Chances
import BranchingStory.Proofs.Play.Detours
import BranchingStory.Proofs.Play.Draws
import BranchingStory.Proofs.Play.Effects
import BranchingStory.Proofs.Play.Endings
import BranchingStory.Proofs.Play.Excursions
import BranchingStory.Proofs.Play.Feedback
import BranchingStory.Proofs.Play.Firings
import BranchingStory.Proofs.Play.Growth
import BranchingStory.Proofs.Play.Idling
import BranchingStory.Proofs.Play.Limits
import BranchingStory.Proofs.Play.Past
import BranchingStory.Proofs.Play.Reach
import BranchingStory.Proofs.Play.Rendering
import BranchingStory.Proofs.Play.Resting
import BranchingStory.Proofs.Play.RunningSums
import BranchingStory.Proofs.Play.Scoring
import BranchingStory.Proofs.Play.Selection
import BranchingStory.Proofs.Play.Sight
import BranchingStory.Proofs.Play.Steps
import BranchingStory.Proofs.Play.Stops
import BranchingStory.Proofs.Play.Tests
import BranchingStory.Proofs.Play.Turns
import BranchingStory.Proofs.Playthrough.RoundTrip
import BranchingStory.Proofs.Routers.Cycles
import BranchingStory.Proofs.Routers.Paths
import BranchingStory.Proofs.Routers.Reported
import BranchingStory.Proofs.Routers.Search
import BranchingStory.Proofs.Routers.Walks
import BranchingStory.Proofs.Story.Adjustments
import BranchingStory.Proofs.Story.Plain
import BranchingStory.Proofs.Story.Validation
import BranchingStory.Proofs.Terminal.Choosing
import BranchingStory.Random
import BranchingStory.Ron.Scan
import BranchingStory.Ron.Value
import BranchingStory.Sorted.Names
import BranchingStory.Sorted.Table
import BranchingStory.Stat
import BranchingStory.Story.Basic
import BranchingStory.Story.Choice
import BranchingStory.Story.Decode
import BranchingStory.Story.Encode
import BranchingStory.Terminal.Linter
import BranchingStory.Terminal.Player
import BranchingStory.Terminal.Session
import BranchingStory.Text
