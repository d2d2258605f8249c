import TaskTree.KeyMap
import TaskTree.Json.Value
import TaskTree.Decimal.Shortest
import TaskTree.Json.Print
import TaskTree.Json.DecodeError
import TaskTree.Json.Schema
import TaskTree.Json.Reader
import TaskTree.Text.Alnum
import TaskTree.Text.Hidden
import TaskTree.Token
import TaskTree.Error
import TaskTree.State.Machine
import TaskTree.State.Exec
import TaskTree.Config
import TaskTree.Regex.Property
import TaskTree.Regex.Error
import TaskTree.Regex.Syntax
import TaskTree.Regex.Reader
import TaskTree.Regex.Expr
import TaskTree.Regex.Match
import TaskTree.Plan
import TaskTree.World
import TaskTree.Tree
import TaskTree.Scope
import TaskTree.Context
import TaskTree.Events
import TaskTree.Emitter
import TaskTree.Host
import TaskTree.Node
import TaskTree.Planner
import TaskTree.Run
import TaskTree.Describe
import TaskTree.Collect
import TaskTree.Script.Builtin
import TaskTree.Script.Build
import TaskTree.Script.Host
import TaskTree.Script.Session
import TaskTree.Script.Step
import TaskTree.Script.Request
import TaskTree.Proofs.Runs
import TaskTree.Proofs.Lifecycle
import TaskTree.Proofs.Batches
import TaskTree.Proofs.Frames
import TaskTree.Proofs.Behaves
import TaskTree.Proofs.Compile
import TaskTree.Proofs.Acceptance
import TaskTree.Proofs.Machine
import TaskTree.Proofs.Links
import TaskTree.Proofs.Guard
import TaskTree.Proofs.Subtree
import TaskTree.Proofs.Agree
import TaskTree.Proofs.Replay
import TaskTree.Proofs.Rerun
import TaskTree.Proofs.Dispatch
import TaskTree.Proofs.Cancel
import TaskTree.Proofs.HookArgs
import TaskTree.Proofs.Materialize
import TaskTree.Proofs.Skip
import TaskTree.Proofs.Placeholder
import TaskTree.Proofs.Attribution
import TaskTree.Proofs.Effects
import TaskTree.Proofs.Results
import TaskTree.Proofs.ContextHistory
import TaskTree.Proofs.Loops
import TaskTree.Proofs.Calls
import TaskTree.Proofs.Paths
import TaskTree.Proofs.Preorder
import TaskTree.Proofs.Tokens
