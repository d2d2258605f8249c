import TaskTree.Json.Print

namespace TaskTree

set_option autoImplicit false

inductive ErrorKind where
  | invalidMove
  | invalidNode
  | typeKind
  | invalidConfig
  | serviceFunctionNotFound
  | invalidPlanType
  | notFound
  | cancelled
  | failed
  | internal
deriving DecidableEq, Repr

def ErrorKind.code : ErrorKind → String
  | .invalidMove => "INVALID_MOVE"
  | .invalidNode => "INVALID_NODE"
  | .typeKind => "TYPE_KIND"
  | .invalidConfig => "INVALID_CONFIG"
  | .serviceFunctionNotFound => "SERVICE_FUNCTION_NOT_FOUND"
  | .invalidPlanType => "INVALID_PLAN_TYPE"
  | .notFound => "NOT_FOUND"
  | .cancelled => "CANCELLED"
  | .failed => "FAILED"
  | .internal => "INTERNAL"

inductive Fault where
  | unknownState (target : String)
  | moveRefused (target : String) (origins : List String) (current : String)
  | noPlan
  | notProcessable (display : String)
  | invalidOnFail
  | noWork
  | cancelledWhileRunning
  | beneathItself
  | hasParent
  | malformedConfig (detail : String)
  | malformedPlan (detail : String)
  | zeroConcurrency
  | badConcurrency (value : Json)
  | blankService
  | notIterable (value : Json)
  | noConcurrencyLimit (kind : String)
  | noLoopSource (kind : String)
  | noNodeFactory
  | badCondition (pattern : String) (detail : String)
  | invalidPlan (kind : String)
  | loopWithoutNode
  | buildsNodes (name : String)
  | notAFactory (name : String)
  | compiledLoopNode
  | missingFunction (name : String) (service : String)
  | ofNotFound (path : String)
  | notQueue
  | exhausted
  | raised (kind : ErrorKind) (message : String)
deriving Inhabited

namespace Fault

def kind : Fault → ErrorKind
  | .unknownState _ | .moveRefused .. => .invalidMove
  | .noPlan | .notProcessable _ | .invalidOnFail | .noWork => .invalidNode
  | .cancelledWhileRunning => .cancelled
  | .beneathItself | .hasParent => .typeKind
  | .malformedConfig _ | .malformedPlan _ | .zeroConcurrency | .badConcurrency _
  | .blankService | .notIterable _ | .noConcurrencyLimit _ | .noLoopSource _
  | .noNodeFactory | .badCondition .. => .invalidConfig
  | .invalidPlan _ | .loopWithoutNode | .buildsNodes _ | .notAFactory _
  | .compiledLoopNode => .invalidPlanType
  | .missingFunction .. => .serviceFunctionNotFound
  | .ofNotFound _ => .notFound
  | .notQueue | .exhausted => .internal
  | .raised k _ => k

def originText (origins : List String) : String :=
  if origins.isEmpty then "<unspecified>"
  else " or ".intercalate (origins.map fun s => "'" ++ s ++ "'")

def message : Fault → String
  | .unknownState t => "invalid state: " ++ t
  | .moveRefused t origins current =>
    "can only move to '" ++ t ++ "' from " ++ originText origins ++ " (not '" ++ current ++ "')"
  | .noPlan => "no plan has been set"
  | .notProcessable display => "not a processable node: " ++ display
  | .invalidOnFail => "onFail must be a valid node"
  | .noWork => "node has no work to perform"
  | .cancelledWhileRunning => "node was cancelled while in progress"
  | .beneathItself => "cannot add a node beneath itself"
  | .hasParent => "node already has a parent; remove it first"
  | .malformedConfig detail => "malformed engine config: " ++ detail
  | .malformedPlan detail => "malformed plan: " ++ detail
  | .zeroConcurrency => "maxConcurrency must be a positive integer"
  | .badConcurrency v => "maxConcurrency must be a positive integer, got " ++ v.compact
  | .blankService => "defaultService must not be empty"
  | .notIterable v => "loop source is not iterable: " ++ v.compact
  | .noConcurrencyLimit k => k ++ " nodes have no concurrency limit"
  | .noLoopSource k => k ++ " nodes have no loop source"
  | .noNodeFactory => "loop has no node factory"
  | .badCondition p detail => "invalid onFailCondition '" ++ p ++ "': " ++ detail
  | .invalidPlan k => "invalid plan item type: " ++ k
  | .loopWithoutNode => "loop plan has no node"
  | .buildsNodes name => "service function '" ++ name ++ "' builds nodes; use a factory plan"
  | .notAFactory name => "service function '" ++ name ++ "' is not a node factory"
  | .compiledLoopNode => "loop node must be a plan, not a compiled node"
  | .missingFunction name service =>
    "could not find function '" ++ name ++ "' in service '" ++ service ++ "'"
  | .ofNotFound path => "of not found: " ++ path
  | .notQueue => "queue scheduler invoked on a non-queue node"
  | .exhausted => "work nested too deep or ran too long"
  | .raised _ m => m

end Fault

structure WorkError where
  fault : Fault
  node : Option String := none
deriving Inhabited

namespace WorkError

def of (fault : Fault) : WorkError := { fault }

def kind (e : WorkError) : ErrorKind := e.fault.kind

def message (e : WorkError) : String := e.fault.message

def withNode (e : WorkError) (id : String) : WorkError :=
  match e.node with
  | some _ => e
  | none => { e with node := some id }

def toJson (e : WorkError) : Json :=
  Json.mkObj [("kind", .str e.kind.code), ("message", .str e.message),
    ("node", Json.ofOptStr e.node)]

theorem withNode_keeps (e : WorkError) (id other : String) (tied : e.node = some other) :
    e.withNode id = e := by
  simp [withNode, tied]

theorem withNode_node (e : WorkError) (id : String) :
    (e.withNode id).node = some (e.node.getD id) := by
  cases h : e.node <;> simp [withNode, h]

end WorkError

abbrev Outcome := Except WorkError Json

end TaskTree
