import TaskTree.Error
import TaskTree.Json.Reader

namespace TaskTree

set_option autoImplicit false

structure NodeRef where
  index : Nat
deriving DecidableEq, Repr, Inhabited

structure ContextRef where
  index : Nat
deriving DecidableEq, Repr, Inhabited

structure PlannerRef where
  index : Nat
deriving DecidableEq, Repr, Inhabited

structure HostFn where
  name : String
  bound : Json := .null
deriving Inhabited

inductive PlanType where
  | job
  | queue
  | template
  | loop
  | factory
  | unknown
deriving DecidableEq, Repr, Inhabited

namespace PlanType

def name : PlanType → String
  | .job => "job"
  | .queue => "queue"
  | .template => "template"
  | .loop => "loop"
  | .factory => "factory"
  | .unknown => "unknown"

def debugName : PlanType → String
  | .job => "Job"
  | .queue => "Queue"
  | .template => "Template"
  | .loop => "Loop"
  | .factory => "Factory"
  | .unknown => "Unknown"

def ofName (s : String) : PlanType :=
  match s with
  | "job" => .job
  | "queue" => .queue
  | "template" => .template
  | "loop" => .loop
  | "factory" => .factory
  | _ => .unknown

end PlanType

structure LoopSpec where
  var : String
  of : Json
deriving Inhabited

structure PlanOf (β : Type) where
  type : PlanType := .unknown
  name : Option String := none
  service : Option String := none
  invoke : Option String := none
  run : Option HostFn := none
  factory : Option HostFn := none
  args : Option (List Json) := none
  argsFn : Option HostFn := none
  result : Option String := none
  onFail : Option β := none
  onFailCondition : Option String := none
  onSuccess : Option β := none
  always : Option β := none
  skipIf : Bool := false
  maxConcurrency : Option Json := none
  scope : Option (List (String × Json)) := none
  queue : Option (List β) := none
  template : Option HostFn := none
  repeatForEach : Option (List Json) := none
  forEach : Option LoopSpec := none
  node : Option β := none
deriving Inhabited

inductive Blueprint where
  | plan (p : PlanOf Blueprint)
  | node (n : NodeRef)
deriving Inhabited

abbrev Plan := PlanOf Blueprint

inductive NodeFactory where
  | compile (planner : PlannerRef) (plan : Plan)
  | host (f : HostFn)
deriving Inhabited

structure LoopBinding where
  var : String
  items : List Json

inductive ItemSource where
  | clause (ctx : ContextRef) (spec : LoopSpec)
  | value (var : String) (items : Json)
  | items (var : String) (items : List Json)
deriving Inhabited

def LoopBinding.ofJson (var : String) (v : Json) : Except WorkError LoopBinding :=
  match v with
  | .arr items => .ok ⟨var, items⟩
  | other => .error (.of (.notIterable other))

def LoopBinding.toJson (b : LoopBinding) : Json :=
  Json.mkObj [("var", .str b.var), ("items", .arr b.items)]

namespace Plan

def invokeOf (name : String) : Plan := { type := .job, invoke := some name }

def jobOf (f : HostFn) : Plan := { type := .job, run := some f }

def queueOf (entries : List Blueprint) : Plan := { type := .queue, queue := some entries }

def templateOf (items : List Json) (template : HostFn) : Plan :=
  { type := .template, template := some template, repeatForEach := some items }

def loopOf (var : String) (of : Json) (node : Blueprint) : Plan :=
  { type := .loop, forEach := some ⟨var, of⟩, node := some node }

def factoryOf (f : HostFn) : Plan := { type := .factory, factory := some f }

def factoryInvokeOf (name : String) : Plan := { type := .factory, invoke := some name }

def schema : Json.Schema :=
  .record "Plan"
    [("type", .variant), ("name", .optional .text), ("service", .optional .text),
      ("invoke", .optional .text), ("args", .optional (.seq .any)),
      ("result", .optional .text), ("onFail", .optional .again),
      ("onFailCondition", .optional .text), ("onSuccess", .optional .again),
      ("finally", .optional .again), ("skipIf", .flag), ("maxConcurrency", .optional .any),
      ("scope", .optional .map), ("queue", .optional (.seq .again)),
      ("repeatForEach", .optional (.seq .any)),
      ("for", .optional (.record "LoopSource" [("var", .text), ("of", .any)] false)),
      ("node", .optional .again)] true

def given (v : Json) (key : String) : Option Json :=
  match v.field? key with
  | some .null => none
  | other => other

def ofFieldsWith : Nat → Json → Plan
  | 0, _ => {}
  | fuel + 1, v =>
    let nested (key : String) : Option Blueprint :=
      (given v key).map fun b => .plan (ofFieldsWith fuel b)
    { type := PlanType.ofName (((given v "type").bind Json.getStr?).getD "unknown")
      name := (given v "name").bind Json.getStr?
      service := (given v "service").bind Json.getStr?
      invoke := (given v "invoke").bind Json.getStr?
      args := (given v "args").bind Json.getArr?
      result := (given v "result").bind Json.getStr?
      onFail := nested "onFail"
      onFailCondition := (given v "onFailCondition").bind Json.getStr?
      onSuccess := nested "onSuccess"
      always := nested "finally"
      skipIf := ((given v "skipIf").bind Json.getBool?).getD false
      maxConcurrency := given v "maxConcurrency"
      scope := (given v "scope").bind Json.getObj?
      queue := ((given v "queue").bind Json.getArr?).map fun entries =>
        entries.map fun e => .plan (ofFieldsWith fuel e)
      repeatForEach := (given v "repeatForEach").bind Json.getArr?
      forEach := (given v "for").map fun f =>
        ⟨((f.field? "var").bind Json.getStr?).getD "", (f.field? "of").getD .null⟩
      node := nested "node" }

def ofFields (v : Json) : Plan := ofFieldsWith (v.depth + 1) v

def ofText (raw : String) : Except WorkError Plan :=
  match schema.ofText raw with
  | .ok v => .ok (ofFields v)
  | .error e => .error (.of (.malformedPlan e.message))

def ofJson (v : Json) : Except WorkError Plan :=
  match Json.Schema.ofValue schema (4 * (v.depth + 2)) schema v with
  | .ok v => .ok (ofFields v)
  | .error e => .error (.of (.malformedPlan e.message))

end Plan

end TaskTree
