import TaskTree.Plan
import TaskTree.Config
import TaskTree.State.Exec

namespace TaskTree

set_option autoImplicit false

structure JobStats where
  total : Nat := 0
  complete : Nat := 0
  active : Nat := 0
deriving DecidableEq, Repr, Inhabited

def JobStats.toJson (s : JobStats) : Json :=
  Json.mkObj [("total", .nat s.total), ("complete", .nat s.complete), ("active", .nat s.active)]

structure QueueState where
  limit : Nat
  stats : JobStats := {}
deriving Inhabited

structure LoopState where
  source : Option ItemSource := none
  factory : Option NodeFactory := none
  made : List NodeRef := []
deriving Inhabited

inductive NodeBody where
  | bare
  | job (fn : HostFn)
  | queue (q : QueueState)
  | loop (q : QueueState) (l : LoopState)
  | placeholder (factory : NodeFactory) (resolved : Option NodeRef)
deriving Inhabited

inductive NodeKind where
  | node
  | job
  | queue
  | loop
  | placeholder
deriving DecidableEq, Repr, Inhabited

def NodeKind.name : NodeKind → String
  | .node => "node"
  | .job => "job"
  | .queue => "queue"
  | .loop => "loop"
  | .placeholder => "placeholder"

def NodeKind.debugName : NodeKind → String
  | .node => "Node"
  | .job => "Job"
  | .queue => "Queue"
  | .loop => "Loop"
  | .placeholder => "Placeholder"

def NodeBody.kind : NodeBody → NodeKind
  | .bare => .node
  | .job _ => .job
  | .queue _ => .queue
  | .loop .. => .loop
  | .placeholder .. => .placeholder

def NodeBody.queueState? : NodeBody → Option QueueState
  | .queue q => some q
  | .loop q _ => some q
  | _ => none

def NodeBody.withQueue (b : NodeBody) (q : QueueState) : NodeBody :=
  match b with
  | .queue _ => .queue q
  | .loop _ l => .loop q l
  | other => other

structure Condition where
  pattern : String
  accepts : String → Bool

structure Settings where
  name : Option String := none
  invoke : Option String := none
  args : Option (List Json) := none
  argsFn : Option HostFn := none
  onSuccess : Option NodeRef := none
  onFail : Option NodeRef := none
  condition : Option Condition := none
  always : Option NodeRef := none
  skipIf : Bool := false
deriving Inhabited

inductive Handler where
  | record (tag : String)
  | keepResult (ctx : ContextRef) (key : String) (owner : NodeRef)
deriving Inhabited

structure Listener (η : Type) where
  id : Nat
  event : Option String
  once : Bool
  handler : η
deriving Inhabited

def Listener.hears {η : Type} (l : Listener η) (event : String) : Bool :=
  match l.event with
  | none => true
  | some e => e == event

structure Listeners (η : Type) where
  next : Nat := 0
  list : List (Listener η) := []
deriving Inhabited

namespace Listeners

variable {η : Type}

def add (ls : Listeners η) (event : Option String) (once : Bool) (handler : η) :
    Listeners η × Nat :=
  ({ next := ls.next + 1, list := ls.list ++ [⟨ls.next, event, once, handler⟩] }, ls.next)

def off (ls : Listeners η) (event : String) (id : Nat) : Listeners η × Bool :=
  let named (l : Listener η) : Bool := l.id == id && l.event.getD "*" == event
  match ls.list.findIdx? named with
  | some i => ({ ls with list := ls.list.eraseIdx i }, true)
  | none => (ls, false)

def fire (ls : Listeners η) (event : String) : List η × Listeners η :=
  (ls.list.filterMap fun l => if l.hears event then some l.handler else none,
    { ls with list := ls.list.filter fun l => !(l.once && l.hears event) })

def count (ls : Listeners η) : Nat := ls.list.length

theorem add_id (ls : Listeners η) (event : Option String) (once : Bool) (handler : η) :
    (ls.add event once handler).2 = ls.next := rfl

theorem count_add (ls : Listeners η) (event : Option String) (once : Bool) (handler : η) :
    (ls.add event once handler).1.count = ls.count + 1 := by
  simp [add, count]

end Listeners

structure NodeData where
  id : String
  body : NodeBody
  parent : Option NodeRef := none
  children : List NodeRef := []
  state : ExecState := .pending
  listeners : Listeners Handler := {}
  scope : SortedMap Json := .empty
  settings : Settings := {}
  live : Bool := true
deriving Inhabited

inductive Entry where
  | value (v : Json)
  | provider (v : Json)
deriving Inhabited

def Entry.resolve : Entry → Json
  | .value v => v
  | .provider v => v

structure ContextData where
  entries : KeyMap Entry := []
  listeners : Listeners (Option String) := {}
deriving Inhabited

inductive ServiceFn where
  | job (f : HostFn)
  | factory (f : HostFn)
deriving Inhabited

abbrev Service := KeyMap ServiceFn

structure PlannerData where
  config : EngineConfig
  services : KeyMap Service := []
  ctx : ContextRef
deriving Inhabited

structure Descriptor where
  id : String
  name : Option String
  kind : NodeKind
  state : ExecState
deriving Inhabited

def Descriptor.toJson (d : Descriptor) : Json :=
  Json.mkObj [("id", .str d.id), ("name", Json.ofOptStr d.name), ("type", .str d.kind.name),
    ("state", .str d.state.name)]

inductive JournalEntry where
  | node (tag : String) (event : String) (target : Descriptor) (args : List Json)
  | context (tag : Option String) (event : String) (args : List Json)
deriving Inhabited

structure World where
  nodes : Array NodeData := #[]
  contexts : Array ContextData := #[]
  planners : Array PlannerData := #[]
  journal : Array JournalEntry := #[]
  notes : Json := .null
  named : KeyMap NodeRef := []
  held : List NodeRef := []
deriving Inhabited

def hexPadded (width n : Nat) : String :=
  let digits := Nat.toDigits 16 n
  String.ofList (List.replicate (width - digits.length) '0' ++ digits)

def nodeIdOf (index : Nat) : String :=
  "00000000-0000-4000-8000-" ++ hexPadded 12 index

namespace World

def node (w : World) (n : NodeRef) : NodeData :=
  w.nodes[n.index]?.getD default

def modifyNode (w : World) (n : NodeRef) (f : NodeData → NodeData) : World :=
  { w with nodes := w.nodes.modify n.index f }

def addNode (w : World) (body : NodeBody) : World × NodeRef :=
  let n : NodeRef := ⟨w.nodes.size⟩
  ({ w with nodes := w.nodes.push { id := nodeIdOf n.index, body } }, n)

def context (w : World) (c : ContextRef) : ContextData :=
  w.contexts[c.index]?.getD default

def modifyContext (w : World) (c : ContextRef) (f : ContextData → ContextData) : World :=
  { w with contexts := w.contexts.modify c.index f }

def addContext (w : World) : World × ContextRef :=
  ({ w with contexts := w.contexts.push {} }, ⟨w.contexts.size⟩)

def planner (w : World) (p : PlannerRef) : PlannerData :=
  w.planners[p.index]?.getD default

def modifyPlanner (w : World) (p : PlannerRef) (f : PlannerData → PlannerData) : World :=
  { w with planners := w.planners.modify p.index f }

def addPlanner (w : World) (data : PlannerData) : World × PlannerRef :=
  ({ w with planners := w.planners.push data }, ⟨w.planners.size⟩)

def record (w : World) (e : JournalEntry) : World :=
  { w with journal := w.journal.push e }

theorem node_modifyNode_self (w : World) (n : NodeRef) (f : NodeData → NodeData)
    (present : n.index < w.nodes.size) : (w.modifyNode n f).node n = f (w.node n) := by
  simp [node, modifyNode, present, Array.getElem_modify_self]

theorem node_modifyNode_ne (w : World) (n m : NodeRef) (f : NodeData → NodeData)
    (differ : m ≠ n) : (w.modifyNode n f).node m = w.node m := by
  have : n.index ≠ m.index := fun h => differ (by cases n; cases m; simp_all)
  simp [node, modifyNode, Array.getElem?_modify, this]

end World

end TaskTree
