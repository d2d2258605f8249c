import TaskTree.Events
import TaskTree.Host

namespace TaskTree

set_option autoImplicit false

namespace World

def setStateWith (w : World) (n : NodeRef) (target : ExecState) (args : List Json) :
    World × Except WorkError Unit :=
  match ExecState.moveTo (w.state n) target with
  | .error e => (w, .error (e.withNode (w.node n).id))
  | .ok none => (w, .ok ())
  | .ok (some (source, reached)) =>
    let w := w.modifyNode n fun d => { d with state := reached }
    let w := w.emit n "state" [.str reached.name, .str source.name]
    (w.emit n reached.name args, .ok ())

def setState (w : World) (n : NodeRef) (target : ExecState) : World × Except WorkError Unit :=
  w.setStateWith n target []

def resetState (w : World) (n : NodeRef) : World :=
  (w.traverse n).foldl (fun w m =>
    let previous := w.state m
    let w := w.modifyNode m fun d => { d with state := .pending }
    w.emit m "reset" [.str previous.name]) w

def modifyQueue (w : World) (n : NodeRef) (f : QueueState → QueueState) : World :=
  w.modifyNode n fun d =>
    match d.body.queueState? with
    | some q => { d with body := d.body.withQueue (f q) }
    | none => d

def modifyStats (w : World) (n : NodeRef) (f : JobStats → JobStats) : World :=
  w.modifyQueue n fun q => { q with stats := f q.stats }

def attach (w : World) (parent child : NodeRef) (first : Bool) :
    World × Except WorkError NodeRef :=
  if child = parent ∨ (w.parents parent).contains child then (w, .error (.of .beneathItself))
  else if (w.parent child).isSome then (w, .error (.of .hasParent))
  else
    let w := w.modifyNode child fun d => { d with parent := some parent }
    let w := w.modifyNode parent fun d =>
      { d with children := if first then child :: d.children else d.children ++ [child] }
    let w := w.modifyStats parent fun s => { s with total := s.total + 1 }
    (w.emit parent "add" [(w.descriptor child).toJson], .ok child)

def append (w : World) (parent child : NodeRef) : World × Except WorkError NodeRef :=
  w.attach parent child false

def prepend (w : World) (parent child : NodeRef) : World × Except WorkError NodeRef :=
  w.attach parent child true

def remove (w : World) (parent child : NodeRef) : World × Bool :=
  match (w.children parent).idxOf? child with
  | none => (w, false)
  | some i =>
    let w := w.modifyNode parent fun d => { d with children := d.children.eraseIdx i }
    let w := w.modifyNode child fun d => { d with parent := none }
    (w.modifyStats parent fun s => { s with total := s.total - 1 }, true)

def modifySettings (w : World) (n : NodeRef) (f : Settings → Settings) : World :=
  w.modifyNode n fun d => { d with settings := f d.settings }

def setName (w : World) (n : NodeRef) (name : String) : World :=
  w.modifySettings n fun s => { s with name := some name }

def setInvoke (w : World) (n : NodeRef) (invoke : String) : World :=
  w.modifySettings n fun s => { s with invoke := some invoke }

def setArgs (w : World) (n : NodeRef) (args : List Json) : World :=
  w.modifySettings n fun s => { s with args := some args }

def clearArgs (w : World) (n : NodeRef) : World :=
  w.modifySettings n fun s => { s with args := none }

def setArgsFn (w : World) (n : NodeRef) (f : HostFn) : World :=
  w.modifySettings n fun s => { s with argsFn := some f }

def setOnSuccess (w : World) (n hook : NodeRef) : World :=
  w.modifySettings n fun s => { s with onSuccess := some hook }

def setOnFail (w : World) (n hook : NodeRef) : World :=
  w.modifySettings n fun s => { s with onFail := some hook }

def setCondition (w : World) (n : NodeRef) (c : Condition) : World :=
  w.modifySettings n fun s => { s with condition := some c }

def setAlways (w : World) (n hook : NodeRef) : World :=
  w.modifySettings n fun s => { s with always := some hook }

def setSkipIf (w : World) (n : NodeRef) (skip : Bool) : World :=
  w.modifySettings n fun s => { s with skipIf := skip }

def validate (w : World) (n : NodeRef) : Except WorkError Unit :=
  let id := (w.node n).id
  if w.kind n = .node then .error ((WorkError.of (.notProcessable (w.display n))).withNode id)
  else match (w.node n).settings.onFail with
    | some hook =>
      if w.kind hook = .node then .error ((WorkError.of .invalidOnFail).withNode id)
      else .ok ()
    | none => .ok ()

def resolveArgs (host : Host) (w : World) (n : NodeRef) (callArgs : List Json)
    (item : Option Json) : List Json :=
  if !callArgs.isEmpty then callArgs
  else match (w.node n).settings.argsFn with
    | some f => host.argsFor f item w
    | none => (w.args n).getD []

def maxConcurrency (w : World) (n : NodeRef) : Option Nat :=
  (w.node n).body.queueState?.map (·.limit)

def jobStats (w : World) (n : NodeRef) : Option JobStats :=
  (w.node n).body.queueState?.map (·.stats)

def setMaxConcurrency (w : World) (n : NodeRef) (limit : Nat) : World × Except WorkError Unit :=
  match (w.node n).body.queueState? with
  | some _ =>
    match Limit.check limit with
    | .ok l => (w.modifyQueue n fun q => { q with limit := l }, .ok ())
    | .error e => (w, .error e)
  | none =>
    (w, .error ((WorkError.of (.noConcurrencyLimit (w.kind n).name)).withNode (w.node n).id))

def modifyLoop (w : World) (n : NodeRef) (f : LoopState → LoopState) :
    World × Except WorkError Unit :=
  match (w.node n).body with
  | .loop q l => (w.modifyNode n fun d => { d with body := .loop q (f l) }, .ok ())
  | _ => (w, .error ((WorkError.of (.noLoopSource (w.kind n).name)).withNode (w.node n).id))

def setLoopSource (w : World) (n : NodeRef) (src : ItemSource) : World × Except WorkError Unit :=
  w.modifyLoop n fun l => { l with source := some src }

def setNodeFactory (w : World) (n : NodeRef) (f : NodeFactory) : World × Except WorkError Unit :=
  w.modifyLoop n fun l => { l with factory := some f }

def resolvedNode (w : World) (n : NodeRef) : Option NodeRef :=
  match (w.node n).body with
  | .placeholder _ resolved => resolved
  | _ => none

theorem resolveArgs_call (host : Host) (w : World) (n : NodeRef) (callArgs : List Json)
    (item : Option Json) (given : callArgs ≠ []) :
    w.resolveArgs host n callArgs item = callArgs := by
  cases callArgs with
  | nil => exact absurd rfl given
  | cons a rest => simp [resolveArgs]

end World

end TaskTree
