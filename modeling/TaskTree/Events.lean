import TaskTree.Scope
import TaskTree.Context

namespace TaskTree

set_option autoImplicit false

namespace World

def modifyListeners (w : World) (n : NodeRef) (f : Listeners Handler → Listeners Handler) :
    World :=
  w.modifyNode n fun d => { d with listeners := f d.listeners }

def listen (w : World) (n : NodeRef) (event : Option String) (once : Bool) (h : Handler) :
    World × Nat :=
  let (ls, id) := (w.node n).listeners.add event once h
  (w.modifyListeners n fun _ => ls, id)

def unlisten (w : World) (n : NodeRef) (event : String) (id : Nat) : World × Bool :=
  let (ls, found) := (w.node n).listeners.off event id
  (w.modifyListeners n fun _ => ls, found)

def listenerCount (w : World) (n : NodeRef) : Nat :=
  (w.node n).listeners.count

def handle (w : World) (target : NodeRef) (shown : Descriptor) (event : String)
    (args : List Json) : Handler → World
  | .record tag => w.record (.node tag event shown args)
  | .keepResult ctx key owner =>
    if target = owner then
      let key := Token.render (w.substitute target (.str key))
      w.ctxSet ctx key (args.head?.getD .null)
    else w

def dispatch (w : World) (hearer target : NodeRef) (event : String) (args : List Json) :
    World :=
  let (hs, ls) := (w.node hearer).listeners.fire event
  let w := w.modifyListeners hearer fun _ => ls
  let shown := w.descriptor target
  hs.foldl (fun w h => w.handle target shown event args h) w

def emit (w : World) (n : NodeRef) (event : String) (args : List Json) : World :=
  let w := w.dispatch n n event args
  (w.parents n).foldl (fun w a => w.dispatch a n event args) w

end World

end TaskTree
