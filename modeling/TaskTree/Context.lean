import TaskTree.World
import TaskTree.Token

namespace TaskTree

set_option autoImplicit false

namespace World

def ctxNotify (w : World) (c : ContextRef) (event : String) (args : List Json) : World :=
  let (tags, ls) := (w.context c).listeners.fire event
  let w := w.modifyContext c fun d => { d with listeners := ls }
  tags.foldl (fun w tag => w.record (.context tag event args)) w

def ctxGet (w : World) (c : ContextRef) (key : String) : World × Option Json :=
  let v := (KeyMap.find? (w.context c).entries key).map Entry.resolve
  (w.ctxNotify c "ctx-read" [.str key, v.getD .null], v)

def ctxSet (w : World) (c : ContextRef) (key : String) (v : Json) : World :=
  let w := w.modifyContext c fun d => { d with entries := d.entries.insert key (.value v) }
  w.ctxNotify c "ctx-write" [.str key, v]

def ctxSetProvider (w : World) (c : ContextRef) (key : String) (v : Json) : World :=
  let w := w.modifyContext c fun d => { d with entries := d.entries.insert key (.provider v) }
  w.ctxNotify c "ctx-write" [.str key, .null]

def ctxRemove (w : World) (c : ContextRef) (key : String) : World × Option Json :=
  let v := (KeyMap.find? (w.context c).entries key).map Entry.resolve
  (w.modifyContext c fun d => { d with entries := d.entries.erase key }, v)

def ctxContains (w : World) (c : ContextRef) (key : String) : Bool :=
  (w.context c).entries.contains key

def ctxKeys (w : World) (c : ContextRef) : List String :=
  (w.context c).entries.keys

def ctxResolvePath (w : World) (c : ContextRef) (path : String) : World × Option Json :=
  let (head, rest) := Token.splitPath path
  let (w, v) := w.ctxGet c head
  (w, v.bind fun v =>
    match rest with
    | some r => Token.valueAtPath v r
    | none => some v)

def ctxSnapshot (w : World) (c : ContextRef) : KeyMap Json :=
  (w.context c).entries.map fun (k, e) => (k, e.resolve)

def ctxListen (w : World) (c : ContextRef) (event : Option String) (tag : Option String) :
    World × Nat :=
  let (ls, id) := (w.context c).listeners.add event false tag
  (w.modifyContext c fun d => { d with listeners := ls }, id)

def ctxOff (w : World) (c : ContextRef) (event : String) (id : Nat) : World × Bool :=
  let (ls, found) := (w.context c).listeners.off event id
  (w.modifyContext c fun d => { d with listeners := ls }, found)

end World

end TaskTree
