import TaskTree.Tree
import TaskTree.Token

namespace TaskTree

set_option autoImplicit false

namespace World

def modifyScope (w : World) (n : NodeRef) (f : SortedMap Json → SortedMap Json) : World :=
  w.modifyNode n fun d => { d with scope := f d.scope }

def scopeGet (w : World) (n : NodeRef) (key : String) : Option Json :=
  (n :: w.parents n).findSome? fun m => KeyMap.find? (w.node m).scope.toKeyMap key

def scopeSet (w : World) (n : NodeRef) (key : String) (v : Json) : World :=
  w.modifyScope n fun s => s.insert key v

def scopeRemove (w : World) (n : NodeRef) (key : String) : World × Option Json :=
  (w.modifyScope n fun s => s.erase key, KeyMap.find? (w.node n).scope.toKeyMap key)

def localScope (w : World) (n : NodeRef) : KeyMap Json :=
  (w.node n).scope.toKeyMap

def effectiveScope (w : World) (n : NodeRef) : KeyMap Json :=
  (n :: w.parents n).reverse.foldl (fun acc m => acc.union (w.node m).scope.toKeyMap) []

def scopePath (w : World) (n : NodeRef) (path : String) : Option Json :=
  let (head, rest) := Token.splitPath path
  (w.scopeGet n head).bind fun v =>
    match rest with
    | some r => Token.valueAtPath v r
    | none => some v

def globalGet (w : World) (n : NodeRef) (key : String) : Option Json :=
  KeyMap.find? (w.node (w.root n)).scope.toKeyMap key

def globalSet (w : World) (n : NodeRef) (key : String) (v : Json) : World :=
  w.scopeSet (w.root n) key v

def substitute (w : World) (n : NodeRef) (v : Json) : Json :=
  match v with
  | .str s => Token.substitute s (w.scopePath n)
  | other => other

def name (w : World) (n : NodeRef) : Option String :=
  (w.node n).settings.name.map fun raw => Token.render (w.substitute n (.str raw))

def args (w : World) (n : NodeRef) : Option (List Json) :=
  (w.node n).settings.args.map fun raw => raw.map (w.substitute n)

def hasArgs (w : World) (n : NodeRef) : Bool :=
  match (w.node n).settings.args with
  | some (_ :: _) => true
  | _ => false

def kind (w : World) (n : NodeRef) : NodeKind :=
  (w.node n).body.kind

def state (w : World) (n : NodeRef) : ExecState :=
  (w.node n).state

def descriptor (w : World) (n : NodeRef) : Descriptor :=
  { id := (w.node n).id, name := w.name n, kind := w.kind n, state := w.state n }

def display (w : World) (n : NodeRef) : String :=
  let label := ((w.name n).orElse fun _ => (w.node n).settings.invoke).getD (w.kind n).name
  label ++ ": " ++ (w.state n).name

def toTree (w : World) (n : NodeRef) : String :=
  let base := w.level n
  String.join ((w.traverse n).map fun m =>
    String.join (List.replicate (w.level m - base) "  ") ++ "- " ++ w.display m ++ "\n")

theorem substitute_of_not_str (w : World) (n : NodeRef) (v : Json)
    (other : ∀ s, v ≠ .str s) : w.substitute n v = v := by
  cases v <;> simp_all [substitute]

theorem scopeGet_own (w : World) (n : NodeRef) (key : String) (v : Json)
    (own : KeyMap.find? (w.node n).scope.toKeyMap key = some v) : w.scopeGet n key = some v := by
  simp [scopeGet, List.findSome?, own]

end World

end TaskTree
