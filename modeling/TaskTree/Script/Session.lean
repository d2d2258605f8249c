import TaskTree.Script.Host

namespace TaskTree.Script

set_option autoImplicit false

structure Session where
  world : World
  work : Work
  ctx : ContextRef
  recording : Bool
  recorded : List NodeRef := []
  listeners : Array (NodeRef × Nat) := #[]
  ctxListeners : Array Nat := #[]
deriving Inhabited

abbrev Act := ExceptT Failure (StateM Session)

namespace Act

variable {α : Type}

def refuse (message : String) : Act α :=
  throw (.request message)

def build (m : Build α) : Act α :=
  ExceptT.mk fun s =>
    let (w, r) := m.go s.world
    (r, { s with world := w })

def engine (m : Engine α) : Act α :=
  build (Build.engine m)

def run (m : StateM World α) : Act α :=
  ExceptT.lift fun s =>
    let (a, w) := m.run s.world
    (a, { s with world := w })

def world : Act World := do
  return (← get).world

def modifyWorld (f : World → World) : Act Unit :=
  modify fun s => { s with world := f s.world }

def change (f : World → World × α) : Act α :=
  modifyGet fun s => let (w, a) := f s.world; (a, { s with world := w })

def ofWork (r : Except WorkError α) : Act α :=
  match r with
  | .ok a => pure a
  | .error e => throw (.work e)

def host : Act Host := do
  let s ← get
  return Script.host s.ctx s.work.planner

end Act

def model : Act NodeRef := do
  match (← get).work.model with
  | some m => pure m
  | none => Act.refuse "no model"

def namedNode (name : String) : Act NodeRef :=
  Act.build (named name)

def pathStep (w : World) (n : NodeRef) : Json → Option NodeRef
  | .num (.nat i) => (w.children n)[i]?
  | .str "onFail" => (w.node n).settings.onFail
  | .str "onSuccess" => (w.node n).settings.onSuccess
  | .str "finally" => (w.node n).settings.always
  | .str "parent" => w.parent n
  | .str "root" => some (w.root n)
  | .str "resolved" => w.resolvedNode n
  | _ => none

def walk (start : NodeRef) (path : List Json) : Act NodeRef := do
  let w ← Act.world
  path.foldlM (fun n step =>
    match pathStep w n step with
    | some m => pure m
    | none => Act.refuse ("address step " ++ step.compact ++ " leads nowhere")) start

def resolve : Json → Act NodeRef
  | .null => model
  | .arr path => do walk (← model) path
  | .str name => namedNode name
  | .obj fields => do
    let start ← match KeyMap.find? fields "ref" with
      | some (.str name) => namedNode name
      | _ => model
    walk start (((KeyMap.find? fields "path").bind Json.getArr?).getD [])
  | other => Act.refuse ("bad address " ++ other.compact)

def recordNode (n : NodeRef) (tag : String) : Act Unit := do
  let s ← get
  if s.recording && !s.recorded.contains n then
    discard <| Act.change (·.listen n none false (.record tag))
    modify fun s => { s with recorded := n :: s.recorded }

def nameNode (name : String) (n : NodeRef) : Act Unit :=
  Act.modifyWorld fun w => { w with named := w.named.insert name n }

def Session.roots (s : Session) : List NodeRef :=
  s.world.named.map Prod.snd ++ (s.listeners.toList.map Prod.fst) ++ s.work.model.toList

def JournalEntry.toJson : JournalEntry → Json
  | .node tag event target args =>
    Json.mkObj [("on", .str tag), ("event", .str event), ("target", target.toJson),
      ("args", .arr args)]
  | .context tag event args =>
    Json.mkObj ([("ctx", .str event), ("args", .arr args)] ++
      (tag.map fun t => [("on", .str t)]).getD [])

end TaskTree.Script
