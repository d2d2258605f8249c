import TaskTree.Script.Session
import TaskTree.Describe

namespace TaskTree.Script

set_option autoImplicit false

abbrev Fields := List (String × Json)

def field (fields : Fields) (key : String) : Json :=
  (KeyMap.find? fields key).getD .null

def text (fields : Fields) (key : String) : String :=
  Token.render (field fields key)

def nodeAt (fields : Fields) (key : String) : Act NodeRef :=
  resolve (field fields key)

def shown (n : NodeRef) : Act Json := do
  return ((← Act.world).descriptor n).toJson

def shownOpt : Option NodeRef → Act Json
  | some n => shown n
  | none => pure .null

def sizeAt (fields : Fields) (key : String) : Act Nat :=
  Act.build (sizeOf (field fields key))

def listAt (fields : Fields) (key : String) : List Json :=
  (field fields key).getArr?.getD []

def blueprintAt (fields : Fields) (key : String) : Act Blueprint :=
  Act.build (buildBlueprint (field fields key))

def serviceOf (names : List Json) : Act Service :=
  names.foldlM (fun (s : Service) v =>
    let name := Token.render v
    if jobNames.contains name then pure (s.insert name (.job { name }))
    else if factoryNames.contains name then pure (s.insert name (.factory { name }))
    else Act.refuse ("unknown builtin " ++ quoted name)) []

def builtinService : Service :=
  KeyMap.ofList ((jobNames.map fun name => (name, ServiceFn.job { name })) ++
    factoryNames.map fun name => (name, ServiceFn.factory { name }))

def configOf (v : Json) : Except WorkError EngineConfig :=
  match v with
  | .null => .ok {}
  | .str raw => EngineConfig.ofText raw
  | other => EngineConfig.ofText other.compact

def info (n : NodeRef) : Act Json := do
  let w ← Act.world
  let s := (w.node n).settings
  return Json.mkObj [
    ("descriptor", (w.descriptor n).toJson),
    ("display", .str (w.display n)),
    ("level", .nat (w.level n)),
    ("descendants", .nat (w.descendantCount n)),
    ("children", .arr ((w.children n).map fun c => (w.descriptor c).toJson)),
    ("parent", ← shownOpt (w.parent n)),
    ("root", ← shown (w.root n)),
    ("stats", ((w.jobStats n).map JobStats.toJson).getD .null),
    ("maxConcurrency", ((w.maxConcurrency n).map Json.nat).getD .null),
    ("invoke", Json.ofOptStr s.invoke),
    ("args", ((w.args n).map Json.arr).getD .null),
    ("hasArgs", .bool (w.hasArgs n)),
    ("skipIf", .bool s.skipIf),
    ("localScope", .obj (w.localScope n)),
    ("effectiveScope", .obj (w.effectiveScope n)),
    ("onFail", ← shownOpt s.onFail),
    ("onSuccess", ← shownOpt s.onSuccess),
    ("finally", ← shownOpt s.always),
    ("onFailCondition", Json.ofOptStr (s.condition.map (·.pattern))),
    ("resolved", ← shownOpt (w.resolvedNode n))]

def nodeOption (n : NodeRef) : Json → Act Unit
  | .arr (.str key :: rest) => do
    let a (i : Nat) : Json := arg rest i
    match key with
    | "name" => Act.modifyWorld (·.setName n (Token.render (a 0)))
    | "args" => Act.modifyWorld (·.setArgs n ((a 0).getArr?.getD []))
    | "argsFn" => Act.modifyWorld (·.setArgsFn n (argsTemplate (a 0)))
    | "onSuccess" => do
      let h ← resolve (a 0)
      Act.modifyWorld (·.setOnSuccess n h)
    | "onFail" => do
      let h ← resolve (a 0)
      Act.modifyWorld (·.setOnFail n h)
    | "finally" => do
      let h ← resolve (a 0)
      Act.modifyWorld (·.setAlways n h)
    | "onFailCondition" =>
      match Script.conditionFor (Token.render (a 0)) with
      | .ok c => Act.modifyWorld (·.setCondition n c)
      | .error detail => Act.refuse ("bad regex: " ++ detail)
    | "skipIf" => Act.modifyWorld (·.setSkipIf n ((a 0).getBool?.getD false))
    | "scopeValue" => Act.modifyWorld (·.scopeSet n (Token.render (a 0)) (a 1))
    | other => Act.refuse ("unknown node option " ++ quoted other)
  | other => Act.refuse ("unknown node option " ++ other.compact)

def makeNew (fields : Fields) : Act NodeRef := do
  let fn := text fields "fn"
  match text fields "kind" with
  | "bare" | "default" => Act.build (newNode .bare)
  | "queue" => do Act.engine (Engine.newQueue (← sizeAt fields "max"))
  | "loop" => do Act.engine (Engine.newLoop (← sizeAt fields "max"))
  | "job" =>
    if jobNames.contains fn then Act.build (newNode (.job { name := fn }))
    else Act.refuse "unknown builtin job"
  | "async_job" => do
    let f ← Act.build (builtinJob fn)
    Act.build (newNode (.job f))
  | "sync_job" => do
    let f ← Act.build (syncJob fn)
    Act.build (newNode (.job f))
  | "queue_of" => do
    let children ← (listAt fields "children").mapM resolve
    let q ← Act.engine (Engine.newQueue (← sizeAt fields "max"))
    for c in children do
      Act.engine (Engine.append q c)
    pure q
  | "loop_over" => do
    let l ← Act.engine (Engine.newLoop (← sizeAt fields "max"))
    let src : ItemSource := .items (text fields "var") (listAt fields "items")
    Act.engine (Engine.of (·.setLoopSource l src))
    let f : NodeFactory := .host { name := "loopItem", bound := field fields "plan" }
    Act.engine (Engine.of (·.setNodeFactory l f))
    pure l
  | other => Act.refuse ("unknown kind " ++ quoted other)

def hookSetter (which : String) : Act (World → NodeRef → NodeRef → World) :=
  match which with
  | "onFail" => pure World.setOnFail
  | "onSuccess" => pure World.setOnSuccess
  | "finally" => pure World.setAlways
  | other => Act.refuse ("unknown hook " ++ quoted other)

def outcome (o : Outcome) : Act Json :=
  Act.ofWork o

def compileNamed (p : PlannerRef) (name : String) (bp : Blueprint) : Act NodeRef := do
  let host ← Act.host
  let n ← Act.engine (toModel host p bp)
  nameNode name n
  recordNode n ("ref:" ++ name)
  pure n

def listenStep (fields : Fields) : Act Json := do
  let n ← nodeAt fields "node"
  let k := (← get).listeners.size
  let event := text fields "event"
  let once := (field fields "once").getBool?.getD false
  let recorder := Handler.record ("listener" ++ toString k)
  let id ← if event = "*" then Act.change (·.listen n none false recorder)
    else Act.change (·.listen n (some event) once recorder)
  modify fun s => { s with listeners := s.listeners.push (n, id) }
  return .nat k

def perform (fields : Fields) : Act Json := do
  let host ← Act.host
  let s ← get
  let ctx := s.ctx
  match text fields "do" with
  | "set_plan" => do
    let bp ← blueprintAt fields "plan"
    let work ← Act.engine (s.work.setPlan host bp)
    modify fun s => { s with work }
    let m ← model
    recordNode m "model"
    shown m
  | "compile" => do
    let bp ← blueprintAt fields "plan"
    shown (← compileNamed s.work.planner (text fields "name") bp)
  | "new" => do
    let n ← makeNew fields
    for option in listAt fields "with" do
      nodeOption n option
    let name := text fields "name"
    nameNode name n
    recordNode n ("ref:" ++ name)
    shown n
  | "process" => do
    if (field fields "node").isNull && (field fields "args").isNull then
      outcome (← Act.run (s.work.process host))
    else
      let n ← nodeAt fields "node"
      outcome (← Act.run (process host n (listAt fields "args")))
  | "reset" => do
    let n ← nodeAt fields "node"
    Act.modifyWorld (·.resetState n)
    return .null
  | "set_state" => do
    let n ← nodeAt fields "node"
    match (field fields "state").getStr?.bind ExecState.ofName? with
    | none => Act.refuse ("unknown state " ++ (field fields "state").compact)
    | some target =>
      Act.ofWork (← Act.change (·.setStateWith n target (listAt fields "args")))
      return .null
  | "info" => do info (← nodeAt fields "node")
  | "tree" => do return .str ((← Act.world).toTree (← nodeAt fields "node"))
  | "add" | "append" | "prepend" => do
    let n ← nodeAt fields "node"
    let c ← nodeAt fields "child"
    let first := text fields "do" = "prepend"
    shown (← Act.ofWork (← Act.change (·.attach n c first)))
  | "remove" => do
    let n ← nodeAt fields "node"
    let c ← nodeAt fields "child"
    return .bool (← Act.change (·.remove n c))
  | "scope_set" => do
    let n ← nodeAt fields "node"
    Act.modifyWorld (·.scopeSet n (text fields "key") (field fields "value"))
    return .null
  | "global_set" => do
    let n ← nodeAt fields "node"
    Act.modifyWorld (·.globalSet n (text fields "key") (field fields "value"))
    return .null
  | "scope_get" => do
    let n ← nodeAt fields "node"
    return Json.ofOption ((← Act.world).scopeGet n (text fields "key"))
  | "scope_remove" => do
    let n ← nodeAt fields "node"
    return Json.ofOption (← Act.change (·.scopeRemove n (text fields "key")))
  | "global_get" => do
    let n ← nodeAt fields "node"
    return Json.ofOption ((← Act.world).globalGet n (text fields "key"))
  | "scope_path" => do
    let n ← nodeAt fields "node"
    return Json.ofOption ((← Act.world).scopePath n (text fields "path"))
  | "substitute" => do
    let n ← nodeAt fields "node"
    return (← Act.world).substitute n (field fields "value")
  | "set_name" => do
    let n ← nodeAt fields "node"
    Act.modifyWorld (·.setName n (text fields "name"))
    return .null
  | "set_args" => do
    let n ← nodeAt fields "node"
    Act.modifyWorld (·.setArgs n (listAt fields "args"))
    return .null
  | "clear_args" => do
    let n ← nodeAt fields "node"
    Act.modifyWorld (·.clearArgs n)
    return .null
  | "set_args_fn" => do
    let n ← nodeAt fields "node"
    Act.modifyWorld (·.setArgsFn n (argsTemplate (field fields "argsFn")))
    return .null
  | "set_skip_if" => do
    let n ← nodeAt fields "node"
    Act.modifyWorld (·.setSkipIf n ((field fields "skip").getBool?.getD false))
    return .null
  | "set_max_concurrency" => do
    let n ← nodeAt fields "node"
    let limit ← sizeAt fields "value"
    Act.ofWork (← Act.change (·.setMaxConcurrency n limit))
    return .null
  | "set_hook" => do
    let n ← nodeAt fields "node"
    let set ← hookSetter (text fields "which")
    let h ← nodeAt fields "hook"
    Act.modifyWorld (set · n h)
    return .null
  | "validate" => do
    let n ← nodeAt fields "node"
    Act.ofWork ((← Act.world).validate n)
    return .null
  | "listen" => listenStep fields
  | "off" => do
    let k := (field fields "listener").getNat?.getD s.listeners.size
    match s.listeners[k]? with
    | some (n, id) => return .bool (← Act.change (·.unlisten n (text fields "event") id))
    | none => Act.refuse "unknown listener"
  | "emit" => do
    let n ← nodeAt fields "node"
    Act.modifyWorld (·.emit n (text fields "event") (listAt fields "args"))
    return .null
  | "set_loop_items" => do
    let n ← nodeAt fields "node"
    let src : ItemSource := .value (text fields "var") (field fields "items")
    Act.ofWork (← Act.change (·.setLoopSource n src))
    return .null
  | "set_loop_factory" => do
    let n ← nodeAt fields "node"
    let bp ← blueprintAt fields "plan"
    let f ← Act.ofWork ((← Act.world).loopFactory s.work.planner bp)
    Act.ofWork (← Act.change (·.setNodeFactory n f))
    return .null
  | "ctx_get" => do return Json.ofOption (← Act.change (·.ctxGet ctx (text fields "key")))
  | "ctx_remove" => do return Json.ofOption (← Act.change (·.ctxRemove ctx (text fields "key")))
  | "ctx_resolve" => do
    return Json.ofOption (← Act.change (·.ctxResolvePath ctx (text fields "path")))
  | "ctx_set" => do
    Act.modifyWorld (·.ctxSet ctx (text fields "key") (field fields "value"))
    return .null
  | "ctx_provider" => do
    Act.modifyWorld (·.ctxSetProvider ctx (text fields "key") (field fields "value"))
    return .null
  | "ctx_keys" => do return .arr (((← Act.world).ctxKeys ctx).map Json.str)
  | "ctx_snapshot" => do return .obj ((← Act.world).ctxSnapshot ctx)
  | "ctx_contains" => do return .bool ((← Act.world).ctxContains ctx (text fields "key"))
  | "service" => do
    let service ← serviceOf (listAt fields "fns")
    match field fields "name" with
    | .null => Act.modifyWorld (·.addService s.work.planner service)
    | name => Act.modifyWorld (·.addServiceAs s.work.planner (Token.render name) service)
    return .null
  | "lookup" => do
    let service := match field fields "service" with
      | .null => none
      | v => some (Token.render v)
    let w ← Act.world
    match ← Act.ofWork (w.serviceFunction s.work.planner service (text fields "invoke")) with
    | .job _ => return .str "job"
    | .factory _ => return .str "factory"
  | "same" => do
    let n ← nodeAt fields "node"
    let m ← nodeAt fields "other"
    return .bool (n = m)
  | "debug" => do return .str ((← Act.world).debugNode (← nodeAt fields "node"))
  | "debug_plan" => do
    let bp ← blueprintAt fields "plan"
    return .str (Blueprint.debugText (← Act.world) bp)
  | "service_describe" => do
    let service ← serviceOf (listAt fields "fns")
    let service ← match field fields "merge" with
      | .null => pure service
      | more => pure (service.union (← serviceOf (more.getArr?.getD [])))
    return Json.mkObj [("names", .arr (service.keys.map Json.str)), ("len", .nat service.length),
      ("isEmpty", .bool service.isEmpty), ("debug", .str (Service.debugText service))]
  | "ctx_listen" => do
    let k := s.ctxListeners.size
    let event := text fields "event"
    let tag := some ("ctxlistener" ++ toString k)
    let id ← Act.change (·.ctxListen ctx (if event = "*" then none else some event) tag)
    modify fun s => { s with ctxListeners := s.ctxListeners.push id }
    return .nat k
  | "ctx_off" => do
    let k := (field fields "listener").getNat?.getD s.ctxListeners.size
    match s.ctxListeners[k]? with
    | some id => return .bool (← Act.change (·.ctxOff ctx (text fields "event") id))
    | none => Act.refuse "unknown listener"
  | "ctx_debug" => do return .str ((← Act.world).debugContext ctx)
  | "listener_count" => do return .nat ((← Act.world).listenerCount (← nodeAt fields "node"))
  | "forget" => do
    let name := text fields "name"
    let w ← Act.world
    Act.modifyWorld fun w => { w with named := w.named.erase name }
    return .bool (w.named.contains name)
  | "planner_compile" => do
    let p ← match text fields "planner" with
      | "new" => Act.change (·.newPlanner {})
      | _ => do
        let config ← Act.ofWork (configOf (field fields "config"))
        Act.ofWork config.validate
        Act.change (·.addPlanner { config, ctx })
    Act.modifyWorld (·.addService p builtinService)
    let bp ← blueprintAt fields "plan"
    let n ← compileNamed p (text fields "name") bp
    return Json.mkObj [("node", ← shown n), ("config", ((← Act.world).planner p).config.toJson)]
  | other => Act.refuse ("unknown step " ++ quoted other)

end TaskTree.Script
