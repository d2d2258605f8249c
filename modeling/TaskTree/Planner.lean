import TaskTree.Node

namespace TaskTree

set_option autoImplicit false

namespace World

def addServiceAs (w : World) (p : PlannerRef) (name : String) (service : Service) : World :=
  w.modifyPlanner p fun d =>
    let merged := ((KeyMap.find? d.services name).getD []).union service
    { d with services := d.services.insert name merged }

def addService (w : World) (p : PlannerRef) (service : Service) : World :=
  w.addServiceAs p (w.planner p).config.defaultService service

def serviceFunction (w : World) (p : PlannerRef) (service : Option String) (invoke : String) :
    Except WorkError ServiceFn :=
  let name := service.getD (w.planner p).config.defaultService
  match (KeyMap.find? (w.planner p).services name).bind (KeyMap.find? · invoke) with
  | some f => .ok f
  | none => .error (.of (.missingFunction invoke name))

def jobFunction (w : World) (p : PlannerRef) (service : Option String) (invoke : String) :
    Except WorkError HostFn :=
  match w.serviceFunction p service invoke with
  | .ok (.job f) => .ok f
  | .ok (.factory _) => .error (.of (.buildsNodes invoke))
  | .error e => .error e

def concurrency (w : World) (p : PlannerRef) (plan : Plan) : Except WorkError Nat :=
  match plan.maxConcurrency with
  | some v => Limit.ofJson v
  | none => .ok (w.planner p).config.defaultMaxConcurrency

def loopFactory (w : World) (p : PlannerRef) : Blueprint → Except WorkError NodeFactory
  | .node _ => .error (.of .compiledLoopNode)
  | .plan plan =>
    let checked : Except WorkError Unit :=
      match plan.type, plan.invoke, plan.run, plan.queue with
      | .job, some invoke, _, _ => (w.jobFunction p plan.service invoke).map fun _ => ()
      | .job, none, some _, _ => .ok ()
      | .queue, _, _, some _ => .ok ()
      | t, _, _, _ => .error (.of (.invalidPlan t.name))
    checked.map fun _ => .compile p plan

def storeResult (w : World) (p : PlannerRef) (node : NodeRef) (key : String) : World :=
  (w.listen node (some "successful") false (.keepResult (w.planner p).ctx key node)).1

end World

namespace Engine

def newQueue (limit : Nat) : Engine NodeRef := do
  let l ← ofExcept (Limit.check limit)
  addNode (.queue { limit := l })

def newLoop (limit : Nat) : Engine NodeRef := do
  let l ← ofExcept (Limit.check limit)
  addNode (.loop { limit := l } {})

def append (parent child : NodeRef) : Engine Unit := do
  discard <| of (·.append parent child)

end Engine

abbrev Compiler := PlannerRef → Blueprint → Engine NodeRef

namespace Compile

def hook (compile : Compiler) (p : PlannerRef) : Option Blueprint → Engine (Option NodeRef)
  | none => pure none
  | some bp => some <$> compile p bp

def make (compile : Compiler) (host : Host) (f : NodeFactory) (args : List Json) :
    Engine NodeRef :=
  match f with
  | .compile p plan => compile p (.plan plan)
  | .host f => do
    match ← Engine.of (host.makeNode f args) with
    | .node n => pure n
    | .blueprint p bp => compile p bp

def job (p : PlannerRef) (plan : Plan) : Engine NodeRef := do
  let w ← get
  let f ← match plan.invoke, plan.run with
    | some invoke, _ => Engine.ofExcept (w.jobFunction p plan.service invoke)
    | none, some f => pure f
    | none, none => throw (.of (.invalidPlan plan.type.name))
  let n ← Engine.addNode (.job f)
  if let some invoke := plan.invoke then modify (·.setInvoke n invoke)
  pure n

def queue (compile : Compiler) (p : PlannerRef) (plan : Plan) : Engine NodeRef := do
  let entries ← match plan.queue with
    | some entries => pure entries
    | none => throw (.of (.invalidPlan plan.type.name))
  let node ← Engine.newQueue (← Engine.ofExcept ((← get).concurrency p plan))
  for entry in entries do
    Engine.append node (← compile p entry)
  pure node

def template (compile : Compiler) (host : Host) (p : PlannerRef) (plan : Plan) :
    Engine NodeRef := do
  let t ← match plan.template with
    | some t => pure t
    | none => throw (.of (.invalidPlan plan.type.name))
  let node ← Engine.newQueue (← Engine.ofExcept ((← get).concurrency p plan))
  for item in plan.repeatForEach.getD [] do
    let bp ← modifyGet fun w => let (w, bp) := host.templateFor t item w; (bp, w)
    Engine.append node (← compile p bp)
  pure node

def loop (p : PlannerRef) (plan : Plan) : Engine NodeRef := do
  let node ← Engine.newLoop (← Engine.ofExcept ((← get).concurrency p plan))
  if let some spec := plan.forEach then
    let ctx := ((← get).planner p).ctx
    Engine.of (·.setLoopSource node (.clause ctx spec))
  let itemPlan ← match plan.node with
    | some bp => pure bp
    | none => throw (.of .loopWithoutNode)
  let f ← Engine.ofExcept ((← get).loopFactory p itemPlan)
  Engine.of (·.setNodeFactory node f)
  pure node

def factory (compile : Compiler) (host : Host) (p : PlannerRef) (plan : Plan) :
    Engine NodeRef := do
  let node ← match plan.invoke, plan.factory with
    | some invoke, _ =>
      match (← get).serviceFunction p plan.service invoke with
      | .ok (.factory f) =>
        let n ← make compile host (.host f) []
        Engine.ofExcept ((← get).validate n)
        pure n
      | .ok (.job _) => throw (.of (.notAFactory invoke))
      | .error e => throw e
    | none, some f => make compile host (.host f) []
    | none, none => throw (.of (.invalidPlan plan.type.name))
  if let some args := plan.args then modify (·.setArgs node args)
  pure node

def options (host : Host) (node : NodeRef) (plan : Plan) : Engine Unit := do
  if let some name := plan.name then modify (·.setName node name)
  if let some args := plan.args then modify (·.setArgs node args)
  if let some f := plan.argsFn then modify (·.setArgsFn node f)
  if let some pattern := plan.onFailCondition then
    match host.conditionFor pattern with
    | .ok c => modify (·.setCondition node c)
    | .error detail => throw (.of (.badCondition pattern detail))
  if plan.skipIf then modify (·.setSkipIf node true)
  if let some scope := plan.scope then
    for (key, v) in scope do
      modify (·.scopeSet node key v)

def plan (compile : Compiler) (host : Host) (p : PlannerRef) (plan : Plan) : Engine NodeRef := do
  if plan.type = .unknown then throw (.of (.invalidPlan plan.type.name))
  let onFail ← hook compile p plan.onFail
  let onSuccess ← hook compile p plan.onSuccess
  let always ← hook compile p plan.always
  let node ← match plan.type with
    | .job => job p plan
    | .queue => queue compile p plan
    | .template => template compile host p plan
    | .loop => loop p plan
    | .factory => factory compile host p plan
    | .unknown => throw (.of (.invalidPlan plan.type.name))
  if plan.type ≠ .factory then
    options host node plan
    if let some h := onFail then modify (·.setOnFail node h)
    if let some h := onSuccess then modify (·.setOnSuccess node h)
    if let some h := always then modify (·.setAlways node h)
  if let some key := plan.result then modify (·.storeResult p node key)
  pure node

end Compile

def compileWith (host : Host) : Nat → Compiler
  | 0 => fun _ _ => throw (.of .exhausted)
  | fuel + 1 => fun p bp =>
    match bp with
    | .node n => pure n
    | .plan plan => Compile.plan (compileWith host fuel) host p plan

def planDepth : Nat := 10000

def toModel (host : Host) (p : PlannerRef) (bp : Blueprint) : Engine NodeRef :=
  compileWith host planDepth p bp

def makeNode (host : Host) (f : NodeFactory) (args : List Json) : Engine NodeRef :=
  Compile.make (compileWith host planDepth) host f args

theorem compileWith_node (host : Host) (fuel : Nat) (p : PlannerRef) (n : NodeRef) :
    compileWith host (fuel + 1) p (.node n) = pure n := rfl

end TaskTree
