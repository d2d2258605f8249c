import TaskTree.Script.Builtin

namespace TaskTree.Script

set_option autoImplicit false

inductive Failure where
  | request (message : String)
  | work (e : WorkError)
deriving Inhabited

def Failure.toJson : Failure → Json
  | .request m => Json.mkObj [("error", .str "DriverError"), ("message", .str m)]
  | .work e => Json.mkObj [("error", .str e.kind.code), ("message", .str e.message),
      ("node", Json.ofOptStr e.node)]

abbrev Build := ExceptT Failure (StateM World)

namespace Build

variable {α : Type}

def refuse (message : String) : Build α :=
  throw (.request message)

def engine (m : Engine α) : Build α :=
  ExceptT.mk do
    match ← m.run with
    | .ok a => pure (.ok a)
    | .error e => pure (.error (.work e))

def ofWork (r : Except WorkError α) : Build α :=
  match r with
  | .ok a => pure a
  | .error e => throw (.work e)

def go (m : Build α) (w : World) : World × Except Failure α :=
  let (r, w) := m.run.run w
  (w, r)

end Build

def quoted (name : String) : String :=
  "'" ++ name ++ "'"

mutual

def fill (marker : String) (v : Json) : Json → Json
  | .str s => if s = marker then v else .str s
  | .arr items => .arr (fillItems marker v items)
  | .obj fields => .obj (fillFields marker v fields)
  | other => other

def fillItems (marker : String) (v : Json) : List Json → List Json
  | [] => []
  | x :: rest => fill marker v x :: fillItems marker v rest

def fillFields (marker : String) (v : Json) : List (String × Json) → List (String × Json)
  | [] => []
  | (k, x) :: rest => (k, fill marker v x) :: fillFields marker v rest

end

def builtinJob (name : String) : Build HostFn :=
  if jobNames.contains name then pure { name }
  else Build.refuse ("unknown builtin job " ++ quoted name)

def syncJob (name : String) : Build HostFn :=
  if jobNames.contains name then pure { name := "sync", bound := .str name }
  else Build.refuse ("unknown builtin job " ++ quoted name)

def builtinFactory (name : String) : Build HostFn :=
  if factoryNames.contains name then pure { name }
  else Build.refuse ("unknown builtin factory " ++ quoted name)

def argsTemplate (t : Json) : HostFn := { name := "argsFn", bound := t }

def blueprintTemplate (t : Json) : HostFn := { name := "template", bound := t }

def textOf (fields : List (String × Json)) (key : String) : String :=
  Token.render ((KeyMap.find? fields key).getD .null)

def sizeOf (v : Json) : Build Nat :=
  match v.getNat? with
  | some n => pure n
  | none => Build.refuse ("expected a non-negative integer, got " ++ v.compact)

def planOf (v : Json) : Build Plan :=
  Build.ofWork (Plan.ofJson v)

def named (name : String) : Build NodeRef := do
  match KeyMap.find? (← get).named name with
  | some n => pure n
  | none => Build.refuse ("unknown ref " ++ quoted name)

def newNode (body : NodeBody) : Build NodeRef :=
  modifyGet fun w => let (w, n) := w.addNode body; (n, w)

def isObject : Json → Bool
  | .obj _ => true
  | _ => false

def applyOption (build : Json → Build Blueprint) (plan : Plan) : Json → Build Plan
  | .arr (.str key :: rest) =>
    let a (i : Nat) : Json := arg rest i
    match key with
    | "name" => pure { plan with name := some (Token.render (a 0)) }
    | "service" => pure { plan with service := some (Token.render (a 0)) }
    | "result" => pure { plan with result := some (Token.render (a 0)) }
    | "onFailCondition" => pure { plan with onFailCondition := some (Token.render (a 0)) }
    | "args" => pure { plan with args := some ((a 0).getArr?.getD []) }
    | "argsFn" => pure { plan with argsFn := some (argsTemplate (a 0)) }
    | "onFail" => do pure { plan with onFail := some (← build (a 0)) }
    | "onSuccess" => do pure { plan with onSuccess := some (← build (a 0)) }
    | "finally" => do pure { plan with always := some (← build (a 0)) }
    | "skipIf" => pure { plan with skipIf := (a 0).getBool?.getD false }
    | "maxConcurrency" => do pure { plan with maxConcurrency := some (.nat (← sizeOf (a 0))) }
    | "scopeValue" =>
      let scope := KeyMap.insert (plan.scope.getD []) (Token.render (a 0)) (a 1)
      pure { plan with scope := some scope }
    | "repeatForEachFn" => pure { plan with repeatForEach := some ((a 0).getArr?.getD []) }
    | other => Build.refuse ("unknown plan option " ++ quoted other)
  | other => Build.refuse ("unknown plan option " ++ other.compact)

def construct (build : Json → Build Blueprint) (fields : List (String × Json)) : Build Plan := do
  let field (key : String) : Json := (KeyMap.find? fields key).getD .null
  let plan ← match textOf fields "$plan" with
    | "invoke" => pure (Plan.invokeOf (textOf fields "invoke"))
    | "job" => Plan.jobOf <$> builtinJob (textOf fields "fn")
    | "sync_job" => Plan.jobOf <$> syncJob (textOf fields "fn")
    | "queue" => do
      let entries ← ((field "entries").getArr?.getD []).mapM build
      pure (Plan.queueOf entries)
    | "template" =>
      let items := (field "items").getArr?.getD []
      pure (Plan.templateOf items (blueprintTemplate (field "template")))
    | "loop" => do
      pure (Plan.loopOf (textOf fields "var") (field "of") (← build (field "node")))
    | "factory" => Plan.factoryOf <$> builtinFactory (textOf fields "factory")
    | "factory_invoke" => pure (Plan.factoryInvokeOf (textOf fields "invoke"))
    | other => Build.refuse ("unknown plan constructor " ++ quoted other)
  ((field "with").getArr?.getD []).foldlM (applyOption build) plan

def planObject (build : Json → Build Blueprint) (fields : List (String × Json)) :
    Build Plan := do
  let run ← match KeyMap.find? fields "fn" with
    | some v => some <$> builtinJob (Token.render v)
    | none => pure none
  let factory ← match KeyMap.find? fields "factoryFn" with
    | some v => some <$> builtinFactory (Token.render v)
    | none => pure none
  let rest := ["fn", "factoryFn", "argsFn", "template", "repeatForEachFn"].foldl KeyMap.erase fields
  let queue ← match KeyMap.find? rest "queue" with
    | some (.arr items) =>
      if items.all isObject then some <$> items.mapM build else pure none
    | _ => pure none
  let rest := if queue.isSome then KeyMap.erase rest "queue" else rest
  let nested (key : String) : Build (Option Blueprint) :=
    match KeyMap.find? rest key with
    | some (.obj inner) => some <$> build (.obj inner)
    | _ => pure none
  let onFail ← nested "onFail"
  let onSuccess ← nested "onSuccess"
  let always ← nested "finally"
  let node ← nested "node"
  let built := [("onFail", onFail), ("onSuccess", onSuccess), ("finally", always), ("node", node)]
  let rest := built.foldl (fun r (k, b) => if b.isSome then KeyMap.erase r k else r) rest
  let plan ← planOf (.obj rest)
  pure { plan with
    run := run.orElse fun _ => plan.run
    factory := factory.orElse fun _ => plan.factory
    argsFn := (KeyMap.find? fields "argsFn").map argsTemplate
    template := (KeyMap.find? fields "template").map blueprintTemplate
    repeatForEach := match KeyMap.find? fields "repeatForEachFn" with
      | some (.arr items) => some items
      | _ => plan.repeatForEach
    queue := queue.orElse fun _ => plan.queue
    onFail := onFail.orElse fun _ => plan.onFail
    onSuccess := onSuccess.orElse fun _ => plan.onSuccess
    always := always.orElse fun _ => plan.always
    node := node.orElse fun _ => plan.node }

def buildWith : Nat → Json → Build Blueprint
  | 0, _ => Build.refuse "blueprint nested too deep"
  | fuel + 1, v =>
    match v with
    | .obj fields =>
      if KeyMap.contains fields "$json" then
        return .plan (← Build.ofWork (Plan.ofText (textOf fields "$json")))
      else if KeyMap.contains fields "$plan" then
        return .plan (← construct (buildWith fuel) fields)
      else if KeyMap.contains fields "$ref" then
        return .node (← named (textOf fields "$ref"))
      else if KeyMap.contains fields "$bare" then
        return .node (← newNode .bare)
      else if KeyMap.contains fields "$placeholder" then
        let template := (KeyMap.find? fields "$placeholder").getD .null
        let f : HostFn := { name := "placeholder", bound := template }
        return .node (← newNode (.placeholder (.host f) none))
      else return .plan (← planObject (buildWith fuel) fields)
    | other => return .plan (← planOf other)

def buildBlueprint (v : Json) : Build Blueprint :=
  buildWith (v.depth + 2) v

end TaskTree.Script
