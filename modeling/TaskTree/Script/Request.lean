import TaskTree.Script.Step

namespace TaskTree.Script

set_option autoImplicit false

def okAnswer (v : Json) : Json :=
  Json.mkObj [("ok", v)]

def answerOf (r : Except Failure Json) : Json :=
  match r with
  | .ok v => okAnswer v
  | .error f => f.toJson

def tokenJson : Token → Json
  | .literal s => Json.mkObj [("literal", .str s)]
  | .reference p => Json.mkObj [("reference", .str p)]
  | .template segs => Json.mkObj [("template", .arr (segs.map fun
      | .text s => Json.mkObj [("text", .str s)]
      | .path p => Json.mkObj [("path", .str p)]))]

def rulesJson (rules : List (Rule String)) : Json :=
  .arr (rules.map fun r =>
    Json.mkObj [("from", .arr (r.sources.map Json.str)), ("to", .arr (r.targets.map Json.str))])

def execRules : List (Rule String) :=
  ExecState.rules.map fun r => ⟨r.sources.map ExecState.name, r.targets.map ExecState.name⟩

def machineOps (initial : String) (m : Machine String) : List Json → List Json
  | [] => []
  | op :: rest =>
    let has (key : String) : Bool := (op.field? key).isSome
    let arg (key : String) : String := Token.render ((op.field? key).getD .null)
    let (m, result) : Machine String × Json :=
      if has "set" then
        match m.setState id (arg "set") with
        | .ok (m, some (source, target)) =>
          (m, okAnswer (Json.mkObj [("from", .str source), ("to", .str target)]))
        | .ok (m, none) => (m, okAnswer .null)
        | .error e => (m, (Failure.work e).toJson)
      else if has "can" then (m, okAnswer (.bool (m.canMoveTo (arg "can"))))
      else if has "reset" then
        let (m, previous) := m.reset
        (m, okAnswer (.str previous))
      else if has "moves" then (m, okAnswer (.nat m.rules.length))
      else (m, okAnswer (.str initial))
    let entry := match result with
      | .obj fields => Json.obj (KeyMap.insert fields "state" (.str m.current))
      | other => other
    entry :: machineOps initial m rest

def fsm (req : Fields) : Json :=
  let initial := match field req "initial" with
    | .null => "pending"
    | v => Token.render v
  let rules := match field req "moves" with
    | .arr moves => moves.map fun r =>
      (⟨(((r.field? "from").bind Json.getArr?).getD []).map Token.render,
        (((r.field? "to").bind Json.getArr?).getD []).map Token.render⟩ : Rule String)
    | _ => execRules
  okAnswer (.arr (machineOps initial (Machine.start initial rules) (listAt req "ops")))

def states : Json :=
  okAnswer (Json.mkObj [
    ("states", .arr (ExecState.all.map fun s =>
      Json.mkObj [("name", .str s.name), ("terminal", .bool s.isTerminal)])),
    ("moves", rulesJson execRules)])

def configAnswer (req : Fields) : Json :=
  let raw := match KeyMap.find? req "raw", KeyMap.find? req "config" with
    | some r, _ => Token.render r
    | none, some v => v.compact
    | none, none => "{}"
  answerOf ((EngineConfig.ofText raw).map EngineConfig.toJson |>.mapError .work)

def runStep (step : Json) : StateM Session Json := do
  modify fun s => { s with world := setNote { s.world with journal := #[] } "failure" .null }
  let r ← ExceptT.run (perform ((step.getObj?).getD []))
  let s ← get
  let noted := note s.world "failure"
  let world := s.world.collect s.roots
  set { s with world }
  let events := Json.arr (world.journal.toList.map JournalEntry.toJson)
  let tree := (s.work.model.map fun m => Json.str (world.toTree m)).getD .null
  let answer := match r with
    | .error (.work _) => if noted.isNull then answerOf r else noted
    | _ => answerOf r
  let fields := (answer.getObj?).getD []
  return .obj (KeyMap.insert (KeyMap.insert fields "events" events) "tree" tree)

def setup (req : Fields) : Except Failure Session := do
  let config ← if text req "work" = "default" then pure {}
    else (configOf (field req "config")).mapError .work
  let (world, r) := (Work.create config).go {}
  let work ← r.mapError .work
  let ctx := work.ctx world
  let recording := (field req "events").getBool?.getD true
  let session : Session := { world, work, ctx, recording }
  let act : Act Unit := do
    match field req "services" with
    | .obj bundles =>
      for (name, fns) in bundles do
        let service ← serviceOf ((fns.getArr?).getD [])
        Act.modifyWorld (·.addServiceAs work.planner name service)
    | _ => Act.modifyWorld (·.addService work.planner builtinService)
    for (key, v) in ((field req "ctx").getObj?).getD [] do
      Act.modifyWorld (·.ctxSet ctx key v)
    for (key, v) in ((field req "providers").getObj?).getD [] do
      Act.modifyWorld (·.ctxSetProvider ctx key v)
    if recording then
      discard <| Act.change (·.ctxListen ctx none none)
  let (r, session) := (ExceptT.run act).run session
  r.map fun _ => session

def stepsOf (req : Fields) : List Json :=
  let given := field req "steps"
  match field req "plan" with
  | .null => (given.getArr?).getD []
  | plan =>
    Json.mkObj [("do", .str "set_plan"), ("plan", plan)] ::
      match given with
      | .arr steps => steps
      | _ => [Json.mkObj [("do", .str "process")]]

def runAnswer (req : Fields) : Json :=
  match setup req with
  | .error f => f.toJson
  | .ok session =>
    let (entries, s) := ((stepsOf req).mapM runStep).run session
    okAnswer (Json.mkObj [("steps", .arr entries), ("ctx", .obj (s.world.ctxSnapshot s.ctx))])

def answerRaw (req : Json) : Json :=
  let fields := (req.getObj?).getD []
  match text fields "op" with
  | "token" =>
    let input := text fields "input"
    let scope := field fields "scope"
    okAnswer (Json.mkObj [("parse", tokenJson (Token.parse input)),
      ("substitute", Token.substitute input (Token.valueAtPath scope))])
  | "render" => okAnswer (.str (Token.render (field fields "value")))
  | "value_at_path" =>
    okAnswer (Json.ofOption (Token.valueAtPath (field fields "root") (text fields "path")))
  | "split_path" =>
    let (head, rest) := Token.splitPath (text fields "path")
    okAnswer (.arr [.str head, Json.ofOptStr rest])
  | "fsm" => fsm fields
  | "config" => configAnswer fields
  | "concurrency" =>
    answerOf ((Limit.ofJson (field fields "value")).map Json.nat |>.mapError .work)
  | "loop_binding" =>
    answerOf ((LoopBinding.ofJson (text fields "var") (field fields "value")).map
      LoopBinding.toJson |>.mapError .work)
  | "states" => states
  | "init_tracing" =>
    answerOf ((configOf (field fields "config")).map (fun c => .bool c.installLogging)
      |>.mapError .work)
  | "run" => runAnswer fields
  | other => (Failure.request ("unknown op " ++ quoted other)).toJson

def isHexDigit (c : Char) : Bool :=
  c.isDigit || ('a' ≤ c && c ≤ 'f')

def isUuid (cs : List Char) : Bool :=
  cs.length = 36 &&
    (List.range 36).all fun i =>
      let c := cs[i]?.getD ' '
      if i = 8 || i = 13 || i = 18 || i = 23 then c = '-'
      else if i = 14 then c = '4'
      else if i = 19 then "89ab".toList.contains c
      else isHexDigit c

def idNumber (seen : Array String) (id : String) : Array String × Nat :=
  match seen.findIdx? (· == id) with
  | some k => (seen, k)
  | none => (seen.push id, seen.size)

def numberIdsIn (seen : Array String) : Nat → List Char → Array String × List Char
  | 0, rest => (seen, rest)
  | _, [] => (seen, [])
  | fuel + 1, c :: rest =>
    let window := (c :: rest).take 36
    if isUuid window then
      let (seen, k) := idNumber seen (String.ofList window)
      let (seen, tail) := numberIdsIn seen fuel ((c :: rest).drop 36)
      (seen, ('#' :: (toString k).toList) ++ tail)
    else
      let (seen, tail) := numberIdsIn seen fuel rest
      (seen, c :: tail)

mutual

def numberIds (seen : Array String) : Json → Array String × Json
  | .str s =>
    let (seen, cs) := numberIdsIn seen s.length s.toList
    (seen, .str (String.ofList cs))
  | .arr items =>
    let (seen, items) := numberIdsItems seen items
    (seen, .arr items)
  | .obj fields =>
    let (seen, fields) := numberIdsFields seen fields
    (seen, .obj fields)
  | other => (seen, other)

def numberIdsItems (seen : Array String) : List Json → Array String × List Json
  | [] => (seen, [])
  | v :: rest =>
    let (seen, v) := numberIds seen v
    let (seen, rest) := numberIdsItems seen rest
    (seen, v :: rest)

def numberIdsFields (seen : Array String) :
    List (String × Json) → Array String × List (String × Json)
  | [] => (seen, [])
  | (k, v) :: rest =>
    let (seen, v) := numberIds seen v
    let (seen, rest) := numberIdsFields seen rest
    (seen, (k, v) :: rest)

end

def answer (req : Json) : Json :=
  (numberIds #[] (answerRaw req)).2

end TaskTree.Script
