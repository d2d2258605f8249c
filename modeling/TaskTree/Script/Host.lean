import TaskTree.Script.Build
import TaskTree.Regex.Match

namespace TaskTree.Script

set_option autoImplicit false

def Failure.asWork : Failure → WorkError
  | .request m => .of (.raised .internal ("driver: " ++ m))
  | .work e => e

def noteFailure (w : World) (f : Failure) : World :=
  if (note w "failure").isNull then setNote w "failure" f.toJson else w

def runJob (ctx : ContextRef) (f : HostFn) (inv : Invocation) (w : World) : World × JobStep :=
  match f.name with
  | "sync" =>
    match runBuiltin ctx (Token.render f.bound) inv w with
    | (w, .waits 0 o) => (w, .done o)
    | (w, .waits _ _) =>
      (w, .done (.error (.of (.raised .internal "driver: job did not complete synchronously"))))
    | done => done
  | "made" => (w, .done (.ok (Json.mkObj [("factoryArgs", f.bound), ("args", .arr inv.args)])))
  | name => runBuiltin ctx name inv w

def makeNode (planner : PlannerRef) (f : HostFn) (args : List Json) (w : World) :
    World × Except WorkError Made :=
  let compiled (bp : Json) : World × Except WorkError Made :=
    match (buildBlueprint bp).go w with
    | (w, .ok bp) => (w, .ok (.blueprint planner bp))
    | (w, .error e) => (w, .error e.asWork)
  match f.name with
  | "placeholder" => compiled (fill "$args" (.arr args) f.bound)
  | "loopItem" => compiled f.bound
  | name =>
    match makeBuiltin name args w with
    | (w, .ok n) => (w, .ok (.node n))
    | (w, .error e) => (w, .error e)

def argsFor (f : HostFn) (item : Option Json) : List Json :=
  match fill "$item" (item.getD .null) f.bound with
  | .arr items => items
  | v => [v]

def templateFor (f : HostFn) (item : Json) (w : World) : World × Blueprint :=
  match (buildBlueprint (fill "$item" item f.bound)).go w with
  | (w, .ok bp) => (w, bp)
  | (w, .error e) => (noteFailure w e, .plan {})

def conditionFor (pattern : String) : Except String Condition :=
  (Regex.compile pattern).map fun r => ⟨r.pattern, r.isMatch⟩

def host (ctx : ContextRef) (planner : PlannerRef) : Host where
  runJob := runJob ctx
  makeNode := makeNode planner
  argsFor f item _ := argsFor f item
  templateFor := templateFor
  conditionFor := conditionFor

end TaskTree.Script
