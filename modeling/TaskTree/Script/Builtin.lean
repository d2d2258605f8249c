import TaskTree.Collect

namespace TaskTree.Script

set_option autoImplicit false

def jobNames : List String :=
  ["echo", "first", "double", "sum", "concat", "fail", "scope", "item", "effective", "local",
    "set_scope", "set_global", "global", "ctx_get", "ctx_set", "self", "parent", "level",
    "stats", "cancel", "cancel_parent", "move", "emit", "tree", "count", "args_len",
    "reset_self", "reset_root", "yield", "yield_fail"]

def factoryNames : List String :=
  ["make_bare", "make_echo", "make_queue", "make_loop", "make_fail", "make_named"]

def arg (args : List Json) (i : Nat) : Json :=
  args[i]?.getD .null

def wrap64 (i : Int) : Int :=
  Int.bmod i (Nat.pow 2 64)

def note (w : World) (key : String) : Json :=
  (w.notes.field? key).getD .null

def setNote (w : World) (key : String) (v : Json) : World :=
  let fields := (w.notes.getObj?).getD []
  { w with notes := .obj (KeyMap.insert fields key v) }

def failure (message : String) : WorkError :=
  .of (.raised .failed message)

def failText : Json → String
  | .str s => s
  | _ => "failed"

def yieldPolls (v : Json) : Nat :=
  min (v.getNat?.getD 0) 1000

def moved (w : World) (n : NodeRef) (s : ExecState) (after : World → Json) : World × JobStep :=
  match w.setState n s with
  | (w, .ok ()) => (w, .done (.ok (after w)))
  | (w, .error e) => (w, .done (.error e))

def runBuiltin (ctx : ContextRef) (name : String) (inv : Invocation) (w : World) :
    World × JobStep :=
  let a := inv.args
  let n := inv.node
  let ok (v : Json) : JobStep := .done (.ok v)
  let text (i : Nat) : String := Token.render (arg a i)
  match name with
  | "echo" => (w, ok (.arr a))
  | "first" => (w, ok (arg a 0))
  | "double" => (w, ok (.int (wrap64 (((arg a 0).getInt?.getD 0) * 2))))
  | "sum" => (w, ok (.int (wrap64 (a.foldl (fun acc v => acc + v.getInt?.getD 0) 0))))
  | "concat" => (w, ok (.str (String.join (a.map Token.render))))
  | "fail" => (w, .done (.error (failure (failText (arg a 0)))))
  | "scope" => (w, ok ((w.scopePath n (text 0)).getD .null))
  | "item" => (w, ok ((w.scopeGet n "x").getD .null))
  | "effective" => (w, ok (.obj (w.effectiveScope n)))
  | "local" => (w, ok (.obj (w.localScope n)))
  | "set_scope" => (w.scopeSet n (text 0) (arg a 1), ok (arg a 1))
  | "set_global" => (w.globalSet n (text 0) (arg a 1), ok (arg a 1))
  | "global" => (w, ok ((w.globalGet n (text 0)).getD .null))
  | "ctx_get" =>
    let (w, v) := w.ctxResolvePath ctx (text 0)
    (w, ok (v.getD .null))
  | "ctx_set" => (w.ctxSet ctx (text 0) (arg a 1), ok (arg a 1))
  | "self" => (w, ok (w.descriptor n).toJson)
  | "parent" => (w, ok (((w.parent n).map fun p => (w.descriptor p).toJson).getD .null))
  | "level" => (w, ok (.nat (w.level n)))
  | "stats" => (w, ok ((((w.parent n).bind w.jobStats).map JobStats.toJson).getD .null))
  | "cancel" => moved w n .cancelled fun _ => arg a 0
  | "cancel_parent" =>
    match w.parent n with
    | some p => moved w p .cancelled fun _ => arg a 0
    | none => (w, ok (arg a 0))
  | "move" =>
    match (arg a 0).getStr?.bind ExecState.ofName? with
    | none => (w, .done (.error (failure ("unknown state " ++ (arg a 0).compact))))
    | some s =>
      let target := match arg a 1 with
        | .str "parent" => (w.parent n).getD n
        | .str "root" => w.root n
        | _ => n
      moved w target s fun w => .str (w.state n).name
  | "emit" => (w.emit n (text 0) (a.drop 1), ok .null)
  | "tree" => (w, ok (.str (w.toTree (w.root n))))
  | "count" =>
    let c := ((note w "count").getNat?.getD 0) + 1
    (setNote w "count" (.nat c), ok (.nat c))
  | "args_len" => (w, ok (.nat a.length))
  | "reset_self" => (w.resetState n, ok .null)
  | "reset_root" => (w.resetState (w.root n), ok .null)
  | "yield" => (w, .waits (yieldPolls (arg a 0)) (.ok (arg a 1)))
  | "yield_fail" => (w, .waits (yieldPolls (arg a 0)) (.error (failure (failText (arg a 1)))))
  | other => (w, .done (.error (.of (.raised .internal ("unknown builtin " ++ other)))))

def makeBuiltin (name : String) (args : List Json) (w : World) :
    World × Except WorkError NodeRef :=
  let made (body : NodeBody) : World × Except WorkError NodeRef :=
    let (w, n) := w.addNode body
    (w, .ok n)
  match name with
  | "make_bare" => made .bare
  | "make_echo" => made (.job { name := "echo" })
  | "make_queue" => made (.queue { limit := 1 })
  | "make_loop" => made (.loop { limit := 1 } {})
  | "make_fail" => (w, .error (failure "factory failed"))
  | "make_named" =>
    let (w, n) := w.addNode (.job { name := "made", bound := .arr args })
    (w.setName n "made", .ok n)
  | other => (w, .error (.of (.raised .internal ("unknown builtin " ++ other))))

theorem wrap64_small (i : Int) (low : -(Nat.pow 2 63 : Int) ≤ i) (high : i < Nat.pow 2 63) :
    wrap64 i = i := by
  exact Int.bmod_eq_of_le low high

end TaskTree.Script
