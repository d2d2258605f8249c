import TaskTree.Json.Reader
import TaskTree.Error
import TaskTree.Text.Alnum

namespace TaskTree

set_option autoImplicit false

namespace Limit

def check (n : Nat) : Except WorkError Nat :=
  if n = 0 then .error (.of .zeroConcurrency) else .ok n

def ofJson (v : Json) : Except WorkError Nat :=
  match v.getNat? with
  | some n => check n
  | none => .error (.of (.badConcurrency v))

theorem check_pos (n : Nat) (pos : 0 < n) : check n = .ok n := by
  simp [check, Nat.pos_iff_ne_zero.mp pos]

end Limit

structure EngineConfig where
  defaultMaxConcurrency : Nat := 1
  defaultService : String := "default"
  logFilter : String := "info"
deriving DecidableEq, Repr, Inhabited

namespace EngineConfig

def schema : Json.Schema :=
  .record "EngineConfig"
    [("defaultMaxConcurrency", .size), ("defaultService", .text), ("logFilter", .text)] true

def ofFields (v : Json) : EngineConfig :=
  { defaultMaxConcurrency := ((v.field? "defaultMaxConcurrency").bind Json.getNat?).getD 1
    defaultService := ((v.field? "defaultService").bind Json.getStr?).getD "default"
    logFilter := ((v.field? "logFilter").bind Json.getStr?).getD "info" }

def validate (c : EngineConfig) : Except WorkError Unit := do
  let _ ← Limit.check c.defaultMaxConcurrency
  if Text.trimBlank c.defaultService = "" then throw (.of .blankService)

def ofText (raw : String) : Except WorkError EngineConfig :=
  match schema.ofText raw with
  | .error e => .error (.of (.malformedConfig e.message))
  | .ok fields =>
    let c := ofFields fields
    (c.validate).map fun _ => c

def toJson (c : EngineConfig) : Json :=
  Json.mkObj [("defaultMaxConcurrency", .nat c.defaultMaxConcurrency),
    ("defaultService", .str c.defaultService), ("logFilter", .str c.logFilter)]

def installLogging (_ : EngineConfig) : Bool := false

end EngineConfig

end TaskTree
