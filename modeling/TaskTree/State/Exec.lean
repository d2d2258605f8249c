import TaskTree.State.Machine

namespace TaskTree

set_option autoImplicit false

inductive ExecState where
  | pending
  | inProgress
  | successful
  | failed
  | skipped
  | cancelled
deriving DecidableEq, Repr, Inhabited

namespace ExecState

def all : List ExecState := [.pending, .inProgress, .successful, .failed, .skipped, .cancelled]

def name : ExecState → String
  | .pending => "pending"
  | .inProgress => "in-progress"
  | .successful => "successful"
  | .failed => "failed"
  | .skipped => "skipped"
  | .cancelled => "cancelled"

def ofName? (s : String) : Option ExecState :=
  all.find? fun st => st.name = s

def debugName : ExecState → String
  | .pending => "Pending"
  | .inProgress => "InProgress"
  | .successful => "Successful"
  | .failed => "Failed"
  | .skipped => "Skipped"
  | .cancelled => "Cancelled"

def isTerminal : ExecState → Bool
  | .pending | .inProgress => false
  | _ => true

def rules : List (Rule ExecState) :=
  [⟨[.pending], [.inProgress]⟩, ⟨[.pending], [.skipped]⟩, ⟨[.inProgress], [.failed]⟩,
    ⟨[.inProgress], [.successful]⟩, ⟨[.pending], [.cancelled]⟩,
    ⟨[.inProgress], [.cancelled]⟩]

def machine (s : ExecState) : Machine ExecState := ⟨.pending, s, rules⟩

def moveTo (s target : ExecState) : Except WorkError (Option (ExecState × ExecState)) :=
  ((machine s).setState name target).map Prod.snd

theorem ofName?_name (s : ExecState) : ofName? s.name = some s := by
  cases s <;> rfl

end ExecState

end TaskTree
