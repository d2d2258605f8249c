import TaskTree.World

namespace TaskTree

set_option autoImplicit false

structure Invocation where
  node : NodeRef
  args : List Json

inductive JobStep where
  | done (outcome : Outcome)
  | waits (polls : Nat) (outcome : Outcome)

inductive Made where
  | node (n : NodeRef)
  | blueprint (planner : PlannerRef) (bp : Blueprint)

structure Host where
  runJob : HostFn → Invocation → World → World × JobStep
  makeNode : HostFn → List Json → World → World × Except WorkError Made
  argsFor : HostFn → Option Json → World → List Json
  templateFor : HostFn → Json → World → World × Blueprint
  conditionFor : String → Except String Condition

abbrev Engine := ExceptT WorkError (StateM World)

namespace Engine

variable {α : Type}

def of (f : World → World × Except WorkError α) : Engine α :=
  ExceptT.mk fun w => let (w, r) := f w; (r, w)

def ofExcept (r : Except WorkError α) : Engine α :=
  ExceptT.mk (pure r)

def go (m : Engine α) (w : World) : World × Except WorkError α :=
  let (r, w) := m.run.run w
  (w, r)

def addNode (body : NodeBody) : Engine NodeRef :=
  modifyGet fun w => let (w, n) := w.addNode body; (n, w)

end Engine

end TaskTree
