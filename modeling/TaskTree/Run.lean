import TaskTree.Planner

namespace TaskTree

set_option autoImplicit false

inductive Task where
  | begin (node : NodeRef) (args : List Json)
  | wait (polls : Nat) (outcome : Outcome)
  | batch (queue : NodeRef) (limit : Nat) (slots : List (NodeRef × Task)) (later : List NodeRef)
      (results : List Json) (next : Nat)
  | perform (node : NodeRef) (inner : Task)
  | success (node : NodeRef) (inner : Task)
  | recovery (node : NodeRef) (inner : Task)
  | closing (node : NodeRef) (outcome : Outcome) (inner : Task)
  | settled (outcome : Outcome)
deriving Inhabited

namespace Task

def isSettled : Task → Bool
  | .settled _ => true
  | _ => false

end Task

namespace Run

def closingOutcome (outcome finished : Outcome) : Outcome :=
  match outcome, finished with
  | _, .error e => .error e
  | .error e, .ok _ => .error e
  | .ok _, .ok r => .ok r

def change {α : Type} (f : World → World × α) : StateM World α :=
  modifyGet fun w => let (w, a) := f w; (a, w)

def hook (node h : NodeRef) (defaults : List Json) : StateM World Task := do
  if !(← get).hasArgs h then modify (·.setArgs h defaults)
  if (← get).hasChild node h then pure (.begin h [])
  else
    match ← change (·.attach node h false) with
    | .ok _ => pure (.begin h [])
    | .error e => pure (.settled (.error e))

def valueOrNull : Outcome → Json
  | .ok r => r
  | .error _ => .null

def finish (node : NodeRef) (outcome : Outcome) : StateM World Task := do
  let w ← get
  match (w.node node).settings.always with
  | none => pure (.settled outcome)
  | some h =>
    pure (.closing node outcome (← hook node h [valueOrNull outcome, (w.descriptor node).toJson]))

def takes (w : World) (node : NodeRef) (e : WorkError) : Bool :=
  match (w.node node).settings.condition with
  | some c => c.accepts e.message
  | none => true

def recover (node : NodeRef) (e : WorkError) : StateM World Task := do
  match ← change (·.setStateWith node .failed [e.toJson]) with
  | .error moved => finish node (.error moved)
  | .ok () =>
    let w ← get
    match (w.node node).settings.onFail with
    | some h =>
      if takes w node e then
        pure (.recovery node (← hook node h [e.toJson, (w.descriptor node).toJson]))
      else finish node (.error e)
    | none => finish node (.error e)

def markSuccess (node : NodeRef) (r : Json) : StateM World Task := do
  match ← change (·.setStateWith node .successful [r]) with
  | .error e => recover node e
  | .ok () => finish node (.ok r)

def succeed (node : NodeRef) (r : Json) : StateM World Task := do
  let w ← get
  match (w.node node).settings.onSuccess with
  | some h => pure (.success node (← hook node h [r, (w.descriptor node).toJson]))
  | none => markSuccess node r

def afterWork (node : NodeRef) (worked : Outcome) : StateM World Task := do
  let w ← get
  let id := (w.node node).id
  if w.state node = .cancelled then
    pure (.settled (.error ((WorkError.of .cancelledWhileRunning).withNode id)))
  else
    match worked with
    | .ok r => succeed node r
    | .error e => recover node (e.withNode id)

def openBatch (queue : NodeRef) (limit : Nat) (later : List NodeRef) (results : List Json) :
    StateM World Task := do
  if later.isEmpty then pure (.settled (.ok (.arr results)))
  else
    let taken := later.take limit
    for child in taken do
      modify fun w => w.modifyStats queue fun s => { s with active := s.active + 1 }
      modify fun w => w.emit queue "job-start" [(w.descriptor child).toJson]
    pure (.batch queue limit (taken.map fun c => (c, .begin c [])) (later.drop limit) results 0)

def settleJob (queue child : NodeRef) : StateM World Unit := do
  modify fun w => w.modifyStats queue fun s =>
    { s with active := s.active - 1, complete := s.complete + 1 }
  modify fun w => w.emit queue "job-end" [(w.descriptor child).toJson]

def roundLimit : Nat := 30

def unsettled (slots : List (NodeRef × Task)) : List Nat :=
  (List.range slots.length).filter fun i => !((slots[i]?.map (·.2.isSettled)).getD true)

def nextUnsettled (slots : List (NodeRef × Task)) (start : Nat) : Option Nat :=
  let open_ := unsettled slots
  (open_.find? (start ≤ ·)).orElse fun _ => open_.head?

def pollRing (step : Task → StateM World Task) (queue : NodeRef) :
    Nat → List (NodeRef × Task) → Nat → Nat → StateM World (List (NodeRef × Task) × Nat)
  | 0, slots, next, _ => pure (slots, next)
  | budget + 1, slots, next, waiting => do
    match nextUnsettled slots next with
    | none => pure (slots, next)
    | some i =>
      match slots[i]? with
      | none => pure (slots, next)
      | some (child, t) =>
        let t ← step t
        let slots := slots.set i (child, t)
        if t.isSettled then
          settleJob queue child
          pollRing step queue budget slots (i + 1) 0
        else if waiting + 1 = 2 || (unsettled slots).length = 1 then pure (slots, i + 1)
        else pollRing step queue budget slots (i + 1) (waiting + 1)

def pollSlot (step : Task → StateM World Task) (queue : NodeRef) (slot : NodeRef × Task) :
    StateM World (NodeRef × Task) := do
  let (child, t) := slot
  if t.isSettled then pure (child, t)
  else
    let t ← step t
    if t.isSettled then settleJob queue child
    pure (child, t)

def pollSlots (step : Task → StateM World Task) (queue : NodeRef) (slots : List (NodeRef × Task))
    (next : Nat) : StateM World (List (NodeRef × Task) × Nat) :=
  if slots.length ≤ roundLimit then do
    let slots ← slots.mapM (pollSlot step queue)
    pure (slots, next)
  else pollRing step queue (3 * slots.length + 3) slots next 0

def gather : List (NodeRef × Task) → Option (Except WorkError (List Json))
  | [] => some (.ok [])
  | (_, .settled (.error e)) :: rest => (gather rest).map fun _ => .error e
  | (_, .settled (.ok v)) :: rest => (gather rest).map fun r => r.map (v :: ·)
  | _ :: _ => none

def startQueue (node : NodeRef) : StateM World Task := do
  let w ← get
  let pending := (w.children node).filter fun c => !w.isHook node c
  openBatch node ((w.maxConcurrency node).getD 1) pending []

def evalSource : ItemSource → StateM World (Except WorkError LoopBinding)
  | .clause ctx spec =>
    match spec.of with
    | .str path => do
      match ← change (·.ctxResolvePath ctx path) with
      | some v =>
        if v.isNull then pure (.error (.of (.ofNotFound path)))
        else pure (LoopBinding.ofJson spec.var v)
      | none => pure (.error (.of (.ofNotFound path)))
    | literal => pure (LoopBinding.ofJson spec.var literal)
  | .value var v => pure (LoopBinding.ofJson var v)
  | .items var items => pure (.ok ⟨var, items⟩)

def placeItem (host : Host) (node : NodeRef) (callArgs : List Json) (f : NodeFactory)
    (var : String) (item : Json) : Engine Unit := do
  let child ← makeNode host f callArgs
  Engine.append node child
  Engine.of (·.modifyLoop node fun l => { l with made := l.made ++ [child] })
  modify (·.scopeSet child var item)
  let w ← get
  if !w.hasArgs child then modify (·.setArgs child (w.resolveArgs host node callArgs (some item)))

def materialize (host : Host) (node : NodeRef) (callArgs : List Json) : Engine Unit := do
  let w ← get
  let id := (w.node node).id
  match (w.node node).body with
  | .loop _ l =>
    for child in l.made do
      modify fun w => (w.remove node child).1
    Engine.of (·.modifyLoop node fun l => { l with made := [] })
    match l.source with
    | none => pure ()
    | some src =>
      let binding ← match ← ExceptT.lift (evalSource src) with
        | .ok b => pure b
        | .error e => throw (e.withNode id)
      let f ← match l.factory with
        | some f => pure f
        | none => throw ((WorkError.of .noNodeFactory).withNode id)
      binding.items.forM (placeItem host node callArgs f binding.var)
  | _ => pure ()

def resolvePlaceholder (host : Host) (node : NodeRef) (f : NodeFactory) (args : List Json) :
    Engine NodeRef := do
  let concrete ← makeNode host f args
  let previous := (← get).resolvedNode node
  modify fun w => w.modifyNode node fun d =>
    match d.body with
    | .placeholder f _ => { d with body := .placeholder f (some concrete) }
    | _ => d
  if let some p := previous then modify fun w => (w.remove node p).1
  Engine.append node concrete
  pure concrete

def startWork (host : Host) (node : NodeRef) (callArgs args : List Json) :
    StateM World Task := do
  match ((← get).node node).body with
  | .bare => pure (.settled (.error (.of .noWork)))
  | .job f =>
    match ← change (host.runJob f ⟨node, args⟩) with
    | .done o => pure (.settled o)
    | .waits n o => pure (.wait n o)
  | .queue _ => startQueue node
  | .loop .. =>
    match ← (materialize host node callArgs).run with
    | .ok () => startQueue node
    | .error e => pure (.settled (.error e))
  | .placeholder f _ =>
    match ← (resolvePlaceholder host node f args).run with
    | .ok concrete => pure (.begin concrete [])
    | .error e => pure (.settled (.error e))

def skip (node : NodeRef) : StateM World Outcome := do
  let mut outcome : Outcome := .ok .null
  for m in (← get).traverse node do
    match ← change (·.setState m .skipped) with
    | .ok () => pure ()
    | .error e =>
      outcome := .error e
      break
  pure outcome

def begin (host : Host) (node : NodeRef) (callArgs : List Json) : StateM World Task := do
  let w ← get
  if (w.node node).settings.skipIf then pure (.settled (← skip node))
  else
    match w.validate node with
    | .error e => pure (.settled (.error e))
    | .ok () =>
      let args := w.resolveArgs host node callArgs none
      match ← change (·.setState node .inProgress) with
      | .error e => pure (.settled (.error e))
      | .ok () => pure (.perform node (← startWork host node callArgs args))

def poll (host : Host) : Nat → Task → StateM World Task
  | 0, t => pure t
  | fuel + 1, task =>
    match task with
    | .settled o => pure (.settled o)
    | .wait 0 o => pure (.settled o)
    | .wait (n + 1) o => pure (.wait n o)
    | .begin node args => do
      poll host fuel (← begin host node args)
    | .perform node inner => do
      match ← poll host fuel inner with
      | .settled o => poll host fuel (← afterWork node o)
      | t => pure (.perform node t)
    | .success node inner => do
      match ← poll host fuel inner with
      | .settled (.ok r) => poll host fuel (← markSuccess node r)
      | .settled (.error e) => poll host fuel (← recover node e)
      | t => pure (.success node t)
    | .recovery node inner => do
      match ← poll host fuel inner with
      | .settled o => poll host fuel (← finish node o)
      | t => pure (.recovery node t)
    | .closing node outcome inner => do
      match ← poll host fuel inner with
      | .settled finished => pure (.settled (closingOutcome outcome finished))
      | t => pure (.closing node outcome t)
    | .batch queue limit slots later results next => do
      let (slots, next) ← pollSlots (poll host fuel) queue slots next
      match gather slots with
      | none => pure (.batch queue limit slots later results next)
      | some (.error e) => pure (.settled (.error e))
      | some (.ok values) => poll host fuel (← openBatch queue limit later (results ++ values))

def pollDepth : Nat := 100000

def pollLimit : Nat := 10000000

def drive (host : Host) : Nat → Task → StateM World Outcome
  | 0, _ => pure (.error (.of .exhausted))
  | rounds + 1, t => do
    match ← poll host pollDepth t with
    | .settled o => pure o
    | t => drive host rounds t

end Run

def process (host : Host) (node : NodeRef) (args : List Json) : StateM World Outcome :=
  Run.drive host Run.pollLimit (.begin node args)

theorem closingOutcome_error (outcome : Outcome) (e : WorkError) :
    Run.closingOutcome outcome (.error e) = .error e := by
  cases outcome <;> rfl

structure Work where
  planner : PlannerRef
  model : Option NodeRef := none
deriving Inhabited

namespace World

def newPlanner (w : World) (config : EngineConfig) : World × PlannerRef :=
  let (w, c) := w.addContext
  w.addPlanner { config, ctx := c }

end World

namespace Work

def create (config : EngineConfig) : Engine Work := do
  Engine.ofExcept config.validate
  let p ← modifyGet fun w => let (w, p) := w.newPlanner config; (p, w)
  pure { planner := p }

def ctx (work : Work) (w : World) : ContextRef :=
  (w.planner work.planner).ctx

def setPlan (host : Host) (work : Work) (bp : Blueprint) : Engine Work := do
  let m ← toModel host work.planner bp
  pure { work with model := some m }

def process (host : Host) (work : Work) : StateM World Outcome :=
  match work.model with
  | some m => TaskTree.process host m []
  | none => pure (.error (.of .noPlan))

end Work

end TaskTree
