import TaskTree.Proofs.Behaves

set_option autoImplicit false

namespace TaskTree

-- The node of a blueprint that is a compiled node already.
def Blueprint.compiled : Blueprint → Option NodeRef
  | .node n => some n
  | .plan _ => none

namespace Compile

-- A host whose templates and factories are given functions: a template gives a blueprint for
-- each item and changes nothing, and a factory adds a node with the body that it gives for its
-- arguments, or fails.
structure Given (host : Host) (template : HostFn → Json → Blueprint)
    (factory : HostFn → List Json → Except WorkError NodeBody) : Prop where
  templates : ∀ t item w, host.templateFor t item w = (w, template t item)
  factories : ∀ f args w, host.makeNode f args w =
    match factory f args with
    | .ok body => ((w.addNode body).1, .ok (.node (w.addNode body).2))
    | .error e => (w, .error e)

-- A limit on children running at once: none, or a whole number of at least one.
def ValidLimit : Option Json → Prop
  | none => True
  | some v => ∃ n, v.getNat? = some n ∧ 0 < n

-- A job plan invokes a job function of the planner's services, or runs a function of its own.
def JobReady (w : World) (p : PlannerRef) (plan : Plan) : Prop :=
  match plan.invoke with
  | some invoke => ∃ f, w.serviceFunction p plan.service invoke = .ok (.job f)
  | none => plan.run.isSome

-- The item plan of a loop: a job plan that is ready, or a queue plan with entries.
def LoopItem (w : World) (p : PlannerRef) : Blueprint → Prop
  | .node _ => False
  | .plan item =>
    (item.type = .job ∧ JobReady w p item) ∨ (item.type = .queue ∧ item.queue.isSome)

-- A factory plan invokes a factory of the planner's services that makes a node with work, or
-- runs a factory of its own that makes a node; either is called with no arguments.
def FactoryReady (factory : HostFn → List Json → Except WorkError NodeBody) (w : World)
    (p : PlannerRef) (plan : Plan) : Prop :=
  match plan.invoke with
  | some invoke => ∃ f, w.serviceFunction p plan.service invoke = .ok (.factory f) ∧
      ∃ body, factory f [] = .ok body ∧ body.kind ≠ .node
  | none => ∃ f, plan.factory = some f ∧ ∃ body, factory f [] = .ok body

-- The failure condition of a plan, if it has one, compiles.
def ConditionValid (conditionFor : String → Except String Condition) (plan : Plan) : Prop :=
  ∀ pattern ∈ plan.onFailCondition, ∃ c, conditionFor pattern = .ok c

section Shape

variable (template : HostFn → Json → Blueprint)
  (factory : HostFn → List Json → Except WorkError NodeBody)
  (conditionFor : String → Except String Condition) (w : World) (p : PlannerRef)

-- A well-formed blueprint, nested at most `fuel` deep: a compiled node, or a plan of a known
-- type whose hooks are well formed and whose parts its type needs are there and well formed. The
-- planner's services are read in `w`.
def WellFormed : Nat → Blueprint → Prop
  | 0, _ => False
  | _ + 1, .node _ => True
  | fuel + 1, .plan plan =>
    (∀ h ∈ plan.onFail, WellFormed fuel h) ∧ (∀ h ∈ plan.onSuccess, WellFormed fuel h) ∧
    (∀ h ∈ plan.always, WellFormed fuel h) ∧
    match plan.type with
    | .job => JobReady w p plan ∧ ConditionValid conditionFor plan
    | .queue =>
      ((∃ entries, plan.queue = some entries ∧ ∀ e ∈ entries, WellFormed fuel e) ∧
        ValidLimit plan.maxConcurrency) ∧ ConditionValid conditionFor plan
    | .template =>
      ((∃ t, plan.template = some t ∧
          ∀ item ∈ plan.repeatForEach.getD [], WellFormed fuel (template t item)) ∧
        ValidLimit plan.maxConcurrency) ∧ ConditionValid conditionFor plan
    | .loop =>
      (ValidLimit plan.maxConcurrency ∧ ∃ item, plan.node = some item ∧ LoopItem w p item) ∧
        ConditionValid conditionFor plan
    | .factory => FactoryReady factory w p plan
    | .unknown => False

-- The compiled nodes that compiling a blueprint links beneath the queues it builds, in the order
-- it links them: the entries of queues and the blueprints of templates that are compiled nodes
-- already.
def links : Nat → Blueprint → List NodeRef
  | 0, _ => []
  | _ + 1, .node _ => []
  | fuel + 1, .plan plan =>
    let entry (e : Blueprint) : List NodeRef := links fuel e ++ e.compiled.toList
    (plan.onFail.map (links fuel)).getD [] ++ ((plan.onSuccess.map (links fuel)).getD [] ++
      ((plan.always.map (links fuel)).getD [] ++
        match plan.type with
        | .queue => (plan.queue.getD []).flatMap entry
        | .template =>
          match plan.template with
          | some t => (plan.repeatForEach.getD []).flatMap fun item => entry (template t item)
          | none => []
        | _ => []))

end Shape

-- What compiling a blueprint gives: a compiled node itself, or a node it added.
def Made (w : World) : Blueprint → NodeRef → World → Prop
  | .node n => fun r _ => r = n
  | .plan _ => fun r w' => Fresh w w' r

end Compile

namespace World

-- The planner's lookups read the planners alone, which compiling never changes.
theorem serviceFunction_eq {w w₀ : World} (same : w.planners = w₀.planners) (p : PlannerRef)
    (service : Option String) (invoke : String) :
    w.serviceFunction p service invoke = w₀.serviceFunction p service invoke := by
  simp only [serviceFunction, planner, same]

theorem jobFunction_ok_iff (w : World) (p : PlannerRef) (service : Option String)
    (invoke : String) (f : HostFn) :
    w.jobFunction p service invoke = .ok f ↔ w.serviceFunction p service invoke = .ok (.job f) := by
  unfold jobFunction
  cases w.serviceFunction p service invoke with
  | error e => simp
  | ok fn => cases fn <;> simp

theorem modifyLoop_of_loop (w : World) (n : NodeRef) (f : LoopState → LoopState) (q : QueueState)
    (l : LoopState) (loop : (w.node n).body = .loop q l) :
    w.modifyLoop n f = (w.modifyNode n fun d => { d with body := .loop q (f l) }, .ok ()) := by
  simp [modifyLoop, loop]

-- The loop factory of an item plan is made exactly when the item plan is one a loop can run.
theorem loopFactory_ok_iff (w : World) (p : PlannerRef) (bp : Blueprint) :
    (∃ f, w.loopFactory p bp = .ok f) ↔ Compile.LoopItem w p bp := by
  cases bp with
  | node n => simp [loopFactory, Compile.LoopItem]
  | plan item =>
      cases kind : item.type with
      | job =>
          cases invoked : item.invoke with
          | some invoke =>
              cases found : w.jobFunction p item.service invoke with
              | error e =>
                  simp only [loopFactory, Compile.LoopItem, Compile.JobReady, kind, invoked, found]
                  simp [← jobFunction_ok_iff, found, Except.map]
              | ok f =>
                  simp only [loopFactory, Compile.LoopItem, Compile.JobReady, kind, invoked, found]
                  simp [← jobFunction_ok_iff, found, Except.map]
          | none =>
              cases ran : item.run <;>
                simp [loopFactory, Compile.LoopItem, Compile.JobReady, kind, invoked, ran, Except.map]
      | queue =>
          cases listed : item.queue <;> simp [loopFactory, Compile.LoopItem, kind, listed, Except.map]
      | template => simp [loopFactory, Compile.LoopItem, kind, Except.map]
      | loop => simp [loopFactory, Compile.LoopItem, kind, Except.map]
      | factory => simp [loopFactory, Compile.LoopItem, kind, Except.map]
      | unknown => simp [loopFactory, Compile.LoopItem, kind, Except.map]

-- A node just added has no hooks, so it passes the check exactly when it has work.
theorem validate_addNode_ok_iff (w : World) (body : NodeBody) :
    (w.addNode body).1.validate (w.addNode body).2 = .ok () ↔ body.kind ≠ .node := by
  have added : (w.addNode body).1.node (w.addNode body).2 = { id := nodeIdOf w.nodes.size, body } := by
    rw [node_addNode, if_pos (show (w.addNode body).2.index = w.nodes.size from rfl)]
    rfl
  by_cases bare : body.kind = .node
  · simp [validate, kind, added, bare]
  · simp [validate, kind, added, bare]

end World

theorem Limit.check_ok_iff (n l : Nat) : Limit.check n = .ok l ↔ 0 < n ∧ l = n := by
  by_cases zero : n = 0
  · simp [Limit.check, zero]
  · simp [Limit.check, zero, Nat.pos_iff_ne_zero, eq_comm]

namespace Compile

-- With a positive default, the limit that a plan gives is positive exactly when it is valid.
theorem validLimit_iff (w : World) (p : PlannerRef) (plan : Plan)
    (positive : 0 < (w.planner p).config.defaultMaxConcurrency) :
    ValidLimit plan.maxConcurrency ↔ ∃ l, w.concurrency p plan = .ok l ∧ 0 < l := by
  unfold World.concurrency
  cases plan.maxConcurrency with
  | none => simp [ValidLimit, positive]
  | some v =>
      simp only [ValidLimit, Limit.ofJson]
      cases v.getNat? with
      | none => simp
      | some n =>
          simp only [Option.some.injEq, exists_eq_left', Limit.check_ok_iff]
          constructor
          · intro positive
            exact ⟨n, ⟨positive, rfl⟩, positive⟩
          · rintro ⟨l, ⟨positive, -⟩, -⟩
            exact positive

section Builders

variable (p : PlannerRef) (w₀ : World)

theorem job_behaves (plan : Plan) (w : World) (same : w.planners = w₀.planners) :
    Behaves (job p plan) w (JobReady w₀ p plan) [] (fun r w' => Fresh w w' r) := by
  cases invoked : plan.invoke with
  | some invoke =>
      cases looked : w.jobFunction p plan.service invoke with
      | error e =>
          have ran : (job p plan).run w = (.error e, w) := by
            simp [job, invoked, looked]
          refine (Behaves.of_error ran).of_iff ?_
          simp only [JobReady, invoked, ← World.serviceFunction_eq same, false_iff, not_exists]
          intro f found
          rw [← World.jobFunction_ok_iff, looked] at found
          cases found
      | ok f =>
          let added := w.addNode (.job f)
          have ran : (job p plan).run w = (.ok added.2, added.1.setInvoke added.2 invoke) := by
            simp [job, invoked, looked, added, Except.map]
          have steady : Steady added.1 (added.1.setInvoke added.2 invoke) :=
            added.1.steady_modifySettings _ _
          refine (Behaves.of_steady ran ((w.steady_addNode _).trans steady)
            ((fresh_addNode w _).steady steady)).of_iff ?_
          simp only [JobReady, invoked, ← World.serviceFunction_eq same, true_iff]
          exact ⟨f, (World.jobFunction_ok_iff _ _ _ _ _).mp looked⟩
  | none =>
      cases hasRun : plan.run with
      | none =>
          have ran : (job p plan).run w = (.error (.of (.invalidPlan plan.type.name)), w) := by
            simp [job, invoked, hasRun]
          refine (Behaves.of_error ran).of_iff ?_
          simp [JobReady, invoked, hasRun]
      | some f =>
          have ran : (job p plan).run w = (.ok (w.addNode (.job f)).2, (w.addNode (.job f)).1) := by
            simp [job, invoked, hasRun]
          refine (Behaves.of_steady ran (w.steady_addNode _) (fresh_addNode w _)).of_iff ?_
          simp [JobReady, invoked, hasRun]

-- A queue or loop node is added once the plan's limit passes; what follows runs on the world
-- with the new node.
theorem limited_behaves {β : Type} (newNode : Nat → Engine NodeRef) (make : Nat → NodeBody)
    (made : ∀ l w, (newNode l).run w = match Limit.check l with
      | .ok l => (.ok (w.addNode (make l)).2, (w.addNode (make l)).1)
      | .error e => (.error e, w))
    (plan : Plan) (w : World) (same : w.planners = w₀.planners)
    (positive : 0 < (w₀.planner p).config.defaultMaxConcurrency)
    {k : NodeRef → Engine β} {holds : Prop} {links : List NodeRef} {post : β → World → Prop}
    (present : Present w links)
    (rest : ∀ l, 0 < l → Behaves (k (w.addNode (make l)).2) (w.addNode (make l)).1 holds links post) :
    Behaves (get >>= fun w => Engine.ofExcept (w.concurrency p plan) >>= fun l => newNode l >>= k) w
      (ValidLimit plan.maxConcurrency ∧ holds) links post := by
  have valid : ValidLimit plan.maxConcurrency ↔ ∃ l, w.concurrency p plan = .ok l ∧ 0 < l := by
    have planner : w.planner p = w₀.planner p := by simp only [World.planner, same]
    exact validLimit_iff w p plan (planner ▸ positive)
  refine Behaves.of_bind_ok (Engine.run_get w) (Steady.refl w) present ?_
  cases limit : w.concurrency p plan with
  | error e =>
      refine (Behaves.of_bind_error (Engine.run_ofExcept _ w)).of_iff ?_
      simp [valid, limit]
  | ok l =>
      refine Behaves.of_bind_ok (Engine.run_ofExcept _ w) (Steady.refl w) present ?_
      by_cases zero : l = 0
      · have refused : Limit.check l = .error (.of .zeroConcurrency) := by simp [Limit.check, zero]
        refine (Behaves.of_bind_error (by rw [made, refused])).of_iff ?_
        simp [valid, limit, zero]
      · have checked : Limit.check l = .ok l := Limit.check_pos l (Nat.pos_of_ne_zero zero)
        refine (Behaves.of_bind_ok (by rw [made, checked]) (w.steady_addNode _) present
          (rest l (Nat.pos_of_ne_zero zero))).of_iff ?_
        simp [valid, limit, Nat.pos_of_ne_zero zero]

theorem newQueue_run (l : Nat) (w : World) :
    (Engine.newQueue l).run w = match Limit.check l with
      | .ok l => (.ok (w.addNode (.queue { limit := l })).2, (w.addNode (.queue { limit := l })).1)
      | .error e => (.error e, w) := by
  cases checked : Limit.check l <;> simp [Engine.newQueue, checked]

theorem newLoop_run (l : Nat) (w : World) :
    (Engine.newLoop l).run w = match Limit.check l with
      | .ok l => (.ok (w.addNode (.loop { limit := l } {})).2, (w.addNode (.loop { limit := l } {})).1)
      | .error e => (.error e, w) := by
  cases checked : Limit.check l <;> simp [Engine.newLoop, checked]

-- The factory of a loop's children goes into the loop node once the item plan qualifies.
theorem loopFactory_behaves (n : NodeRef) (bp : Blueprint) (w : World)
    (same : w.planners = w₀.planners) (q : QueueState) (l : LoopState)
    (loop : (w.node n).body = .loop q l) :
    Behaves (get >>= fun w => Engine.ofExcept (w.loopFactory p bp) >>= fun f =>
        Engine.of (fun x => x.setNodeFactory n f) >>= fun _ => pure n)
      w (LoopItem w₀ p bp) [] (fun r w' => r = n ∧ Steady w w') := by
  have lookup : w.loopFactory p bp = w₀.loopFactory p bp := by
    simp only [World.loopFactory, World.jobFunction, World.serviceFunction_eq same]
  refine Behaves.of_bind_ok (Engine.run_get w) (Steady.refl w) (present_nil _) ?_
  cases made : w.loopFactory p bp with
  | error e =>
      refine (Behaves.of_bind_error (Engine.run_ofExcept _ w)).of_iff ?_
      rw [← World.loopFactory_ok_iff, ← lookup, made]
      simp
  | ok f =>
      refine Behaves.of_bind_ok (Engine.run_ofExcept _ w) (Steady.refl w)
        (present_nil _) ?_
      have set : (Engine.of fun x => x.setNodeFactory n f).run w =
          (.ok (), (w.modifyNode n fun d => { d with body := .loop q { l with factory := some f } })) := by
        simp [World.setNodeFactory, World.modifyLoop_of_loop w n _ q l loop]
      have steady := w.steady_modifyNode n (fun d => { d with body := .loop q { l with factory := some f } })
        (fun _ => rfl) (fun _ => rfl)
      refine (Behaves.of_bind_ok set steady (present_nil _)
        (Behaves.of_pure n ⟨rfl, steady⟩)).of_iff ?_
      rw [← World.loopFactory_ok_iff, ← lookup, made]
      simp

theorem loop_behaves (plan : Plan) (w : World) (same : w.planners = w₀.planners)
    (positive : 0 < (w₀.planner p).config.defaultMaxConcurrency) :
    Behaves (loop p plan) w
      (ValidLimit plan.maxConcurrency ∧ ∃ item, plan.node = some item ∧ LoopItem w₀ p item) []
      (fun r w' => Fresh w w' r) := by
  simp only [loop]
  refine limited_behaves p w₀ Engine.newLoop (fun l => .loop { limit := l } {}) newLoop_run plan w
    same positive (present_nil _) fun l _ => ?_
  -- the new loop node takes its source, then its factory
  let added := w.addNode (.loop { limit := l } {})
  have fresh : Fresh w added.1 added.2 := fresh_addNode w _
  have planners : added.1.planners = w₀.planners := by rw [(w.steady_addNode _).planners, same]
  have body : (added.1.node added.2).body = .loop { limit := l } {} := by
    rw [World.node_addNode, if_pos (show added.2.index = w.nodes.size from rfl)]
  cases each : plan.forEach with
  | none =>
      cases named : plan.node with
      | none =>
          simp only
          exact (Behaves.of_bind_error (Engine.run_throw _ _)).of_iff (by simp)
      | some bp =>
          simp only [pure_bind]
          exact (loopFactory_behaves p w₀ added.2 bp added.1 planners _ _ body).conseq (by simp)
            (fun r w' after => after.1 ▸ fresh.steady after.2)
  | some spec =>
      -- the source goes into the new loop node, which stays a loop
      let source : ItemSource := .clause (added.1.planner p).ctx spec
      let update := fun d : NodeData => { d with body := .loop { limit := l } { source := some source } }
      have set : (Engine.of fun x => x.setLoopSource added.2 source).run added.1 =
          (.ok (), added.1.modifyNode added.2 update) := by
        simp [World.setLoopSource, World.modifyLoop_of_loop _ _ _ _ _ body, update]
      have steady := added.1.steady_modifyNode added.2 update (fun _ => rfl) (fun _ => rfl)
      have sourced : ((added.1.modifyNode added.2 update).node added.2).body =
          .loop { limit := l } { source := some source } := by
        rw [World.node_modifyNode_self _ _ _ fresh.present]
      simp only
      refine Behaves.of_bind_ok (Engine.run_get _) (Steady.refl _) (present_nil _) ?_
      refine Behaves.of_bind_ok set steady (present_nil _) ?_
      cases named : plan.node with
      | none =>
          simp only
          exact (Behaves.of_bind_error (Engine.run_throw _ _)).of_iff (by simp)
      | some bp =>
          simp only [pure_bind]
          exact (loopFactory_behaves p w₀ added.2 bp _ (steady.planners.trans planners) _ _
            sourced).conseq (by simp) (fun r w' after => after.1 ▸ (fresh.steady steady).steady after.2)

-- A host factory called with no arguments: the node it adds is what follows works on.
theorem make_behaves (compile : Compiler) (host : Host)
    (factory : HostFn → List Json → Except WorkError NodeBody)
    (factories : ∀ f args w, host.makeNode f args w =
      match factory f args with
      | .ok body => ((w.addNode body).1, .ok (.node (w.addNode body).2))
      | .error e => (w, .error e))
    (f : HostFn) (w : World) {β : Type} {k : NodeRef → Engine β} {need : NodeBody → Prop}
    {post : β → World → Prop}
    (rest : ∀ body, factory f [] = .ok body →
      Behaves (k (w.addNode body).2) (w.addNode body).1 (need body) [] post) :
    Behaves (make compile host (.host f) [] >>= k) w
      (∃ body, factory f [] = .ok body ∧ need body) [] post := by
  cases built : factory f [] with
  | error e =>
      have ran : (make compile host (.host f) []).run w = (.error e, w) := by
        simp [make, factories, built]
      exact (Behaves.of_bind_error ran).of_iff (by simp)
  | ok body =>
      have ran : (make compile host (.host f) []).run w =
          (.ok (w.addNode body).2, (w.addNode body).1) := by
        simp [make, factories, built]
      exact (Behaves.of_bind_ok ran (w.steady_addNode body) (present_nil _) (rest body built)).of_iff
        (by simp)

-- A factory plan: the node that the factory makes, checked when the factory was invoked, then
-- given the plan's arguments.
theorem factory_behaves (compile : Compiler) (host : Host)
    (factory : HostFn → List Json → Except WorkError NodeBody)
    (factories : ∀ f args w, host.makeNode f args w =
      match factory f args with
      | .ok body => ((w.addNode body).1, .ok (.node (w.addNode body).2))
      | .error e => (w, .error e))
    (plan : Plan) (w : World) (same : w.planners = w₀.planners) :
    Behaves (Compile.factory compile host p plan) w (FactoryReady factory w₀ p plan) []
      (fun r w' => Fresh w w' r) := by
  unfold Compile.factory
  extract_lets finish
  -- what follows the node: its arguments, a steady change
  have finishes : ∀ body, Behaves (finish (w.addNode body).2) (w.addNode body).1 True []
      (fun r w' => Fresh w w' r) := by
    intro body
    have fresh := fresh_addNode w body
    simp only [finish]
    cases plan.args with
    | none => exact Behaves.of_steady rfl (Steady.refl _) fresh
    | some args =>
        have steady := (w.addNode body).1.steady_modifySettings (w.addNode body).2
          fun s => { s with args := some args }
        exact Behaves.of_steady (by simp [Except.map, World.setArgs]) steady (fresh.steady steady)
  have made := make_behaves compile host factory factories
  cases invoked : plan.invoke with
  | none =>
      cases own : plan.factory with
      | none =>
          simp only
          exact (Behaves.of_bind_error (Engine.run_throw _ _)).of_iff (by simp [FactoryReady, invoked, own])
      | some f =>
          simp only
          exact (made f w fun body _ => finishes body).of_iff (by simp [FactoryReady, invoked, own])
  | some invoke =>
      simp only
      refine Behaves.of_bind_ok (Engine.run_get w) (Steady.refl w) (present_nil _) ?_
      have lookup := World.serviceFunction_eq same p plan.service invoke
      cases looked : w.serviceFunction p plan.service invoke with
      | error e =>
          simp only
          exact (Behaves.of_bind_error (Engine.run_throw _ _)).of_iff
            (by simp [FactoryReady, invoked, ← lookup, looked])
      | ok fn =>
          cases fn with
          | job f =>
              simp only
              exact (Behaves.of_bind_error (Engine.run_throw _ _)).of_iff
                (by simp [FactoryReady, invoked, ← lookup, looked])
          | factory f =>
              simp only [pure_bind]
              refine (made f w fun body _ => (?_ : Behaves _ _ (body.kind ≠ .node) _ _)).of_iff
                (by simp [FactoryReady, invoked, ← lookup, looked])
              -- an invoked factory's node must have work of its own
              refine Behaves.of_bind_ok (Engine.run_get _) (Steady.refl _) (present_nil _) ?_
              cases checked : (w.addNode body).1.validate (w.addNode body).2 with
              | error e =>
                  have bare : body.kind = .node := Classical.byContradiction fun working => by
                    have passes := (World.validate_addNode_ok_iff w body).mpr working
                    rw [checked] at passes
                    cases passes
                  exact (Behaves.of_bind_error (Engine.run_ofExcept _ _)).of_iff (by simp [bare])
              | ok u =>
                  have working := (World.validate_addNode_ok_iff w body).mp checked
                  exact (Behaves.of_bind_ok (Engine.run_ofExcept _ _) (Steady.refl _)
                    (present_nil _) (finishes body)).of_iff (by simp [working])

-- The options of a plan: steady settings, and a failure condition that must be a valid
-- expression.
theorem options_behaves (host : Host) (n : NodeRef) (plan : Plan) (w : World) :
    Behaves (options host n plan) w (ConditionValid host.conditionFor plan) []
      (fun _ w' => Steady w w') := by
  unfold options
  extract_lets scopes skipping condition withArgsFn withArgs
  have scopesSet : Steadily (scopes ()) := by
    simp only [scopes]
    split
    · refine Steadily.bind (Steadily.forIn _ (fun entry => ?_) _) fun _ => Steadily.of_pure _
      obtain ⟨key, v⟩ := entry
      exact Steadily.bind (Steadily.of_modify fun w => w.steady_scopeSet _ _ _)
        fun _ => Steadily.of_pure _
    · exact Steadily.of_pure _
  have skipped : Steadily (skipping ()) := by
    simp only [skipping]
    split
    · exact Steadily.bind (Steadily.of_modify fun w => w.steady_modifySettings _ _) fun _ => scopesSet
    · exact scopesSet
  -- the condition is the one step that can fail
  have conditioned : ∀ w₁, Behaves (condition ()) w₁ (ConditionValid host.conditionFor plan) []
      (fun _ w' => Steady w₁ w') := by
    intro w₁
    simp only [condition]
    split
    · rename_i pattern given
      split
      · rename_i r compiled
        refine (Behaves.after_modify (w₁.steady_modifySettings _ _) (skipped.behaves _)
          (fun _ _ after => (w₁.steady_modifySettings _ _).trans after)).of_iff ?_
        simp [ConditionValid, given, compiled]
      · rename_i detail refused
        refine (Behaves.of_bind_error (Engine.run_throw _ _)).of_iff ?_
        simp [ConditionValid, given, refused]
    · rename_i none
      refine (skipped.behaves w₁).of_iff ?_
      cases given : plan.onFailCondition with
      | none => simp [ConditionValid, given]
      | some pattern => exact absurd given (none pattern)
  have argsFnSet : ∀ w₁, Behaves (withArgsFn ()) w₁ (ConditionValid host.conditionFor plan) []
      (fun _ w' => Steady w₁ w') := by
    intro w₁
    simp only [withArgsFn]
    split
    · exact Behaves.after_modify (w₁.steady_modifySettings _ _) (conditioned _)
        (fun _ _ after => (w₁.steady_modifySettings _ _).trans after)
    · exact conditioned w₁
  have argsSet : ∀ w₁, Behaves (withArgs ()) w₁ (ConditionValid host.conditionFor plan) []
      (fun _ w' => Steady w₁ w') := by
    intro w₁
    simp only [withArgs]
    split
    · exact Behaves.after_modify (w₁.steady_modifySettings _ _) (argsFnSet _)
        (fun _ _ after => (w₁.steady_modifySettings _ _).trans after)
    · exact argsFnSet w₁
  split
  · exact Behaves.after_modify (w.steady_modifySettings _ _) (argsSet _)
      (fun _ _ after => (w.steady_modifySettings _ _).trans after)
  · exact argsSet w

end Builders

section Entries

variable (p : PlannerRef) (w₀ : World) (compile : Compiler) (wf : Blueprint → Prop) (linksOf : Blueprint → List NodeRef)
  (compiles : ∀ e w, w.planners = w₀.planners → Present w (linksOf e) →
    Behaves (compile p e) w (wf e) (linksOf e) (Made w e))
  (nodeLinks : ∀ n, linksOf (.node n) = [])

include compiles in
theorem hook_behaves (h : Option Blueprint) (w : World) (same : w.planners = w₀.planners)
    (present : Present w ((h.map linksOf).getD [])) :
    Behaves (hook compile p h) w (∀ bp ∈ h, wf bp) ((h.map linksOf).getD []) (fun _ _ => True) := by
  cases h with
  | none => exact (Behaves.of_pure none trivial).of_iff (by simp)
  | some bp =>
      exact ((compiles bp w same present).map some).conseq (by simp) (fun _ _ _ => trivial)

include compiles nodeLinks

-- One entry of a queue: compiled, then appended beneath the queue `q`, which is newer than
-- every node that the entry links.
theorem entry_behaves (base : World) (q : NodeRef) (e : Blueprint) (w : World)
    (same : w.planners = w₀.planners) (queue : Fresh base w q)
    (present : Present base (linksOf e ++ e.compiled.toList)) :
    Behaves (compile p e >>= fun c => Engine.append q c >>= fun _ => pure (ForInStep.yield ()))
      w (wf e) (linksOf e ++ e.compiled.toList)
      (fun r w' => r = .yield () ∧ w'.planners = w₀.planners ∧ Fresh base w' q) := by
  have older : ∀ m ∈ linksOf e ++ e.compiled.toList, m.index < q.index := fun m member =>
    Nat.lt_of_lt_of_le (present m member) queue.new
  have presentNow : Present w (linksOf e ++ e.compiled.toList) := present.grow queue.grows
  -- after the compile, the child goes beneath the queue, which nothing has linked
  have appended : ∀ c w₁, Keeps (linksOf e) w w₁ → c ≠ q → c.index < w₁.nodes.size →
      Behaves (Engine.append q c >>= fun _ => pure (ForInStep.yield ())) w₁ True [c]
        (fun r w' => r = .yield () ∧ w'.planners = w₀.planners ∧ Fresh base w' q) := by
    intro c w₁ keeps differ present₁
    have outside : q ∉ linksOf e := fun member =>
      Nat.lt_irrefl _ (older q (List.mem_append_left _ member))
    have queue₁ := queue.keeps keeps outside
    refine ((append_behaves w₁ q c differ queue₁.parent_none present₁ queue₁.live).bind
      (present_nil _) fun _ w₂ _ keeps₂ _ => ?_).of_iff
      (by rw [and_true])
    refine Behaves.of_pure _ ⟨rfl, ?_, queue₁.keeps keeps₂ ?_⟩
    · rw [keeps₂.planners, keeps.planners, same]
    · rw [List.mem_singleton]
      exact fun same => differ same.symm
  have compiled := compiles e w same (present_append.mp presentNow).1
  cases e with
  | node n =>
      rw [nodeLinks n] at compiled presentNow older ⊢
      refine (compiled.bind presentNow fun c w₁ _ keeps made => ?_).of_iff (by rw [and_true])
      subst made
      have differ : c ≠ q := fun same => by
        subst same
        exact Nat.lt_irrefl _ (older c (List.mem_singleton_self c))
      exact appended c w₁ (by rw [nodeLinks]; exact keeps) differ
        (Nat.lt_of_lt_of_le (presentNow c (List.mem_singleton_self c)) keeps.grows)
  | plan pl =>
      rw [show (Blueprint.plan pl).compiled.toList = [] from rfl, List.append_nil]
      refine (compiled.bind_fresh fun c w₁ _ keeps fresh => ?_).of_iff (by rw [and_true])
      have differ : c ≠ q := fun same => by
        subst same
        exact Nat.lt_irrefl _ (Nat.lt_of_lt_of_le queue.present fresh.new)
      exact appended c w₁ keeps differ fresh.present

-- The entries of a queue, each compiled and appended in turn.
theorem entries_behaves (base : World) (q : NodeRef) (entries : List Blueprint) (w : World)
    (same : w.planners = w₀.planners) (queue : Fresh base w q)
    (present : Present base (entries.flatMap fun e => linksOf e ++ e.compiled.toList)) :
    Behaves (forIn entries () fun e _ =>
        compile p e >>= fun c => Engine.append q c >>= fun _ => pure (ForInStep.yield ()))
      w (∀ e ∈ entries, wf e) (entries.flatMap fun e => linksOf e ++ e.compiled.toList)
      (fun _ w' => w'.planners = w₀.planners ∧ Fresh base w' q) :=
  Behaves.forIn _ wf (fun e => linksOf e ++ e.compiled.toList)
    (fun w => w.planners = w₀.planners ∧ Fresh base w q) entries
    (fun e member w inv _ => entry_behaves p w₀ compile wf linksOf compiles nodeLinks base q e w
      inv.1 inv.2 (fun m inner => present m (List.mem_flatMap.mpr ⟨e, member, inner⟩)))
    w ⟨same, queue⟩
    (present.grow queue.grows)

-- A template's items: each blueprint that the template gives is compiled and appended.
theorem items_behaves (host : Host) (template : HostFn → Json → Blueprint)
    (templates : ∀ t item w, host.templateFor t item w = (w, template t item)) (t : HostFn)
    (base : World) (q : NodeRef) (items : List Json) (w : World)
    (same : w.planners = w₀.planners) (queue : Fresh base w q)
    (present : Present base (items.flatMap fun item =>
      linksOf (template t item) ++ (template t item).compiled.toList)) :
    Behaves (forIn items () fun item _ =>
        (modifyGet fun w => match host.templateFor t item w with | (w, bp) => (bp, w)) >>= fun bp =>
          compile p bp >>= fun c => Engine.append q c >>= fun _ => pure (ForInStep.yield ()))
      w (∀ item ∈ items, wf (template t item))
      (items.flatMap fun item => linksOf (template t item) ++ (template t item).compiled.toList)
      (fun _ w' => w'.planners = w₀.planners ∧ Fresh base w' q) :=
  Behaves.forIn _ (fun item => wf (template t item))
    (fun item => linksOf (template t item) ++ (template t item).compiled.toList)
    (fun w => w.planners = w₀.planners ∧ Fresh base w q) items
    (fun item member w inv presentNow => by
      have picked : (modifyGet fun w => match host.templateFor t item w with | (w, bp) => (bp, w) :
          Engine Blueprint).run w = (.ok (template t item), w) := by
        rw [Engine.run_modifyGet, templates]
      exact Behaves.of_bind_ok picked (Steady.refl w) presentNow
        (entry_behaves p w₀ compile wf linksOf compiles nodeLinks base q (template t item) w
          inv.1 inv.2 (fun m inner => present m (List.mem_flatMap.mpr ⟨item, member, inner⟩))))
    w ⟨same, queue⟩
    (present.grow queue.grows)

theorem queue_behaves (plan : Plan) (w : World) (same : w.planners = w₀.planners)
    (positive : 0 < (w₀.planner p).config.defaultMaxConcurrency)
    (present : Present w ((plan.queue.getD []).flatMap fun e => linksOf e ++ e.compiled.toList)) :
    Behaves (queue compile p plan) w
      ((∃ entries, plan.queue = some entries ∧ ∀ e ∈ entries, wf e) ∧ ValidLimit plan.maxConcurrency)
      ((plan.queue.getD []).flatMap fun e => linksOf e ++ e.compiled.toList)
      (fun r w' => Fresh w w' r) := by
  cases listed : plan.queue with
  | none =>
      have ran : (queue compile p plan).run w = (.error (.of (.invalidPlan plan.type.name)), w) := by
        simp [queue, listed]
      exact (Behaves.of_error ran).of_iff (by simp)
  | some entries =>
      rw [listed, Option.getD_some] at present
      simp only [queue, listed, Option.getD_some, pure_bind]
      refine (limited_behaves p w₀ Engine.newQueue (fun l => .queue { limit := l }) newQueue_run plan w
        same positive present fun l _ =>
          (?_ : Behaves _ _ ((∀ e ∈ entries, wf e) ∧ True) _ _)).of_iff ?_
      · -- the entries go beneath the new queue, which is the result
        have planners : (w.addNode (.queue { limit := l })).1.planners = w₀.planners := by
          rw [(w.steady_addNode _).planners, same]
        refine ((entries_behaves p w₀ compile wf linksOf compiles nodeLinks w _ entries _ planners
          (fresh_addNode w _) present).bind (present_nil _)
          fun _ w₂ _ _ after => Behaves.of_pure _ after.2).of_links (List.append_nil _)
      · simp [and_comm]

theorem template_behaves (host : Host) (template : HostFn → Json → Blueprint)
    (templates : ∀ t item w, host.templateFor t item w = (w, template t item)) (plan : Plan)
    (t : HostFn) (given : plan.template = some t) (w : World) (same : w.planners = w₀.planners)
    (positive : 0 < (w₀.planner p).config.defaultMaxConcurrency)
    (present : Present w ((plan.repeatForEach.getD []).flatMap fun item =>
      linksOf (template t item) ++ (template t item).compiled.toList)) :
    Behaves (Compile.template compile host p plan) w
      ((∀ item ∈ plan.repeatForEach.getD [], wf (template t item)) ∧ ValidLimit plan.maxConcurrency)
      ((plan.repeatForEach.getD []).flatMap fun item =>
        linksOf (template t item) ++ (template t item).compiled.toList)
      (fun r w' => Fresh w w' r) := by
  simp only [Compile.template, given, pure_bind]
  refine (limited_behaves p w₀ Engine.newQueue (fun l => .queue { limit := l }) newQueue_run plan w
    same positive present fun l _ =>
      (?_ : Behaves _ _ ((∀ item ∈ plan.repeatForEach.getD [], wf (template t item)) ∧ True) _ _)).of_iff
    (by rw [and_true, and_comm])
  have planners : (w.addNode (.queue { limit := l })).1.planners = w₀.planners := by
    rw [(w.steady_addNode _).planners, same]
  exact ((items_behaves p w₀ compile wf linksOf compiles nodeLinks host template templates t w _
    (plan.repeatForEach.getD []) _ planners (fresh_addNode w _) present).bind (present_nil _)
    fun _ w₂ _ _ after => Behaves.of_pure _ after.2).of_links (List.append_nil _)

end Entries

end Compile

end TaskTree
