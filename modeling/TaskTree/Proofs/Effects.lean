import TaskTree.Proofs.Materialize

set_option autoImplicit false

namespace TaskTree

namespace Run

open World

structure Builds (host : Host) (R : World → World → Prop) : Prop where
  refl : ∀ w, R w w
  trans : ∀ {w₁ w₂ w₃ : World}, R w₁ w₂ → R w₂ w₃ → R w₁ w₃
  node : ∀ w n (f : NodeData → NodeData),
    (∀ d, (f d).parent = d.parent ∧ (f d).children = d.children ∧
      (f d).listeners = d.listeners ∧ (f d).live = d.live ∧ (f d).state = d.state) →
    R w (w.modifyNode n f)
  addNode : ∀ w body, R w (w.addNode body).1
  attach : ∀ w p c first, R w (w.attach p c first).1
  keep : ∀ w p n key, R w (w.storeResult p n key)
  factory : ∀ w f args, R w (host.makeNode f args w).1
  template : ∀ w f item, R w (host.templateFor f item w).1

structure Effects (host : Host) (R : World → World → Prop) : Prop extends Builds host R where
  remove : ∀ w p c, R w (w.remove p c).1
  move : ∀ w n s args, s ≠ .successful → R w (w.setStateWith n s args).1
  succeed : ∀ w n r, R w (w.setStateWith n .successful [r]).1
  announce : ∀ w q event args, event = "job-start" ∨ event = "job-end" → R w (w.emit q event args)
  job : ∀ w f inv, R w (host.runJob f inv w).1
  loop : ∀ w node args, R w ((materialize host node args).run w).2

-- A relation that composes and holds wherever one that builds holds builds too.
theorem Builds.weaken {host : Host} {R R' : World → World → Prop} (bx : Builds host R)
    (trans : ∀ {w₁ w₂ w₃ : World}, R' w₁ w₂ → R' w₂ w₃ → R' w₁ w₃)
    (weaker : ∀ w w', R w w' → R' w w') : Builds host R' where
  refl w := weaker _ _ (bx.refl w)
  trans := trans
  node w n f keeps := weaker _ _ (bx.node w n f keeps)
  addNode w body := weaker _ _ (bx.addNode w body)
  attach w p c first := weaker _ _ (bx.attach w p c first)
  keep w p n key := weaker _ _ (bx.keep w p n key)
  factory w f args := weaker _ _ (bx.factory w f args)
  template w f item := weaker _ _ (bx.template w f item)

def Confined {α : Type} (R : World → World → Prop) (m : StateM World α) : Prop :=
  ∀ w, R w (m w).2

variable {host : Host} {R : World → World → Prop}

theorem confined_of {α : Type} (f : World → World × Except WorkError α)
    (changes : ∀ w, R w (f w).1) : Confined R (Engine.of f).run := by
  intro w
  rw [Engine.run_of]
  exact changes w

theorem confined_modify (f : World → World) (changes : ∀ w, R w (f w)) :
    Confined R (modify f : Engine Unit).run := by
  intro w
  rw [Engine.run_modify]
  exact changes w

theorem confined_engine_map {α β : Type} (f : α → β) {x : Engine α} (ran : Confined R x.run) :
    Confined R (f <$> x).run := by
  intro w
  rw [ExceptT.run_map, map_apply]
  exact ran w

section Basic

variable (bx : Builds host R)
include bx

theorem confined_pure {α : Type} (a : α) : Confined R (pure a : StateM World α) :=
  fun w => bx.refl w

theorem confined_get : Confined R (get : StateM World World) :=
  fun w => bx.refl w

theorem confined_bind {α β : Type} {x : StateM World α} {f : α → StateM World β}
    (first : Confined R x) (rest : ∀ a, Confined R (f a)) : Confined R (x >>= f) :=
  fun w => bx.trans (first w) (rest _ _)

-- An engine computation stops at its first error, which changes nothing more.
theorem confined_engine_bind {α β : Type} {x : Engine α} {f : α → Engine β}
    (first : Confined R x.run) (rest : ∀ a, Confined R (f a).run) : Confined R (x >>= f).run := by
  intro w
  rw [Engine.run_bind]
  rcases ran : x.run w with ⟨e | a, w₁⟩
  · have step := first w
    rw [ran] at step
    exact step
  · have step := first w
    rw [ran] at step
    exact bx.trans step (rest a w₁)

theorem confined_forIn {γ β : Type} (xs : List γ) (f : γ → β → StateM World (ForInStep β))
    (each : ∀ x b, Confined R (f x b)) : ∀ b, Confined R (forIn xs b f) := by
  induction xs with
  | nil => exact fun b => confined_pure bx b
  | cons x rest ih =>
    intro b
    rw [List.forIn_cons]
    refine confined_bind bx (each x b) fun step => ?_
    -- the loop stops here or goes on with the rest
    cases step with
    | done b' => exact confined_pure bx b'
    | yield b' => exact ih b'

theorem confined_engine_forIn {γ β : Type} (xs : List γ) (f : γ → β → Engine (ForInStep β))
    (each : ∀ x b, Confined R (f x b).run) : ∀ b, Confined R (forIn xs b f).run := by
  induction xs with
  | nil => exact fun b => confined_pure bx (Except.ok b)
  | cons x rest ih =>
    intro b
    rw [List.forIn_cons]
    refine confined_engine_bind bx (each x b) fun step => ?_
    cases step with
    | done b' => exact confined_pure bx (Except.ok b')
    | yield b' => exact ih b'

theorem confined_engine_forM {γ : Type} (xs : List γ) (g : γ → Engine PUnit)
    (each : ∀ x, Confined R (g x).run) : Confined R (xs.forM g).run := by
  induction xs with
  | nil => exact confined_pure bx (Except.ok PUnit.unit)
  | cons x rest ih => exact confined_engine_bind bx (each x) fun _ => ih

theorem settings_confined (w : World) (n : NodeRef) (f : Settings → Settings) :
    R w (w.modifySettings n f) :=
  bx.node w n _ fun _ => ⟨rfl, rfl, rfl, rfl, rfl⟩

theorem setArgs_confined (w : World) (n : NodeRef) (args : List Json) : R w (w.setArgs n args) :=
  settings_confined bx w n _

theorem scopeSet_confined (w : World) (n : NodeRef) (key : String) (v : Json) :
    R w (w.scopeSet n key v) :=
  bx.node w n _ fun _ => ⟨rfl, rfl, rfl, rfl, rfl⟩

theorem modifyStats_confined (w : World) (n : NodeRef) (f : JobStats → JobStats) :
    R w (w.modifyStats n f) := by
  refine bx.node w n _ fun d => ?_
  cases d.body.queueState? <;> exact ⟨rfl, rfl, rfl, rfl, rfl⟩

theorem modifyLoop_confined (w : World) (n : NodeRef) (f : LoopState → LoopState) :
    R w (w.modifyLoop n f).1 := by
  unfold modifyLoop
  split
  · exact bx.node w n _ fun _ => ⟨rfl, rfl, rfl, rfl, rfl⟩
  · exact bx.refl w

theorem confined_engine_pure {α : Type} (a : α) : Confined R (pure a : Engine α).run :=
  fun w => bx.refl w

theorem confined_throw {α : Type} (e : WorkError) : Confined R (throw e : Engine α).run :=
  fun w => bx.refl w

-- What follows an error is never run.
theorem confined_throw_bind {α β : Type} (e : WorkError) (f : α → Engine β) :
    Confined R (throw e >>= f).run := by
  intro w
  rw [Engine.run_bind_of_error _ _ (Engine.run_throw e w)]
  exact bx.refl w

theorem confined_engine_get : Confined R (get : Engine World).run := by
  intro w
  rw [Engine.run_get]
  exact bx.refl w

theorem confined_ofExcept {α : Type} (r : Except WorkError α) :
    Confined R (Engine.ofExcept r).run :=
  fun w => bx.refl w

theorem addNode_confined (body : NodeBody) : Confined R (Engine.addNode body).run := by
  intro w
  rw [Engine.run_addNode]
  exact bx.addNode w body

theorem append_confined (parent child : NodeRef) : Confined R (Engine.append parent child).run := by
  intro w
  rw [Engine.run_append]
  exact bx.attach w parent child false

theorem modifyLoop_engine_confined (n : NodeRef) (f : LoopState → LoopState) :
    Confined R (Engine.of (·.modifyLoop n f)).run :=
  confined_of _ fun w => modifyLoop_confined bx w n f

theorem settings_engine_confined (n : NodeRef) (f : Settings → Settings) :
    Confined R (modify (·.modifySettings n f) : Engine Unit).run :=
  confined_modify _ fun w => settings_confined bx w n f

end Basic

section Compiling

variable (bx : Builds host R)
include bx

section Builders

variable (compile : Compiler) (compiled : ∀ p bp, Confined R (compile p bp).run)

include compiled in
theorem hook_compiled (p : PlannerRef) (bp : Option Blueprint) :
    Confined R (Compile.hook compile p bp).run := by
  cases bp with
  | none => exact confined_engine_pure bx none
  | some bp => exact confined_engine_map some (compiled p bp)

include compiled in
theorem make_confined (f : NodeFactory) (args : List Json) :
    Confined R (Compile.make compile host f args).run := by
  cases f with
  | compile p plan => exact compiled p (.plan plan)
  | host g =>
    refine confined_engine_bind bx (confined_of _ fun w => bx.factory w g args) fun made => ?_
    cases made with
    | node n => exact confined_engine_pure bx n
    | blueprint p bp => exact compiled p bp

theorem job_confined (p : PlannerRef) (plan : Plan) : Confined R (Compile.job p plan).run := by
  -- the node is added once its function is found, and takes the name of what it invokes
  cases invoked : plan.invoke with
  | some invoke =>
    simp only [Compile.job, invoked]
    refine confined_engine_bind bx (confined_engine_get bx) fun w => ?_
    refine confined_engine_bind bx (confined_ofExcept bx _) fun f => ?_
    refine confined_engine_bind bx (addNode_confined bx _) fun n => ?_
    exact confined_engine_bind bx (settings_engine_confined bx n _) fun _ =>
      confined_engine_pure bx n
  | none =>
    cases ran : plan.run with
    | some f =>
      simp only [Compile.job, invoked, ran]
      refine confined_engine_bind bx (confined_engine_get bx) fun w => ?_
      refine confined_engine_bind bx (confined_engine_pure bx _) fun f => ?_
      exact confined_engine_bind bx (addNode_confined bx _) fun n => confined_engine_pure bx n
    | none =>
      simp only [Compile.job, invoked, ran]
      exact confined_engine_bind bx (confined_engine_get bx) fun w => confined_throw_bind bx _ _

theorem newQueue_confined (limit : Nat) : Confined R (Engine.newQueue limit).run :=
  confined_engine_bind bx (confined_ofExcept bx _) fun _ => addNode_confined bx _

theorem newLoop_confined (limit : Nat) : Confined R (Engine.newLoop limit).run :=
  confined_engine_bind bx (confined_ofExcept bx _) fun _ => addNode_confined bx _

-- A new queue or loop, with its limit read from the plan, and what follows it.
theorem limited_confined {β : Type} (newNode : Nat → Engine NodeRef)
    (made : ∀ l, Confined R (newNode l).run) (p : PlannerRef) (plan : Plan)
    (rest : NodeRef → Engine β) (after : ∀ n, Confined R (rest n).run) :
    Confined R (get >>= fun w => Engine.ofExcept (w.concurrency p plan) >>= fun l =>
      newNode l >>= rest).run :=
  confined_engine_bind bx (confined_engine_get bx) fun _ =>
    confined_engine_bind bx (confined_ofExcept bx _) fun l =>
      confined_engine_bind bx (made l) after

include compiled in
-- Each entry is compiled and linked beneath the queue.
theorem entries_confined (p : PlannerRef) (q : NodeRef) (entries : List Blueprint) :
    Confined R (forIn entries PUnit.unit fun entry _ =>
      compile p entry >>= fun c => Engine.append q c >>= fun _ =>
        pure (ForInStep.yield PUnit.unit)).run :=
  confined_engine_forIn bx _ _ (fun e _ => confined_engine_bind bx (compiled p e) fun c =>
    confined_engine_bind bx (append_confined bx q c) fun _ => confined_engine_pure bx _) _

include compiled in
theorem queue_confined (p : PlannerRef) (plan : Plan) :
    Confined R (Compile.queue compile p plan).run := by
  cases listed : plan.queue with
  | none =>
    simp only [Compile.queue, listed]
    exact confined_throw_bind bx _ _
  | some entries =>
    simp only [Compile.queue, listed, pure_bind]
    refine limited_confined bx Engine.newQueue (newQueue_confined bx) p plan _ fun q => ?_
    exact confined_engine_bind bx (entries_confined bx compile compiled p q entries) fun _ =>
      confined_engine_pure bx q

include compiled in
theorem template_confined (p : PlannerRef) (plan : Plan) :
    Confined R (Compile.template compile host p plan).run := by
  cases given : plan.template with
  | none =>
    simp only [Compile.template, given]
    exact confined_throw_bind bx _ _
  | some t =>
    simp only [Compile.template, given, pure_bind]
    refine limited_confined bx Engine.newQueue (newQueue_confined bx) p plan _ fun q => ?_
    refine confined_engine_bind bx (confined_engine_forIn bx _ _ (fun item _ => ?_) _) fun _ =>
      confined_engine_pure bx q
    -- the host gives the item's blueprint, which is compiled and linked beneath the queue
    refine confined_engine_bind bx ?_ fun bp => confined_engine_bind bx (compiled p bp) fun c =>
      confined_engine_bind bx (append_confined bx q c) fun _ => confined_engine_pure bx _
    intro w
    rw [Engine.run_modifyGet]
    exact bx.template w t item

theorem loop_confined (p : PlannerRef) (plan : Plan) : Confined R (Compile.loop p plan).run := by
  unfold Compile.loop
  refine limited_confined bx Engine.newLoop (newLoop_confined bx) p plan _ fun n => ?_
  extract_lets rest named
  -- the item plan's factory is set last; a loop without an item plan stops before it
  have factorySet : ∀ bp, Confined R (rest bp).run := fun bp =>
    confined_engine_bind bx (confined_engine_get bx) fun w =>
      confined_engine_bind bx (confined_ofExcept bx _) fun f =>
        confined_engine_bind bx (modifyLoop_engine_confined bx n _) fun _ =>
          confined_engine_pure bx n
  have itemNamed : ∀ u, Confined R (named u).run := by
    intro u
    simp only [named]
    split
    · exact confined_engine_bind bx (confined_engine_pure bx _) factorySet
    · exact confined_throw_bind bx _ _
  split
  · exact confined_engine_bind bx (confined_engine_get bx) fun w =>
      confined_engine_bind bx (modifyLoop_engine_confined bx n _) itemNamed
  · exact itemNamed ()

include compiled in
theorem factory_confined (p : PlannerRef) (plan : Plan) :
    Confined R (Compile.factory compile host p plan).run := by
  unfold Compile.factory
  extract_lets argsGiven
  -- the plan's arguments go to the node that the factory made
  have given : ∀ n, Confined R (argsGiven n).run := by
    intro n
    simp only [argsGiven]
    split
    · exact confined_engine_bind bx (settings_engine_confined bx n _) fun _ =>
        confined_engine_pure bx n
    · exact confined_engine_pure bx n
  have made := make_confined bx compile compiled
  split
  · refine confined_engine_bind bx (confined_engine_get bx) fun w => ?_
    split
    · exact confined_engine_bind bx (made _ []) fun n =>
        confined_engine_bind bx (confined_engine_get bx) fun _ =>
          confined_engine_bind bx (confined_ofExcept bx _) fun _ =>
            confined_engine_bind bx (confined_engine_pure bx n) given
    · exact confined_throw_bind bx _ _
    · exact confined_throw_bind bx _ _
  · exact confined_engine_bind bx (made _ []) given
  · exact confined_throw_bind bx _ _

-- Each option of a plan changes the node's settings or scope.
theorem options_confined (n : NodeRef) (plan : Plan) :
    Confined R (Compile.options host n plan).run := by
  unfold Compile.options
  extract_lets scopes skipping condition withArgsFn withArgs
  have scopesSet : ∀ u, Confined R (scopes u).run := by
    intro u
    simp only [scopes]
    split
    · refine confined_engine_bind bx (confined_engine_forIn bx _ _ (fun entry _ => ?_) _)
        fun _ => confined_engine_pure bx ()
      exact confined_engine_bind bx (confined_modify _ fun w => scopeSet_confined bx w n _ _)
        fun _ => confined_engine_pure bx _
    · exact confined_engine_pure bx ()
  have skipped : ∀ u, Confined R (skipping u).run := by
    intro u
    simp only [skipping]
    split
    · exact confined_engine_bind bx (settings_engine_confined bx n _) scopesSet
    · exact scopesSet ()
  -- a failure condition that does not compile stops the options there
  have conditioned : ∀ u, Confined R (condition u).run := by
    intro u
    simp only [condition]
    split
    · split
      · exact confined_engine_bind bx (settings_engine_confined bx n _) skipped
      · exact confined_throw_bind bx _ _
    · exact skipped ()
  have argsFnSet : ∀ u, Confined R (withArgsFn u).run := by
    intro u
    simp only [withArgsFn]
    split
    · exact confined_engine_bind bx (settings_engine_confined bx n _) conditioned
    · exact conditioned ()
  have argsSet : ∀ u, Confined R (withArgs u).run := by
    intro u
    simp only [withArgs]
    split
    · exact confined_engine_bind bx (settings_engine_confined bx n _) argsFnSet
    · exact argsFnSet ()
  split
  · exact confined_engine_bind bx (settings_engine_confined bx n _) argsSet
  · exact argsSet ()

include compiled in
theorem plan_confined (p : PlannerRef) (plan : Plan) :
    Confined R (Compile.plan compile host p plan).run := by
  unfold Compile.plan
  extract_lets body
  have hooked := hook_compiled bx compile compiled p
  have built : ∀ u, Confined R (body u).run := by
    intro u
    simp -zeta only [body]
    refine confined_engine_bind bx (hooked _) fun onFail => ?_
    refine confined_engine_bind bx (hooked _) fun onSuccess => ?_
    refine confined_engine_bind bx (hooked _) fun always => ?_
    extract_lets dress
    -- what follows the node: its options and hooks unless a factory made it, then its result key
    have dressed : ∀ n, Confined R (dress n).run := by
      intro n
      simp -zeta only [dress]
      extract_lets returned stored setAlways setSuccess
      have storing : ∀ u, Confined R (stored u).run := by
        intro u
        simp only [stored, returned]
        split
        · exact confined_engine_bind bx (confined_modify _ fun w => bx.keep w p n _) fun _ =>
            confined_engine_pure bx n
        · exact confined_engine_pure bx n
      have alwaysSet : ∀ u, Confined R (setAlways u).run := by
        intro u
        simp only [setAlways]
        split
        · exact confined_engine_bind bx (settings_engine_confined bx n _) storing
        · exact storing ()
      have successSet : ∀ u, Confined R (setSuccess u).run := by
        intro u
        simp only [setSuccess]
        split
        · exact confined_engine_bind bx (settings_engine_confined bx n _) alwaysSet
        · exact alwaysSet ()
      split
      · refine confined_engine_bind bx (options_confined bx n plan) fun _ => ?_
        split
        · exact confined_engine_bind bx (settings_engine_confined bx n _) successSet
        · exact successSet ()
      · exact storing ()
    split
    · exact confined_engine_bind bx (job_confined bx p plan) dressed
    · exact confined_engine_bind bx (queue_confined bx compile compiled p plan) dressed
    · exact confined_engine_bind bx (template_confined bx compile compiled p plan) dressed
    · exact confined_engine_bind bx (loop_confined bx p plan) dressed
    · exact confined_engine_bind bx (factory_confined bx compile compiled p plan) dressed
    · exact confined_throw_bind bx _ _
  split
  · exact confined_throw_bind bx _ _
  · exact built ()

end Builders

-- Compiling a blueprint, at every depth, changes the world as `R` allows.
theorem compileWith_confined : ∀ (fuel : Nat) (p : PlannerRef) (bp : Blueprint),
    Confined R (compileWith host fuel p bp).run
  | 0, _, _ => confined_throw bx _
  | _ + 1, _, .node n => confined_engine_pure bx n
  | fuel + 1, p, .plan plan =>
    plan_confined bx (compileWith host fuel) (compileWith_confined fuel) p plan

theorem makeNode_confined (f : NodeFactory) (args : List Json) :
    Confined R (makeNode host f args).run :=
  make_confined bx _ (compileWith_confined bx planDepth) f args

end Compiling

end Run

def ItemSource.read (src : ItemSource) (w : World) : World :=
  match src with
  | .clause c spec =>
    match spec.of with
    | .str path => (w.ctxResolvePath c path).1
    | _ => w
  | _ => w

namespace Run

variable {host : Host} {R : World → World → Prop}

theorem evalSource_world (src : ItemSource) (w : World) : (evalSource src w).2 = src.read w := by
  cases src with
  | clause c spec =>
    cases given : spec.of with
    | str path =>
      simp only [evalSource, ItemSource.read, given, bind_apply, change_apply]
      -- whatever the path resolves to, the answer is given without a change
      cases (w.ctxResolvePath c path).2 with
      | none => rfl
      | some v =>
        dsimp only
        cases v.isNull <;> rfl
    | _ => simp only [evalSource, ItemSource.read, given, pure_apply]
  | value var v => rfl
  | items var items => rfl

def ReadsOnce {α : Type} (R : World → World → Prop) (src : ItemSource) (m : StateM World α) :
    Prop :=
  ∀ w, ∃ u, R w u ∧ (R u (m w).2 ∨ R (src.read u) (m w).2)

def LoopSplits (R : World → World → Prop) (node : NodeRef) (w w' : World) : Prop :=
  ∃ u, R w u ∧ (R u w' ∨
    ∃ q l src, (w.node node).body = .loop q l ∧ l.source = some src ∧ R (src.read u) w')

section Loops

variable (bx : Builds host R)
include bx

theorem confined_bind_readsOnce {α β : Type} {src : ItemSource} {x : Engine α} {f : α → Engine β}
    (first : Confined R x.run) (rest : ∀ a, ReadsOnce R src (f a).run) :
    ReadsOnce R src (x >>= f).run := by
  intro w
  have step := first w
  rw [Engine.run_bind]
  rcases ran : x.run w with ⟨e | a, w₁⟩ <;> rw [ran] at step
  · exact ⟨w₁, step, .inl (bx.refl w₁)⟩
  · obtain ⟨u, before, after⟩ := rest a w₁
    exact ⟨u, bx.trans step before, after⟩

theorem readsOnce_bind_confined {α β : Type} {src : ItemSource} {x : Engine α} {f : α → Engine β}
    (first : ReadsOnce R src x.run) (rest : ∀ a, Confined R (f a).run) :
    ReadsOnce R src (x >>= f).run := by
  intro w
  obtain ⟨u, before, after⟩ := first w
  rw [Engine.run_bind]
  rcases ran : x.run w with ⟨e | a, w₁⟩ <;> rw [ran] at after
  · exact ⟨u, before, after⟩
  · exact ⟨u, before, after.imp (fun h => bx.trans h (rest a w₁)) (fun h => bx.trans h (rest a w₁))⟩

omit bx in
theorem evalSource_reads (src : ItemSource) (refl : ∀ w, R w w) :
    ReadsOnce R src (ExceptT.lift (evalSource src) : Engine _).run := by
  intro w
  refine ⟨w, refl w, .inr ?_⟩
  rw [ExceptT.run_lift, map_apply, evalSource_world]
  exact refl _

theorem LoopSplits.of_confined {node : NodeRef} {w w' : World} (ran : R w w') :
    LoopSplits R node w w' :=
  ⟨w, bx.refl w, .inl ran⟩

omit bx in
theorem LoopSplits.of_reads {node : NodeRef} {w : World} {q : QueueState} {l : LoopState}
    {src : ItemSource} {x : Engine Unit} (body : (w.node node).body = .loop q l)
    (source : l.source = some src) (reads : ReadsOnce R src x.run) :
    LoopSplits R node w (x.run w).2 := by
  obtain ⟨u, before, after⟩ := reads w
  exact ⟨u, before, after.imp id fun read => ⟨q, l, src, body, source, read⟩⟩

-- One item of a loop: its child is made, linked last, recorded, and given its item and arguments.
theorem placeItem_confined (node : NodeRef) (callArgs : List Json) (f : NodeFactory)
    (var : String) (item : Json) : Confined R (placeItem host node callArgs f var item).run := by
  unfold placeItem
  refine confined_engine_bind bx (makeNode_confined bx f callArgs) fun child => ?_
  refine confined_engine_bind bx (append_confined bx node child) fun _ => ?_
  refine confined_engine_bind bx (modifyLoop_engine_confined bx node _) fun _ => ?_
  refine confined_engine_bind bx
    (confined_modify _ fun v => scopeSet_confined bx v child _ _) fun _ => ?_
  refine confined_engine_bind bx (confined_engine_get bx) fun v => ?_
  split
  · exact confined_engine_bind bx (settings_engine_confined bx child _) fun _ =>
      confined_engine_pure bx _
  · exact confined_engine_pure bx _

variable (removes : ∀ w p c, R w (w.remove p c).1)
include removes

-- A loop's work: the children of its last run unlinked, its record cleared, its source read
-- once, and one child made per item. Only the read is not an operation that `R` allows.
theorem materialize_splits (node : NodeRef) (callArgs : List Json) (w : World) :
    LoopSplits R node w ((materialize host node callArgs).run w).2 := by
  unfold materialize
  rw [Engine.run_bind_of_ok _ _ (Engine.run_get w)]
  have unlinked : ∀ made : List NodeRef, Confined R (forIn made PUnit.unit fun child _ =>
      modify (fun v => (v.remove node child).1) >>= fun _ =>
        pure (ForInStep.yield PUnit.unit) : Engine Unit).run := fun made =>
    confined_engine_forIn bx _ _ (fun child _ =>
      confined_engine_bind bx (confined_modify _ fun v => removes v node child) fun _ =>
        confined_engine_pure bx _) _
  cases body : (w.node node).body with
  | loop q l =>
    cases source : l.source with
    | none =>
      refine LoopSplits.of_confined bx ?_
      simp -zeta only [source]
      exact confined_engine_bind bx (unlinked l.made) (fun _ => confined_engine_bind bx
        (modifyLoop_engine_confined bx node _) fun _ => confined_engine_pure bx ()) w
    | some src =>
      refine LoopSplits.of_reads body source ?_
      extract_lets id
      simp -zeta only [source]
      refine confined_bind_readsOnce bx (unlinked l.made) fun _ => confined_bind_readsOnce bx
        (modifyLoop_engine_confined bx node _) fun _ =>
          readsOnce_bind_confined bx (evalSource_reads src bx.refl) fun read => ?_
      extract_lets placed
      -- the items are placed once the binding and the factory are found
      have placing : ∀ binding, Confined R (placed binding).run := by
        intro binding
        simp -zeta only [placed]
        extract_lets each
        have eachPlaced : ∀ f, Confined R (each f).run := fun f =>
          confined_engine_forM bx _ _ fun item => placeItem_confined bx node callArgs f _ item
        split
        · exact confined_engine_bind bx (confined_engine_pure bx _) eachPlaced
        · exact confined_throw_bind bx _ _
      split
      · exact confined_engine_bind bx (confined_engine_pure bx _) placing
      · exact confined_throw_bind bx _ _
  | _ => exact LoopSplits.of_confined bx (bx.refl w)

end Loops

section Steps

variable (fx : Effects host R)
include fx

theorem hook_confined (node h : NodeRef) (defaults : List Json) :
    Confined R (hook node h defaults) := by
  intro w
  rw [hook_apply]
  dsimp only
  -- the hook takes its arguments first, then is linked unless it is a child already
  have given : R w (if w.hasArgs h then w else w.setArgs h defaults) := by
    split
    · exact fx.refl w
    · exact setArgs_confined fx.toBuilds w h defaults
  generalize (if w.hasArgs h then w else w.setArgs h defaults) = w₁ at given ⊢
  split
  · exact given
  · have linked := fx.attach w₁ node h false
    rcases attached : w₁.attach node h false with ⟨w₂, e | c⟩ <;>
      rw [attached] at linked <;> exact fx.trans given linked

theorem finish_confined (node : NodeRef) (o : Outcome) : Confined R (finish node o) := by
  intro w
  cases always : (w.node node).settings.always with
  | none =>
    simp only [finish, always, bind_apply, get_apply, pure_apply]
    exact fx.refl w
  | some h =>
    simp only [finish, always, bind_apply, get_apply, pure_apply]
    exact hook_confined fx node h _ w

theorem recover_confined (node : NodeRef) (e : WorkError) : Confined R (recover node e) := by
  intro w
  have moved := fx.move w node .failed [e.toJson] (by decide)
  rcases result : w.setStateWith node .failed [e.toJson] with ⟨w₁, refusal | ⟨⟩⟩ <;>
    rw [result] at moved
  · simp only [recover, bind_apply, change_apply, result]
    exact fx.trans moved (finish_confined fx node _ w₁)
  · simp only [recover, bind_apply, change_apply, result, get_apply]
    refine fx.trans moved ?_
    -- the failure hook takes the error when its condition matches the message
    cases onFail : (w₁.node node).settings.onFail with
    | none => exact finish_confined fx node _ w₁
    | some h =>
      by_cases taken : takes w₁ node e
      · simp only [taken, ↓reduceIte, bind_apply, pure_apply]
        exact hook_confined fx node h _ w₁
      · simp only [taken, Bool.false_eq_true, ↓reduceIte]
        exact finish_confined fx node _ w₁

theorem markSuccess_confined (node : NodeRef) (r : Json) : Confined R (markSuccess node r) := by
  intro w
  have moved := fx.succeed w node r
  rcases result : w.setStateWith node .successful [r] with ⟨w₁, refusal | ⟨⟩⟩ <;>
    rw [result] at moved
  · simp only [markSuccess, bind_apply, change_apply, result]
    exact fx.trans moved (recover_confined fx node refusal w₁)
  · simp only [markSuccess, bind_apply, change_apply, result]
    exact fx.trans moved (finish_confined fx node _ w₁)

theorem succeed_confined (node : NodeRef) (r : Json) : Confined R (succeed node r) := by
  intro w
  cases onSuccess : (w.node node).settings.onSuccess with
  | none =>
    simp only [succeed, onSuccess, bind_apply, get_apply]
    exact markSuccess_confined fx node r w
  | some h =>
    simp only [succeed, onSuccess, bind_apply, get_apply, pure_apply]
    exact hook_confined fx node h _ w

theorem afterWork_confined (node : NodeRef) (worked : Outcome) :
    Confined R (afterWork node worked) := by
  intro w
  by_cases cancelled : w.state node = .cancelled
  · simp only [afterWork, cancelled, bind_apply, get_apply, ↓reduceIte, pure_apply]
    exact fx.refl w
  · simp only [afterWork, cancelled, bind_apply, get_apply, ↓reduceIte]
    cases worked with
    | ok r => exact succeed_confined fx node r w
    | error e => exact recover_confined fx node _ w

theorem skip_confined (node : NodeRef) : Confined R (skip node) := by
  intro w
  simp only [skip, bind_apply, get_apply, pure_apply, Prod.eta]
  refine confined_forIn fx.toBuilds _ _ (fun m b v => ?_) _ w
  -- one node of the walk: its move to skipped, which may stop the walk
  have moved := fx.move v m .skipped [] (by decide)
  rcases result : v.setStateWith m .skipped [] with ⟨v₁, e | ⟨⟩⟩ <;>
    rw [result] at moved <;>
    simp only [World.setState, bind_apply, change_apply, result, pure_apply] <;>
    exact moved

theorem settleJob_confined (queue child : NodeRef) : Confined R (settleJob queue child) := by
  intro w
  simp only [settleJob, bind_apply, modify_apply]
  exact fx.trans (modifyStats_confined fx.toBuilds w queue _) (fx.announce _ queue _ _ (.inr rfl))

theorem openBatch_confined (queue : NodeRef) (limit : Nat) (later : List NodeRef)
    (results : List Json) : Confined R (openBatch queue limit later results) := by
  unfold openBatch
  split
  · exact confined_pure fx.toBuilds _
  · refine confined_bind fx.toBuilds (confined_forIn fx.toBuilds _ _ (fun child _ v => ?_) _)
      fun _ => confined_pure fx.toBuilds _
    -- each child of the batch is counted and announced
    simp only [bind_apply, modify_apply, pure_apply]
    exact fx.trans (modifyStats_confined fx.toBuilds v queue _)
      (fx.announce _ queue _ _ (.inl rfl))

section Slots

variable (step : Task → StateM World Task) (stepped : ∀ t, Confined R (step t))
include stepped

theorem pollSlot_confined (queue : NodeRef) (slot : NodeRef × Task) :
    Confined R (pollSlot step queue slot) := by
  intro w
  obtain ⟨child, t⟩ := slot
  by_cases ended : t.isSettled = true
  · simp only [pollSlot, ended, ↓reduceIte, pure_apply]
    exact fx.refl w
  · simp only [pollSlot, ended, Bool.false_eq_true, ↓reduceIte, bind_apply]
    -- a child that ends is counted as complete
    by_cases now : (step t w).1.isSettled = true
    · simp only [now, ↓reduceIte, bind_apply, pure_apply]
      exact fx.trans (stepped t w) (settleJob_confined fx queue child _)
    · simp only [now, Bool.false_eq_true, ↓reduceIte, pure_apply]
      exact stepped t w

theorem mapM_pollSlot_confined (queue : NodeRef) :
    ∀ slots : List (NodeRef × Task), Confined R (slots.mapM (pollSlot step queue))
  | [] => confined_pure fx.toBuilds _
  | slot :: rest => by
    rw [List.mapM_cons]
    exact confined_bind fx.toBuilds (pollSlot_confined fx step stepped queue slot) fun _ =>
      confined_bind fx.toBuilds (mapM_pollSlot_confined queue rest) fun _ =>
        confined_pure fx.toBuilds _

theorem pollRing_confined (queue : NodeRef) :
    ∀ (budget : Nat) (slots : List (NodeRef × Task)) (next waiting : Nat),
      Confined R (pollRing step queue budget slots next waiting)
  | 0, _, _, _ => confined_pure fx.toBuilds _
  | budget + 1, slots, next, waiting => by
    intro w
    simp only [pollRing]
    rcases found : nextUnsettled slots next with _ | i
    · exact fx.refl w
    · rcases current : slots[i]? with _ | ⟨child, t⟩
      · simp only [current, pure_apply]
        exact fx.refl w
      · simp only [current, bind_apply]
        refine fx.trans (stepped t w) ?_
        -- the child ends and the ring goes on, or the ring goes on or gives way
        split
        · simp only [bind_apply]
          exact fx.trans (settleJob_confined fx queue child _)
            (pollRing_confined queue budget _ _ _ _)
        · split
          · exact fx.refl _
          · exact pollRing_confined queue budget _ _ _ _

theorem pollSlots_confined (queue : NodeRef) (slots : List (NodeRef × Task)) (next : Nat) :
    Confined R (pollSlots step queue slots next) := by
  unfold pollSlots
  split
  · exact confined_bind fx.toBuilds (mapM_pollSlot_confined fx step stepped queue slots) fun _ =>
      confined_pure fx.toBuilds _
  · exact pollRing_confined fx step stepped queue _ slots next 0

end Slots

-- A placeholder's work: the factory's node replaces the node of the last run beneath it.
theorem resolvePlaceholder_confined (node : NodeRef) (f : NodeFactory) (args : List Json) :
    Confined R (resolvePlaceholder host node f args).run := by
  have bx := fx.toBuilds
  refine confined_engine_bind bx (makeNode_confined bx f args) fun concrete => ?_
  refine confined_engine_bind bx (confined_engine_get bx) fun w => ?_
  refine confined_engine_bind bx (confined_modify _ fun v => bx.node v node _ fun d => ?_)
    fun _ => ?_
  · split <;> exact ⟨rfl, rfl, rfl, rfl, rfl⟩
  extract_lets linked
  have linking : ∀ u, Confined R (linked u).run := fun _ =>
    confined_engine_bind bx (append_confined bx node concrete) fun _ => confined_engine_pure bx _
  -- the node of the last run, if any, is unlinked first
  split
  · exact confined_engine_bind bx (confined_modify _ fun v => fx.remove v node _) linking
  · exact linking ()

theorem startQueue_confined (node : NodeRef) : Confined R (startQueue node) :=
  confined_bind fx.toBuilds (confined_get fx.toBuilds) fun _ => openBatch_confined fx _ _ _ _

-- A node's own work, by its kind.
theorem startWork_confined (node : NodeRef) (callArgs args : List Json) :
    Confined R (startWork host node callArgs args) := by
  intro w
  cases body : (w.node node).body with
  | bare =>
    simp only [startWork, body, bind_apply, get_apply, pure_apply]
    exact fx.refl w
  | job f =>
    have ran := fx.job w f ⟨node, args⟩
    simp only [startWork, body, bind_apply, get_apply, change_apply]
    rcases step : (host.runJob f ⟨node, args⟩ w).2 with o | ⟨n, o⟩ <;>
      simp only [pure_apply] <;> exact ran
  | queue q =>
    simp only [startWork, body, bind_apply, get_apply]
    exact startQueue_confined fx node w
  | loop q l =>
    have made := fx.loop w node callArgs
    simp only [startWork, body, bind_apply, get_apply]
    rcases ran : (materialize host node callArgs).run w with ⟨e | u, w₁⟩ <;> rw [ran] at made
    · exact made
    · exact fx.trans made (startQueue_confined fx node w₁)
  | placeholder f resolved =>
    have made := resolvePlaceholder_confined fx node f args w
    simp only [startWork, body, bind_apply, get_apply]
    rcases ran : (resolvePlaceholder host node f args).run w with ⟨e | c, w₁⟩ <;>
      rw [ran] at made <;> exact made

-- The start of a node's run: skipped, refused, or moved to in-progress to start its work.
theorem begin_confined (node : NodeRef) (callArgs : List Json) :
    Confined R (begin host node callArgs) := by
  intro w
  cases skips : (w.node node).settings.skipIf with
  | true =>
    simp only [begin, skips, bind_apply, get_apply, ↓reduceIte, pure_apply]
    exact skip_confined fx node w
  | false =>
    rcases valid : w.validate node with e | ⟨⟩
    · simp only [begin, skips, valid, Bool.false_eq_true, bind_apply, get_apply, ↓reduceIte,
        pure_apply]
      exact fx.refl w
    · have moved := fx.move w node .inProgress [] (by decide)
      rcases started : w.setStateWith node .inProgress [] with ⟨w₁, e | ⟨⟩⟩ <;>
        rw [started] at moved
      · simp only [begin, skips, valid, World.setState, started, Bool.false_eq_true, bind_apply,
          get_apply, change_apply, ↓reduceIte, pure_apply]
        exact moved
      · simp only [begin, skips, valid, World.setState, started, Bool.false_eq_true, bind_apply,
          get_apply, change_apply, ↓reduceIte, pure_apply]
        exact fx.trans moved (startWork_confined fx node _ _ w₁)

-- Work that waits on inner work: a poll polls the inner work and, once it has settled, goes
-- on with what follows.
theorem poll_wrap_confined {wrap : Task → Task} {next : Outcome → StateM World Task}
    (wraps : Wraps host wrap next) (follows : ∀ o, Confined R (next o)) {depth : Nat}
    (ih : ∀ t, Confined R (poll host depth t)) (inner : Task) :
    Confined R (poll host (depth + 1) (wrap inner)) := by
  intro w
  have polled := ih inner w
  rcases result : poll host depth inner w with ⟨t, w₁⟩
  rw [result] at polled
  by_cases done : ∃ o, t = .settled o
  · obtain ⟨o, rfl⟩ := done
    rw [wraps.settles depth inner w o w₁ result]
    exact fx.trans polled (fx.trans (follows o w₁) (ih _ _))
  · rw [wraps.waits depth inner w t w₁ result (fun o same => done ⟨o, same⟩)]
    exact polled

-- One poll changes its world as `R` allows, at any depth and from any work in flight.
theorem poll_confined : ∀ (depth : Nat) (t : Task), Confined R (poll host depth t)
  | 0, _ => confined_pure fx.toBuilds _
  | depth + 1, t => by
    have ih := poll_confined depth
    -- the four wrappers go through `poll_wrap_confined`, a batch through its slots
    cases t with
    | begin node args =>
      intro w
      rw [poll_begin]
      exact fx.trans (begin_confined fx node args w) (ih _ _)
    | wait polls o =>
      intro w
      cases polls <;> exact fx.refl w
    | batch queue limit slots later results next =>
      intro w
      have polled := pollSlots_confined fx (poll host depth) ih queue slots next w
      rcases ran : pollSlots (poll host depth) queue slots next w with ⟨⟨slots', next'⟩, w₁⟩
      rw [ran] at polled
      simp only [poll, bind_apply, ran]
      rcases gathered : gather slots' with _ | e | values
      · exact polled
      · exact polled
      · simp only [bind_apply]
        exact fx.trans polled (fx.trans (openBatch_confined fx queue limit later _ w₁) (ih _ _))
    | perform node inner =>
      exact poll_wrap_confined fx (wraps_perform host node) (afterWork_confined fx node) ih inner
    | success node inner =>
      refine poll_wrap_confined fx (wraps_success host node) (fun o => ?_) ih inner
      cases o with
      | ok r => exact markSuccess_confined fx node r
      | error e => exact recover_confined fx node e
    | recovery node inner =>
      exact poll_wrap_confined fx (wraps_recovery host node) (finish_confined fx node) ih inner
    | closing node outcome inner =>
      exact poll_wrap_confined fx (wraps_closing host node outcome)
        (fun _ => confined_pure fx.toBuilds _) ih inner
    | settled o =>
      intro w
      rw [poll_settled]
      exact fx.refl w

-- A whole run changes its world as `R` allows, however its polls interleave.
theorem settles_effects {w w' : World} {t : Task} {o : Outcome} (run : Settles host w t w' o) :
    R w w' := by
  -- every world along the run is related to the first
  have along : ∀ b, Relation.ReflTransGen (Step host) (t, w) b → R w b.2 := by
    intro b path
    induction path with
    | refl => exact fx.refl w
    | tail _ step before =>
      obtain ⟨depth, polled⟩ := step
      rw [← polled]
      exact fx.trans before (poll_confined fx depth _ _)
  exact along _ run

end Steps

end Run

end TaskTree
