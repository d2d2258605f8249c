import TaskTree.Proofs.Guard
import TaskTree.Proofs.ContextHistory

set_option autoImplicit false

/- The calls of `begin` that a run makes, in the order it makes them, and what happens between
   them. Every process call, the caller's own or one a queue, a loop, a placeholder or a hook
   makes, is a `begin` task that some poll takes; `callsOf` lists those calls by the same
   recursion as `poll`, each with the world it finds. Between two calls the world changes as
   every operation of a run does (`Chain`), so what all operations keep holds from the world a
   call leaves to the world the next call finds. -/

namespace TaskTree

theorem ExecState.moveTo_pending {s source reached : ExecState}
    (moved : ExecState.moveTo s .pending = .ok (some (source, reached))) : False := by
  cases s <;> cases moved

namespace World

-- No node that has left `pending` is back in it.
def NoReset (w w' : World) : Prop :=
  ∀ n, w.state n ≠ .pending → w'.state n ≠ .pending

namespace NoReset

theorem refl (w : World) : NoReset w w := fun _ left => left

theorem trans {w₁ w₂ w₃ : World} (first : NoReset w₁ w₂) (second : NoReset w₂ w₃) :
    NoReset w₁ w₃ :=
  fun n left => second n (first n left)

theorem of_state {w w' : World} (same : ∀ n, w'.state n = w.state n) : NoReset w w' :=
  fun n left => by rw [same n]; exact left

theorem of_quiet {w w' : World} (quiet : Quiet w w') : NoReset w w' :=
  of_state quiet.state

end NoReset

theorem state_modifyNode_of_keeps (w : World) (n m : NodeRef) (f : NodeData → NodeData)
    (keeps : ∀ d, (f d).state = d.state) : (w.modifyNode n f).state m = w.state m :=
  w.view_modifyNode n m f NodeData.state keeps

theorem state_modifyStats (w : World) (n m : NodeRef) (f : JobStats → JobStats) :
    (w.modifyStats n f).state m = w.state m :=
  w.state_modifyNode_of_keeps n m _ fun d => by
    dsimp only
    split <;> rfl

theorem state_link (w : World) (p c : NodeRef) (first : Bool) (m : NodeRef) :
    (w.link p c first).state m = w.state m := by
  simp only [link]
  rw [state_modifyStats]
  exact ((w.modifyNode c _).state_modifyNode_of_keeps p m _ fun _ => by rfl).trans
    (w.state_modifyNode_of_keeps c m _ fun _ => by rfl)

theorem state_attach (w : World) (p c : NodeRef) (first : Bool) (m : NodeRef) :
    (w.attach p c first).1.state m = w.state m := by
  by_cases beneath : c = p ∨ (w.parents p).contains c = true
  · unfold attach
    rw [if_pos beneath]
  · by_cases linked : (w.parent c).isSome = true
    · unfold attach
      rw [if_neg beneath, if_pos linked]
    · rw [attach_of_allowed w p c first beneath linked, (quiet_emit _ p "add" _).state m,
        state_link]

theorem state_remove (w : World) (p c m : NodeRef) : (w.remove p c).1.state m = w.state m := by
  unfold remove
  split
  · rfl
  · dsimp only
    rw [state_modifyStats]
    exact ((w.modifyNode p _).state_modifyNode_of_keeps c m _ fun _ => by rfl).trans
      (w.state_modifyNode_of_keeps p m _ fun _ => by rfl)

-- A new node is pending, and was pending as a node beyond the arena.
theorem noReset_addNode (w : World) (body : NodeBody) : NoReset w (w.addNode body).1 := by
  intro n left
  rw [World.state, node_addNode]
  split
  · rename_i fresh
    have beyond : w.node n = default := node_of_size_le w n (Nat.le_of_eq fresh.symm)
    exact absurd (by rw [World.state, beyond]; rfl) left
  · exact left

-- The rules move no node to `pending`; a move to the state a node is in changes nothing.
theorem noReset_setStateWith (w : World) (n : NodeRef) (s : ExecState) (args : List Json) :
    NoReset w (w.setStateWith n s args).1 := by
  intro m left
  unfold setStateWith
  split
  · exact left
  · exact left
  · rename_i source reached moved
    have target := (ExecState.moveTo_reached moved).2
    subst target
    dsimp only
    rw [(quiet_emit _ n _ args).state m, (quiet_emit _ n "state" _).state m, World.state,
      node_modifyNode]
    split
    · intro pending
      dsimp only at pending
      rw [pending] at moved
      exact ExecState.moveTo_pending moved
    · exact left

theorem quiet_read (src : ItemSource) (w : World) : Quiet w (src.read w) := by
  unfold ItemSource.read
  split
  · split
    · exact w.quiet_ctxNotify _ _ _
    · exact Quiet.refl w
  · exact Quiet.refl w

end World

-- A host whose functions put no node that has left `pending` back to it.
structure Host.NoReset (host : Host) : Prop where
  job : ∀ f inv w, World.NoReset w (host.runJob f inv w).1
  factory : ∀ f args w, World.NoReset w (host.makeNode f args w).1
  template : ∀ f item w, World.NoReset w (host.templateFor f item w).1

namespace Run

section NoReset

variable {host : Host} (keeps : host.NoReset)
include keeps

theorem noReset_builds : Builds host World.NoReset where
  refl := World.NoReset.refl
  trans := World.NoReset.trans
  node w n f kept := .of_state fun m => w.state_modifyNode_of_keeps n m f fun d => (kept d).2.2.2.2
  addNode := World.noReset_addNode
  attach w p c first := .of_state (w.state_attach p c first)
  keep w p n key := .of_quiet (by
    unfold World.storeResult World.listen
    split
    dsimp only
    exact w.quiet_modifyListeners n _)
  factory w f args := keeps.factory f args w
  template w f item := keeps.template f item w

-- Every operation of a run keeps each node that has left `pending` out of it, a loop's read of
-- its source included.
theorem noReset_effects : Effects host World.NoReset where
  toBuilds := noReset_builds keeps
  remove w p c := .of_state (w.state_remove p c)
  move w n s args _ := w.noReset_setStateWith n s args
  succeed w n r := w.noReset_setStateWith n .successful [r]
  announce w q event args _ := .of_quiet (w.quiet_emit q event args)
  job w f inv := keeps.job f inv w
  loop w node args := by
    obtain ⟨u, before, after⟩ := materialize_splits (noReset_builds keeps)
      (fun v p c => .of_state (v.state_remove p c)) node args w
    rcases after with after | ⟨_, _, src, _, _, after⟩
    · exact before.trans after
    · exact before.trans ((World.NoReset.of_quiet (World.quiet_read src u)).trans after)

end NoReset

-- A call of `begin`: the node, the arguments of the call and the world the call finds.
structure Call where
  node : NodeRef
  args : List Json
  found : World

section Slots

variable (step : Task → StateM World Task) (calls : Task → World → List Call) (queue : NodeRef)

def slotCalls (slot : NodeRef × Task) (w : World) : List Call :=
  if slot.2.isSettled then [] else calls slot.2 w

def mapSlotCalls : List (NodeRef × Task) → World → List Call
  | [], _ => []
  | slot :: rest, w => slotCalls calls slot w ++ mapSlotCalls rest (pollSlot step queue slot w).2

def ringCalls : Nat → List (NodeRef × Task) → Nat → Nat → World → List Call
  | 0, _, _, _, _ => []
  | budget + 1, slots, next, waiting, w =>
    match nextUnsettled slots next with
    | none => []
    | some i =>
      match slots[i]? with
      | none => []
      | some (child, t) =>
        calls t w ++
          if (step t w).1.isSettled then
            ringCalls budget (slots.set i (child, (step t w).1)) (i + 1) 0
              (settleJob queue child (step t w).2).2
          else if waiting + 1 = 2 || (unsettled (slots.set i (child, (step t w).1))).length = 1
          then []
          else ringCalls budget (slots.set i (child, (step t w).1)) (i + 1) (waiting + 1) (step t w).2

def slotsCalls (slots : List (NodeRef × Task)) (next : Nat) (w : World) : List Call :=
  if slots.length ≤ roundLimit then mapSlotCalls step calls queue slots w
  else ringCalls step calls queue (3 * slots.length + 3) slots next 0 w

end Slots

-- The calls of work that waits on inner work: the inner work's, then, once it has settled, the
-- calls of what follows.
def wrapCalls (host : Host) (depth : Nat) (calls : Task → World → List Call)
    (next : Outcome → StateM World Task) (inner : Task) (w : World) : List Call :=
  calls inner w ++
    match poll host depth inner w with
    | (.settled o, w₁) => calls (next o w₁).1 (next o w₁).2
    | _ => []

-- The calls of `begin` that one poll makes, in order.
def callsOf (host : Host) : Nat → Task → World → List Call
  | 0, _, _ => []
  | depth + 1, .begin node args, w =>
    ⟨node, args, w⟩ :: callsOf host depth (begin host node args w).1 (begin host node args w).2
  | depth + 1, .perform node inner, w =>
    wrapCalls host depth (callsOf host depth) (afterWork node) inner w
  | depth + 1, .success node inner, w =>
    wrapCalls host depth (callsOf host depth) (afterSuccessHook node) inner w
  | depth + 1, .recovery node inner, w =>
    wrapCalls host depth (callsOf host depth) (finish node) inner w
  | depth + 1, .closing _ outcome inner, w =>
    wrapCalls host depth (callsOf host depth)
      (fun finished => pure (.settled (closingOutcome outcome finished))) inner w
  | depth + 1, .batch queue limit slots later results next, w =>
    slotsCalls (poll host depth) (callsOf host depth) queue slots next w ++
      match gather (pollSlots (poll host depth) queue slots next w).1.1 with
      | some (.ok values) =>
        callsOf host depth
          (openBatch queue limit later (results ++ values) (pollSlots (poll host depth) queue slots next w).2).1
          (openBatch queue limit later (results ++ values) (pollSlots (poll host depth) queue slots next w).2).2
      | _ => []
  | _ + 1, .settled _, _ => []
  | _ + 1, .wait _ _, _ => []

-- The calls of a run: those of each of its polls, in order.
inductive RunCalls (host : Host) : Task × World → List Call → Task × World → Prop
  | refl (a : Task × World) : RunCalls host a [] a
  | poll {a : Task × World} {calls : List Call} {t : Task} {w : World} (depth : Nat) :
      RunCalls host a calls (t, w) → RunCalls host a (calls ++ callsOf host depth t w) (poll host depth t w)

theorem runCalls_of_steps {host : Host} {a b : Task × World}
    (run : Relation.ReflTransGen (Step host) a b) : ∃ calls, RunCalls host a calls b := by
  induction run with
  | refl => exact ⟨[], .refl a⟩
  | tail _ step ih =>
    obtain ⟨calls, before⟩ := ih
    obtain ⟨depth, polled⟩ := step
    exact ⟨_, polled ▸ before.poll depth⟩

-- The calls of a stretch of a run from `w` to `w'`: before each call, and after the last, the
-- world changes as `R` allows, and each call goes on from the world its `begin` leaves.
inductive Chain (host : Host) (R : World → World → Prop) : World → List Call → World → Prop
  | last {w w' : World} : R w w' → Chain host R w [] w'
  | call {w w' : World} (c : Call) {rest : List Call} : R w c.found →
      Chain host R (begin host c.node c.args c.found).2 rest w' → Chain host R w (c :: rest) w'

namespace Chain

variable {host : Host} {R : World → World → Prop} (fx : Effects host R)
include fx

theorem prepend {u w w' : World} {calls : List Call} (before : R u w)
    (chain : Chain host R w calls w') : Chain host R u calls w' := by
  cases chain with
  | last after => exact .last (fx.trans before after)
  | call c found rest => exact .call c (fx.trans before found) rest

theorem extend {w u w' : World} {calls : List Call} (chain : Chain host R w calls u)
    (after : R u w') : Chain host R w calls w' := by
  induction chain with
  | last before => exact .last (fx.trans before after)
  | call c found _ ih => exact .call c found (ih after)

theorem append {w u w' : World} {calls more : List Call} (first : Chain host R w calls u)
    (second : Chain host R u more w') : Chain host R w (calls ++ more) w' := by
  induction first with
  | last before => exact prepend fx before second
  | call c found _ ih => exact .call c found (ih second)

-- Each call finds a world that the stretch reaches from its start.
theorem reaches {w w' : World} {calls : List Call} (chain : Chain host R w calls w') :
    ∀ {j : Nat} {c : Call}, calls[j]? = some c → R w c.found := by
  induction chain with
  | last _ => exact fun found => by cases found
  | call c found rest ih =>
    intro j c' at_j
    cases j with
    | zero =>
      cases at_j
      exact found
    | succ j =>
      exact fx.trans found (fx.trans (begin_confined fx c.node c.args c.found) (ih at_j))

-- A later call finds a world that the stretch reaches from the world an earlier call left.
theorem later {w w' : World} {calls : List Call} (chain : Chain host R w calls w') :
    ∀ {i j : Nat} {c c' : Call}, i < j → calls[i]? = some c → calls[j]? = some c' →
      R (begin host c.node c.args c.found).2 c'.found := by
  induction chain with
  | last _ => exact fun _ found => by cases found
  | call c found rest ih =>
    intro i j first second earlier at_i at_j
    cases j with
    | zero => exact absurd earlier (Nat.not_lt_zero i)
    | succ j =>
      cases i with
      | zero =>
        cases at_i
        exact reaches fx rest at_j
      | succ i => exact ih (Nat.lt_of_succ_lt_succ earlier) at_i at_j

end Chain

section Chains

variable {host : Host} {R : World → World → Prop} (fx : Effects host R)
include fx

section Slots

variable (step : Task → StateM World Task) (calls : Task → World → List Call)
  (stepped : ∀ t w, Chain host R w (calls t w) (step t w).2)
include stepped

theorem slot_chain (queue : NodeRef) (slot : NodeRef × Task) (w : World) :
    Chain host R w (slotCalls calls slot w) (pollSlot step queue slot w).2 := by
  obtain ⟨child, t⟩ := slot
  by_cases ended : t.isSettled = true
  · simp only [slotCalls, pollSlot, ended, ↓reduceIte, pure_apply]
    exact .last (fx.refl w)
  · simp only [slotCalls, pollSlot, ended, Bool.false_eq_true, ↓reduceIte, bind_apply]
    -- a child that ends is counted as complete
    by_cases now : (step t w).1.isSettled = true
    · simp only [now, ↓reduceIte, bind_apply, pure_apply]
      exact (stepped t w).extend fx (settleJob_confined fx queue child _)
    · simp only [now, Bool.false_eq_true, ↓reduceIte, pure_apply]
      exact stepped t w

theorem mapSlot_chain (queue : NodeRef) :
    ∀ (slots : List (NodeRef × Task)) (w : World),
      Chain host R w (mapSlotCalls step calls queue slots w) (slots.mapM (pollSlot step queue) w).2
  | [], w => .last (fx.refl w)
  | slot :: rest, w => by
    rw [List.mapM_cons]
    simp only [mapSlotCalls, bind_apply, pure_apply]
    exact (slot_chain fx step calls stepped queue slot w).append fx
      (mapSlot_chain queue rest (pollSlot step queue slot w).2)

theorem ring_chain (queue : NodeRef) :
    ∀ (budget : Nat) (slots : List (NodeRef × Task)) (next waiting : Nat) (w : World),
      Chain host R w (ringCalls step calls queue budget slots next waiting w)
        (pollRing step queue budget slots next waiting w).2
  | 0, _, _, _, w => .last (fx.refl w)
  | budget + 1, slots, next, waiting, w => by
    simp only [ringCalls, pollRing]
    rcases found : nextUnsettled slots next with _ | i
    · exact .last (fx.refl w)
    · rcases current : slots[i]? with _ | ⟨child, t⟩
      · simp only [current, pure_apply]
        exact .last (fx.refl w)
      · simp only [current, bind_apply]
        refine (stepped t w).append fx ?_
        -- the child ends and the ring goes on, or the ring goes on or gives way
        split
        · simp only [bind_apply]
          exact (ring_chain queue budget _ _ _ _).prepend fx (settleJob_confined fx queue child _)
        · split
          · exact .last (fx.refl _)
          · exact ring_chain queue budget _ _ _ _

theorem slots_chain (queue : NodeRef) (slots : List (NodeRef × Task)) (next : Nat) (w : World) :
    Chain host R w (slotsCalls step calls queue slots next w) (pollSlots step queue slots next w).2 := by
  unfold slotsCalls pollSlots
  split
  · simp only [bind_apply, pure_apply]
    exact mapSlot_chain fx step calls stepped queue slots w
  · exact ring_chain fx step calls stepped queue _ slots next 0 w

end Slots

theorem wrap_chain {wrap : Task → Task} {next : Outcome → StateM World Task}
    (wraps : Wraps host wrap next) (follows : ∀ o, Confined R (next o)) {depth : Nat}
    (ih : ∀ t w, Chain host R w (callsOf host depth t w) (poll host depth t w).2)
    (inner : Task) (w : World) :
    Chain host R w (wrapCalls host depth (callsOf host depth) next inner w)
      (poll host (depth + 1) (wrap inner) w).2 := by
  have polled := ih inner w
  unfold wrapCalls
  rcases result : poll host depth inner w with ⟨t, w₁⟩
  rw [result] at polled
  by_cases done : ∃ o, t = .settled o
  · obtain ⟨o, rfl⟩ := done
    rw [wraps.settles depth inner w o w₁ result]
    exact polled.append fx ((ih _ _).prepend fx (follows o w₁))
  · have waiting : ∀ o, t ≠ .settled o := fun o same => done ⟨o, same⟩
    rw [wraps.waits depth inner w t w₁ result waiting]
    -- nothing follows work that has not settled
    cases t with
    | settled o => exact absurd rfl (waiting o)
    | _ => simpa only [List.append_nil] using polled

-- Between the calls of one poll, the world changes as `R` allows.
theorem poll_chain : ∀ (depth : Nat) (t : Task) (w : World),
    Chain host R w (callsOf host depth t w) (poll host depth t w).2
  | 0, _, w => .last (fx.refl w)
  | depth + 1, t, w => by
    have ih := poll_chain depth
    cases t with
    | begin node args =>
      rw [poll_begin]
      exact .call ⟨node, args, w⟩ (fx.refl w) (ih _ _)
    | wait polls o =>
      cases polls <;> exact .last (fx.refl w)
    | batch queue limit slots later results next =>
      have polled := slots_chain fx (poll host depth) (callsOf host depth) ih queue slots next w
      simp only [callsOf, poll, bind_apply]
      rcases ran : pollSlots (poll host depth) queue slots next w with ⟨⟨slots', next'⟩, w₁⟩
      rw [ran] at polled
      dsimp only
      rcases gathered : gather slots' with _ | e | values
      · simpa using polled
      · simpa using polled
      · simp only [bind_apply]
        exact polled.append fx ((ih _ _).prepend fx (openBatch_confined fx queue limit later _ w₁))
    | perform node inner =>
      exact wrap_chain fx (wraps_perform host node) (afterWork_confined fx node) ih inner w
    | success node inner =>
      refine wrap_chain fx (wraps_success host node) (fun o => ?_) ih inner w
      cases o with
      | ok r => exact markSuccess_confined fx node r
      | error e => exact recover_confined fx node e
    | recovery node inner =>
      exact wrap_chain fx (wraps_recovery host node) (finish_confined fx node) ih inner w
    | closing node outcome inner =>
      exact wrap_chain fx (wraps_closing host node outcome)
        (fun _ => confined_pure fx.toBuilds _) ih inner w
    | settled o =>
      rw [poll_settled]
      exact .last (fx.refl w)

theorem run_chain {a b : Task × World} {calls : List Call} (run : RunCalls host a calls b) :
    Chain host R a.2 calls b.2 := by
  induction run with
  | refl => exact .last (fx.refl _)
  | poll depth _ before => exact before.append fx (poll_chain fx depth _ _)

end Chains

/-- In any run, whatever order its polls take its calls in, under a host whose functions put
no node back to `pending`: every call of `begin` on a valid `node` without a skip condition
does what `Guard` says by the state it finds, and once a call has found `node` pending, valid
and without a skip condition, every later call on `node` finds it in progress or in a terminal
state. So `node`'s work is started from `pending` at most once in the run, and a call that
starts it again finds it in progress and moves nothing. -/
theorem run_calls_guarded (host : Host) (keeps : host.NoReset) {a b : Task × World}
    {calls : List Call} (run : RunCalls host a calls b) (node : NodeRef) :
    (∀ c ∈ calls, c.node = node → (c.found.node node).settings.skipIf = false →
      c.found.validate node = .ok () → Guard host node c.args c.found) ∧
    ∀ (i j : Nat) (first second : Call), i < j → calls[i]? = some first →
      calls[j]? = some second → first.node = node → second.node = node →
      first.found.state node = .pending → (first.found.node node).settings.skipIf = false →
      first.found.validate node = .ok () →
      second.found.state node = .inProgress ∨ (second.found.state node).isTerminal = true := by
  have fx := noReset_effects keeps
  refine ⟨fun c _ _ unskipped valid => process_call_guard host node c.args c.found unskipped valid,
    fun i j first second earlier at_i at_j firstNode secondNode pending unskipped valid => ?_⟩
  subst firstNode
  -- the first call moves the node to `in-progress` and starts its work from there
  obtain ⟨w₁, _, running, starts⟩ :=
    (process_call_guard host first.node first.args first.found unskipped valid).pending pending
  have started : (begin host first.node first.args first.found).2.state first.node ≠ .pending := by
    rw [starts]
    exact startWork_confined fx first.node _ _ w₁ first.node (by rw [running]; decide)
  have kept := (run_chain fx run).later fx earlier at_i at_j first.node started
  cases found : second.found.state first.node with
  | pending => exact absurd found kept
  | inProgress => exact .inl rfl
  | _ => exact .inr rfl

theorem echoHost_noReset : World.echoHost.NoReset where
  job _ _ w := .refl w
  factory _ _ w := .refl w
  template _ _ w := .refl w

-- A job listed twice in one batch of its queue: two calls on it in one poll.
def twinWorld : World where
  nodes := #[{ id := "q", body := .queue { limit := 2 }, children := [⟨1⟩] },
    { id := "j", body := .job ⟨"echo", .null⟩, parent := some ⟨0⟩ }]

def twinBatch : Task := .batch ⟨0⟩ 2 [(⟨1⟩, .begin ⟨1⟩ []), (⟨1⟩, .begin ⟨1⟩ [])] [] [] 0

theorem twin_calls_guarded :
    let calls := [] ++ callsOf World.echoHost 8 twinBatch twinWorld
    World.echoHost.NoReset ∧
      RunCalls World.echoHost (twinBatch, twinWorld) calls (poll World.echoHost 8 twinBatch twinWorld) ∧
      (∀ c ∈ calls, c.node = ⟨1⟩ → (c.found.node ⟨1⟩).settings.skipIf = false →
        c.found.validate ⟨1⟩ = .ok () → Guard World.echoHost ⟨1⟩ c.args c.found) ∧
      ∀ (i j : Nat) (first second : Call), i < j → calls[i]? = some first →
        calls[j]? = some second → first.node = ⟨1⟩ → second.node = ⟨1⟩ →
        first.found.state ⟨1⟩ = .pending → (first.found.node ⟨1⟩).settings.skipIf = false →
        first.found.validate ⟨1⟩ = .ok () →
        second.found.state ⟨1⟩ = .inProgress ∨ (second.found.state ⟨1⟩).isTerminal = true :=
  ⟨echoHost_noReset, .poll 8 (.refl _),
    run_calls_guarded World.echoHost echoHost_noReset (.poll 8 (.refl _)) ⟨1⟩⟩

-- The first call finds the job pending and runs it to success; the second finds it successful.
example : (callsOf World.echoHost 8 twinBatch twinWorld).map (·.found.state ⟨1⟩) =
    [.pending, .successful] := by
  decide +kernel

end Run

end TaskTree
