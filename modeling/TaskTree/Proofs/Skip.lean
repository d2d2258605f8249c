import TaskTree.Proofs.Guard
import TaskTree.Proofs.Agree
import TaskTree.Proofs.Subtree
import TaskTree.Script.Host

set_option autoImplicit false

namespace TaskTree

namespace ExecState

def skippable : ExecState → Bool
  | .pending | .skipped => true
  | _ => false

theorem moveTo_skip_pending : moveTo .pending .skipped = .ok (some (.pending, .skipped)) :=
  rfl

theorem moveTo_skip_self : moveTo .skipped .skipped = .ok none :=
  rfl

theorem moveTo_skip_refused (s : ExecState) (blocked : s.skippable = false) :
    moveTo s .skipped = .error (.of (.moveRefused "skipped" ["pending"] s.name)) := by
  cases s with
  | pending => cases blocked
  | skipped => cases blocked
  | _ => rfl

end ExecState

namespace World

def skipRefusal (w : World) (m : NodeRef) : WorkError :=
  (WorkError.of (.moveRefused "skipped" ["pending"] (w.state m).name)).withNode (w.node m).id

def skipAll (w : World) (nodes : List NodeRef) : World :=
  nodes.foldl (fun v m => (v.setState m .skipped).1) w

@[simp] theorem skipAll_nil (w : World) : w.skipAll [] = w := rfl

@[simp] theorem skipAll_cons (w : World) (m : NodeRef) (rest : List NodeRef) :
    w.skipAll (m :: rest) = (w.setState m .skipped).1.skipAll rest := rfl

theorem skipRefusal_kind (w : World) (m : NodeRef) : (w.skipRefusal m).kind = .invalidMove := rfl

theorem skipRefusal_node (w : World) (m : NodeRef) :
    (w.skipRefusal m).node = some (w.node m).id := rfl

section Step

variable (w : World) (m : NodeRef)

theorem state_setStateWith_moved (target : ExecState) (args : List Json) {source reached : ExecState}
    (moved : ExecState.moveTo (w.state m) target = .ok (some (source, reached))) (m' : NodeRef) :
    (w.setStateWith m target args).1.state m' =
      if m' = m ∧ m.index < w.nodes.size then reached else w.state m' := by
  unfold setStateWith
  rw [moved]
  dsimp only
  have quiet := (quiet_emit (w.modifyNode m fun d => { d with state := reached }) m "state"
    [.str reached.name, .str source.name]).trans (quiet_emit _ m reached.name args)
  rw [quiet.state m', state, node_modifyNode]
  split <;> rfl

theorem setState_skip_passes (passable : (w.state m).skippable = true) :
    w.setState m .skipped = ((w.setState m .skipped).1, .ok ()) := by
  refine Prod.ext rfl ?_
  show (w.setStateWith m .skipped []).2 = .ok ()
  unfold setStateWith
  cases current : w.state m with
  | pending => rw [ExecState.moveTo_skip_pending]
  | skipped => rw [ExecState.moveTo_skip_self]
  | _ => rw [current] at passable; cases passable

theorem setState_skip_refused (blocked : (w.state m).skippable = false) :
    w.setState m .skipped = (w, .error (w.skipRefusal m)) := by
  simp only [setState, setStateWith, ExecState.moveTo_skip_refused _ blocked, skipRefusal]

theorem state_setState_skip (passable : (w.state m).skippable = true) (m' : NodeRef) :
    (w.setState m .skipped).1.state m' =
      if m' = m ∧ m.index < w.nodes.size then .skipped else w.state m' := by
  cases current : w.state m with
  | pending =>
    have moved : ExecState.moveTo (w.state m) .skipped = .ok (some (.pending, .skipped)) := by
      rw [current, ExecState.moveTo_skip_pending]
    exact state_setStateWith_moved w m .skipped [] moved m'
  | skipped =>
    -- the node stays put: nothing moves, and its state is `skipped` already
    have stays : w.setState m .skipped = (w, .ok ()) := by
      simp only [setState, setStateWith, current, ExecState.moveTo_skip_self]
    rw [stays]
    split
    · rename_i same
      rw [same.1, current]
    · rfl
  | _ => rw [current] at passable; cases passable

theorem shaped_setState_skip : Shaped w (w.setState m .skipped).1 := by
  have frame : Frame (· = m) w (w.setState m .skipped).1 :=
    @Frame.setStateWith (· = m) w m rfl .skipped []
  exact frame.toShaped

end Step

theorem skipAll_state (pre : List NodeRef) :
    ∀ (w : World), (∀ m ∈ pre, m.index < w.nodes.size) → (∀ m ∈ pre, (w.state m).skippable) →
      ∀ m', (w.skipAll pre).state m' = if m' ∈ pre then .skipped else w.state m' := by
  induction pre with
  | nil => intro w _ _ m'; rfl
  | cons m rest ih =>
    intro w present passable m'
    have first := state_setState_skip w m (passable m List.mem_cons_self)
    have size := (shaped_setState_skip w m).size
    -- after the first move, the rest still exist and still pass
    have present' : ∀ m'' ∈ rest, m''.index < (w.setState m .skipped).1.nodes.size := by
      intro m'' member
      rw [size]
      exact present m'' (List.mem_cons_of_mem m member)
    have passable' : ∀ m'' ∈ rest, ((w.setState m .skipped).1.state m'').skippable := by
      intro m'' member
      rw [first]
      split
      · rfl
      · exact passable m'' (List.mem_cons_of_mem m member)
    rw [skipAll_cons, ih _ present' passable' m', first]
    by_cases later : m' ∈ rest
    · simp [later]
    · by_cases same : m' = m
      · subst same
        simp [present m' List.mem_cons_self]
      · simp [later, same]

theorem shaped_skipAll (pre : List NodeRef) : ∀ (w : World), Shaped w (w.skipAll pre) := by
  induction pre with
  | nil => exact fun w => Shaped.refl w
  | cons m rest ih => exact fun w => (shaped_setState_skip w m).trans (ih _)

end World

namespace Run

open World

section Walk

variable (f : NodeRef → Outcome → StateM World (ForInStep Outcome))

-- One round of the walk over the subtree, as the loop of `skip` does it: a node that passes is
-- moved and the walk goes on; a node that does not stops the walk with the refusal.
structure SkipRound : Prop where
  passes : ∀ m b v, (v.state m).skippable = true → f m b v = (.yield b, (v.setState m .skipped).1)
  stops : ∀ m b v, (v.state m).skippable = false → f m b v = (.done (.error (v.skipRefusal m)), v)

variable {f}

-- A move to `skipped` keeps every state that a skip passes.
theorem skippable_setState_skip (v : World) {m : NodeRef} (passable : (v.state m).skippable)
    (m' : NodeRef) (passes : (v.state m').skippable) : ((v.setState m .skipped).1.state m').skippable := by
  rw [state_setState_skip v m passable]
  split
  · rfl
  · exact passes

theorem forIn_skip_passes (round : SkipRound f) (nodes : List NodeRef) :
    ∀ (b : Outcome) (v : World), (∀ m ∈ nodes, (v.state m).skippable) →
      forIn nodes b f v = (b, v.skipAll nodes) := by
  induction nodes with
  | nil => intro b v _; rfl
  | cons m rest ih =>
    intro b v passable
    have here := passable m List.mem_cons_self
    have passable' : ∀ m' ∈ rest, ((v.setState m .skipped).1.state m').skippable :=
      fun m' member => skippable_setState_skip v here m' (passable m' (List.mem_cons_of_mem m member))
    simp only [List.forIn_cons, bind_apply, round.passes m b v here]
    exact ih b _ passable'

theorem forIn_skip_blocked (round : SkipRound f) (d : NodeRef) (post : List NodeRef)
    (pre : List NodeRef) :
    ∀ (b : Outcome) (v : World), (∀ m ∈ pre, (v.state m).skippable) →
      (v.state d).skippable = false →
      forIn (pre ++ d :: post) b f v = (.error (v.skipRefusal d), v.skipAll pre) := by
  induction pre with
  | nil =>
    intro b v _ blocked
    simp only [List.nil_append, List.forIn_cons, bind_apply, round.stops d b v blocked]
    rfl
  | cons m rest ih =>
    intro b v passable blocked
    have here := passable m List.mem_cons_self
    have passable' : ∀ m' ∈ rest, ((v.setState m .skipped).1.state m').skippable :=
      fun m' member => skippable_setState_skip v here m' (passable m' (List.mem_cons_of_mem m member))
    -- `d` does not pass, so it is not the node moved first and keeps its state and id
    have other : d ≠ m := by
      rintro rfl
      rw [blocked] at here
      cases here
    have kept : (v.setState m .skipped).1.state d = v.state d := by
      rw [state_setState_skip v m here, if_neg (fun same => other same.1)]
    have refusal : (v.setState m .skipped).1.skipRefusal d = v.skipRefusal d := by
      rw [skipRefusal, skipRefusal, kept, (shaped_setState_skip v m).id d]
    have blocked' : ((v.setState m .skipped).1.state d).skippable = false := by
      rw [kept]
      exact blocked
    simp only [List.cons_append, List.forIn_cons, bind_apply, round.passes m b v here]
    rw [ih b _ passable' blocked', refusal, skipAll_cons]

end Walk

-- The loop of `skip` walks the subtree one round at a time.
theorem skip_walks (node : NodeRef) :
    ∃ f, SkipRound f ∧ ∀ w, skip node w = forIn (w.traverse node) (.ok .null) f w := by
  refine ⟨?body, ?round, ?walk⟩
  -- the body is read off the loop itself
  case walk =>
    intro w
    simp only [skip, bind_apply, get_apply, pure_apply, Prod.eta]
    rfl
  refine ⟨fun m b v passable => ?_, fun m b v blocked => ?_⟩
  · simp only [bind_apply, change_apply]
    rw [setState_skip_passes v m passable]
    rfl
  · simp only [bind_apply, change_apply]
    rw [setState_skip_refused v m blocked]
    rfl

-- A node marked to skip exists: a node beyond the arena reads as one with default settings.
theorem present_of_skipIf {w : World} {N : NodeRef} (marked : (w.node N).settings.skipIf = true) :
    N.index < w.nodes.size := by
  by_contra beyond
  rw [node_of_size_le w N (Nat.le_of_not_lt beyond)] at marked
  cases marked

theorem process_skipped (host : Host) (N : NodeRef) (args : List Json) (w : World)
    (marked : (w.node N).settings.skipIf = true) : process host N args w = skip N w := by
  have begun : begin host N args w = (.settled (skip N w).1, (skip N w).2) := by
    simp only [begin, marked, bind_apply, get_apply, ↓reduceIte, pure_apply]
  exact process_of_begin_settled host N args w begun

-- The first node of a list that fails a test, with every node before it passing.
theorem exists_first_blocked (p : NodeRef → Bool) :
    ∀ L : List NodeRef, ¬(∀ m ∈ L, p m) →
      ∃ pre d post, L = pre ++ d :: post ∧ (∀ m ∈ pre, p m) ∧ p d = false
  | [], failing => absurd (fun m member => absurd member List.not_mem_nil) failing
  | a :: rest, failing => by
    cases here : p a with
    | false => exact ⟨[], a, rest, rfl, fun m member => absurd member List.not_mem_nil, here⟩
    | true =>
      have later : ¬∀ m ∈ rest, p m := fun all =>
        failing fun m member => (List.mem_cons.mp member).elim (fun same => same ▸ here) (all m)
      obtain ⟨pre, d, post, split, passing, blocked⟩ := exists_first_blocked p rest later
      refine ⟨a :: pre, d, post, by rw [split, List.cons_append], fun m member => ?_, blocked⟩
      exact (List.mem_cons.mp member).elim (fun same => same ▸ here) (passing m)

/-- A run of a node marked to skip, on a world whose links agree. The walk `L` lists the
node's subtree in pre-order, each node once. The run returns `null` and leaves every node of
the subtree skipped exactly when every node of the subtree is pending or skipped, and it then
makes these moves and nothing else. Otherwise let `d` be the first node of the walk in another
state: the run fails with an invalid move tied to `d`, after the moves of the nodes before `d`
and no other. Those nodes are skipped, and every other node keeps its state. -/
theorem skip_subtree (host : Host) (N : NodeRef) (args : List Json) (w : World) (links : w.Links)
    (marked : (w.node N).settings.skipIf = true) :
    let L := w.traverse N
    let run := process host N args w
    (L = N :: (w.children N).flatMap w.traverse ∧ L.Nodup ∧ ∀ m, m ∈ L ↔ w.Subtree N m) ∧
    ((run.1 = .ok .null ∧ ∀ m ∈ L, run.2.state m = .skipped) ↔ ∀ m ∈ L, (w.state m).skippable) ∧
    ((∀ m ∈ L, (w.state m).skippable) → run.2 = w.skipAll L) ∧
    ∀ pre d post, L = pre ++ d :: post → (∀ m ∈ pre, (w.state m).skippable) →
      (w.state d).skippable = false →
      run = (.error (w.skipRefusal d), w.skipAll pre) ∧ (w.skipRefusal d).kind = .invalidMove ∧
        (w.skipRefusal d).node = some (w.node d).id ∧
        ∀ m, run.2.state m = if m ∈ pre then .skipped else w.state m := by
  intro L run
  obtain ⟨f, round, walks⟩ := skip_walks N
  have processed : run = forIn L (.ok .null) f w := by
    show process host N args w = forIn (w.traverse N) _ f w
    rw [process_skipped host N args w marked, walks w]
  -- every node of the walk lies in the subtree, so it exists
  have present : ∀ m ∈ L, m.index < w.nodes.size := by
    intro m listed
    rcases (links.mem_traverse_iff N m).mp listed with rfl | above
    · exact present_of_skipIf marked
    · exact present_of_above above
  have passing : (∀ m ∈ L, (w.state m).skippable) → run = (.ok .null, w.skipAll L) :=
    fun all => by rw [processed, forIn_skip_passes round L _ w all]
  have blocking : ∀ pre d post, L = pre ++ d :: post → (∀ m ∈ pre, (w.state m).skippable) →
      (w.state d).skippable = false → run = (.error (w.skipRefusal d), w.skipAll pre) := by
    intro pre d post split passable blocked
    rw [processed, split, forIn_skip_blocked round d post pre _ w passable blocked]
  have prefix_state : ∀ pre d post, L = pre ++ d :: post → (∀ m ∈ pre, (w.state m).skippable) →
      ∀ m, (w.skipAll pre).state m = if m ∈ pre then .skipped else w.state m := by
    intro pre d post split passable
    refine skipAll_state pre w (fun m member => present m ?_) passable
    rw [split]
    exact List.mem_append_left _ member
  refine ⟨⟨links.traverse_preorder N, links.traverse_nodup N, links.mem_traverse_iff N⟩,
    ⟨fun ended => ?_, fun all => ?_⟩, fun all => by rw [passing all],
    fun pre d post split passable blocked => ?_⟩
  · -- a node that does not pass would stop the walk with an error
    by_contra failing
    obtain ⟨pre, d, post, split, passable, blocked⟩ := exists_first_blocked _ L failing
    rw [blocking pre d post split passable blocked] at ended
    cases ended.1
  · refine ⟨by rw [passing all], fun m listed => ?_⟩
    rw [passing all, skipAll_state L w present all m, if_pos listed]
  · refine ⟨blocking pre d post split passable blocked, rfl, rfl, fun m => ?_⟩
    rw [blocking pre d post split passable blocked]
    exact prefix_state pre d post split passable m

-- A queue marked to skip and three jobs, the second of which has succeeded already.
def halfDoneNodes : World where
  nodes := #[{ id := "q", body := .queue { limit := 1 }, settings := { skipIf := true } },
    { id := "a", body := .job ⟨"echo", .null⟩ },
    { id := "b", body := .job ⟨"echo", .null⟩, state := .successful },
    { id := "c", body := .job ⟨"echo", .null⟩ }]

-- The jobs linked beneath the queue.
def halfDoneWorld : World :=
  halfDoneNodes.applyLinks [.append ⟨0⟩ ⟨1⟩, .append ⟨0⟩ ⟨2⟩, .append ⟨0⟩ ⟨3⟩]

-- Skipping the queue moves it and its first child, then stops at the finished child with an
-- invalid move tied to it; the last child stays pending.
theorem skip_stops_at_finished_child :
    let run := process (Script.host ⟨0⟩ ⟨0⟩) ⟨0⟩ [] halfDoneWorld
    halfDoneWorld.Links ∧ (halfDoneWorld.node ⟨0⟩).settings.skipIf = true ∧
      halfDoneWorld.traverse ⟨0⟩ = [⟨0⟩, ⟨1⟩, ⟨2⟩, ⟨3⟩] ∧
      run = (.error (halfDoneWorld.skipRefusal ⟨2⟩), halfDoneWorld.skipAll [⟨0⟩, ⟨1⟩]) ∧
      ∀ m, run.2.state m = if m ∈ [⟨0⟩, ⟨1⟩] then .skipped else halfDoneWorld.state m := by
  intro run
  have links : halfDoneWorld.Links := by
    have unlinked := links_of_unlinked halfDoneNodes (by simp [halfDoneNodes, NodeBody.queueState?])
    have alive := alive_of_live halfDoneNodes (by simp [halfDoneNodes])
    exact (applyLinks_keeps _ halfDoneNodes unlinked.1 alive
      (by simp [halfDoneNodes, LinkOp.Among, LinkOp.parent, LinkOp.child])).links
  have walk : halfDoneWorld.traverse ⟨0⟩ = [⟨0⟩, ⟨1⟩, ⟨2⟩, ⟨3⟩] := by rfl
  obtain ⟨ran, -, -, states⟩ := (skip_subtree (Script.host ⟨0⟩ ⟨0⟩) ⟨0⟩ [] halfDoneWorld links
    rfl).2.2.2 [⟨0⟩, ⟨1⟩] ⟨2⟩ [⟨3⟩] walk (by decide) (by rfl)
  exact ⟨links, rfl, walk, ran, states⟩

end Run

end TaskTree
