import TaskTree.Proofs.Replay
import TaskTree.Script.Host

set_option autoImplicit false

namespace TaskTree

namespace World

theorem state_reset_self (v : World) (m : NodeRef) (args : List Json) :
    ((v.modifyNode m fun d => { d with state := .pending }).emit m "reset" args).state m =
      .pending := by
  rw [(Agree.emit _ m _ _).state m, World.state, node_modifyNode]
  split
  · rfl
  · -- a node beyond the arena reads as the default node, which is pending
    rename_i absent
    have beyond : v.nodes.size ≤ m.index := Nat.le_of_not_lt fun present => absent ⟨rfl, present⟩
    rw [node_of_size_le v m beyond]
    rfl

-- A fold whose every step puts one node back to pending and changes nothing else a run reads.
theorem foldl_pending (f : World → NodeRef → World)
    (step : ∀ v m, Frame (· = m) v (f v m) ∧ (f v m).state m = .pending) :
    ∀ (l : List NodeRef) (v : World),
      Frame (· ∈ l) v (l.foldl f v) ∧ ∀ m ∈ l, (l.foldl f v).state m = .pending
  | [], v => ⟨Frame.of_agree (Agree.refl v), fun _ member => absurd member List.not_mem_nil⟩
  | m :: rest, v => by
    obtain ⟨first, pending⟩ := step v m
    obtain ⟨later, pendingLater⟩ := foldl_pending f step rest (f v m)
    rw [List.foldl_cons]
    refine ⟨(first.mono fun n same => same ▸ List.mem_cons_self).trans
      (later.mono fun n member => List.mem_cons_of_mem m member), fun k member => ?_⟩
    by_cases inRest : k ∈ rest
    · exact pendingLater k inRest
    · have same : k = m := (List.mem_cons.mp member).resolve_right inRest
      rw [later.state k inRest, same]
      exact pending

theorem resetState_frame (w : World) (r : NodeRef) :
    Frame (· ∈ w.traverse r) w (w.resetState r) ∧
      ∀ m ∈ w.traverse r, (w.resetState r).state m = .pending := by
  refine foldl_pending _ (fun v m => ⟨?_, state_reset_self v m _⟩) _ w
  have moved : Frame (· = m) v (v.modifyNode m fun d => { d with state := .pending }) :=
    Frame.modifyState v (by rfl) .pending
  exact moved.trans (Frame.of_agree (Agree.emit _ m _ _))

-- A subtree that a run can repeat after a reset: the links of the world agree, and the
-- subtree is pending, holds no loop and no placeholder, has its hooks linked beneath their nodes
-- with their arguments, and runs pure jobs only.
structure Rerunnable (host : Host) (w : World) (r : NodeRef) : Prop where
  links : w.Links
  simple : ∀ m ∈ w.traverse r, w.kind m ≠ .loop ∧ w.kind m ≠ .placeholder
  hooked : ∀ m ∈ w.traverse r, ∀ h ∈ w.hooks m, w.hasChild m h = true ∧ w.hasArgs h = true
  pure : ∀ m ∈ w.traverse r, ∀ f, (w.node m).body = .job f → Run.PureJob host f
  args : host.ArgsKeep Agree
  pending : ∀ m ∈ w.traverse r, w.state m = .pending

namespace Rerunnable

variable {host : Host} {w : World} {r : NodeRef}

theorem repeatable (rerun : Rerunnable host w r) : Run.Repeatable host (· ∈ w.traverse r) w where
  closed _ listed _ child := rerun.links.traverse_closed listed child
  simple := rerun.simple
  hooked := rerun.hooked
  pure := rerun.pure
  args := rerun.args

-- A world that a run of the subtree left, reset, agrees with the world the run started from.
theorem reset_agrees (rerun : Rerunnable host w r) {w₁ : World}
    (frame : Frame (· ∈ w.traverse r) w w₁) : Agree w (w₁.resetState r) := by
  obtain ⟨reset, pending⟩ := resetState_frame w₁ r
  have walk : w₁.traverse r = w.traverse r := frame.traverse r
  rw [walk] at reset pending
  refine ⟨frame.toShaped.trans reset.toShaped, fun m => ?_⟩
  by_cases listed : m ∈ w.traverse r
  · rw [pending m listed, rerun.pending m listed]
  · rw [reset.state m listed, frame.state m listed]

end Rerunnable

theorem echo_pure (ctx : ContextRef) (planner : PlannerRef) :
    Run.PureJob (Script.host ctx planner) ⟨"echo", .null⟩ where
  keeps _ w := Agree.refl w
  reads _ _ _ _ := rfl

-- Two echo jobs and the finally hook of a queue, none of them linked yet.
def looseEchoWorld : World where
  nodes := #[{ id := "a", body := .job ⟨"echo", .null⟩ }, { id := "b", body := .job ⟨"echo", .null⟩ },
    { id := "q", body := .queue { limit := 1 }, settings := { always := some ⟨3⟩ } },
    { id := "f", body := .job ⟨"echo", .null⟩, settings := { args := some [.str "done"] } }]

-- The jobs and the hook linked beneath the queue, which runs one job at a time.
def hookedQueueWorld : World :=
  looseEchoWorld.applyLinks [.append ⟨2⟩ ⟨0⟩, .append ⟨2⟩ ⟨1⟩, .append ⟨2⟩ ⟨3⟩]

theorem hookedQueueWorld_rerunnable : Rerunnable (Script.host ⟨0⟩ ⟨0⟩) hookedQueueWorld ⟨2⟩ where
  links := by
    have unlinked := links_of_unlinked looseEchoWorld (by simp [looseEchoWorld, NodeBody.queueState?])
    have alive := alive_of_live looseEchoWorld (by simp [looseEchoWorld])
    exact (applyLinks_keeps _ looseEchoWorld unlinked.1 alive
      (by simp [looseEchoWorld, LinkOp.Among, LinkOp.parent, LinkOp.child])).links
  simple := by decide
  hooked := by decide
  pure m listed f body := by
    have walk : hookedQueueWorld.traverse ⟨2⟩ = [⟨2⟩, ⟨0⟩, ⟨1⟩, ⟨3⟩] := by rfl
    simp only [walk, List.mem_cons, List.not_mem_nil, or_false] at listed
    -- the queue runs no function of its own; the jobs and the hook run `echo`
    rcases listed with rfl | rfl | rfl | rfl
    · cases body
    all_goals
      cases body
      exact echo_pure ⟨0⟩ ⟨0⟩
  args _ _ _ _ _ := rfl
  pending := by decide

-- A queue that runs one child at a time: the first reads `k` from its scope, the second sets
-- `k` in the scope of the root.
def scopeQueueWorld : World where
  nodes := #[
    { id := "b", body := .job ⟨"scope", .null⟩, parent := some ⟨2⟩,
      settings := { args := some [.str "k"] } },
    { id := "a", body := .job ⟨"set_global", .null⟩, parent := some ⟨2⟩,
      settings := { args := some [.str "k", Json.nat 5] } },
    { id := "q", body := .queue { limit := 1, stats := { total := 2 } },
      children := [⟨0⟩, ⟨1⟩] }]

-- A queue that runs one child at a time: a job that counts its arguments, then a job whose
-- success hook is that first job and whose failure hook echoes `x`. The success hook is linked
-- beneath the queue, so linking it beneath the second job fails, and the failure hook recovers;
-- but the success hook keeps the arguments it was handed.
def sharedHookQueueWorld : World where
  nodes := #[
    { id := "h", body := .job ⟨"args_len", .null⟩, parent := some ⟨3⟩ },
    { id := "f", body := .job ⟨"echo", .null⟩, settings := { args := some [.str "x"] } },
    { id := "n", body := .job ⟨"echo", .null⟩, parent := some ⟨3⟩,
      settings := { onSuccess := some ⟨0⟩, onFail := some ⟨1⟩ } },
    { id := "q", body := .queue { limit := 1, stats := { total := 2 } },
      children := [⟨0⟩, ⟨2⟩] }]

-- A factory that compiles a queue holding the first node of the world.
def firstNodeQueue : NodeFactory :=
  .compile ⟨0⟩ { type := .queue, queue := some [.node ⟨0⟩] }

def sharedLoopWorld : World where
  nodes := #[{ id := "x", body := .job ⟨"echo", .null⟩ },
    { id := "l", body := .loop { limit := 1 }
        { source := some (.value "x" (.arr [.nat 1])), factory := some firstNodeQueue } }]

def sharedPlaceholderWorld : World where
  nodes := #[{ id := "x", body := .job ⟨"echo", .null⟩ },
    { id := "p", body := .placeholder firstNodeQueue none }]

-- A queue that runs a loop over the items under `k` in the first context, then a job that puts
-- more items there.
def contextLoopWorld : World where
  contexts := #[{ entries := [("k", .value (.arr [.nat 1]))] }]
  nodes := #[
    { id := "l", parent := some ⟨2⟩, body := .loop { limit := 1 }
        { source := some (.clause ⟨0⟩ { var := "x", of := .str "k" }),
          factory := some (.host ⟨"make_echo", .null⟩) } },
    { id := "j", body := .job ⟨"ctx_set", .null⟩, parent := some ⟨2⟩,
      settings := { args := some [.str "k", .arr [.nat 1, .nat 2]] } },
    { id := "q", body := .queue { limit := 1, stats := { total := 2 } },
      children := [⟨0⟩, ⟨1⟩] }]

-- A job whose success hook has already run and is linked nowhere.
def finishedHookWorld : World where
  nodes := #[{ id := "h", body := .job ⟨"echo", .null⟩, state := .successful },
    { id := "n", body := .job ⟨"echo", .null⟩, settings := { onSuccess := some ⟨0⟩ } }]

end World

end TaskTree
