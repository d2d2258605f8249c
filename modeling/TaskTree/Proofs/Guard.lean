import TaskTree.Proofs.Lifecycle
import TaskTree.Proofs.Links

set_option autoImplicit false

namespace TaskTree

namespace ExecState

theorem moveTo_start_pending : moveTo .pending .inProgress = .ok (some (.pending, .inProgress)) :=
  rfl

theorem moveTo_start_self : moveTo .inProgress .inProgress = .ok none :=
  rfl

theorem moveTo_start_terminal (s : ExecState) (terminal : s.isTerminal = true) :
    moveTo s .inProgress = .error (.of (.moveRefused "in-progress" ["pending"] s.name)) := by
  cases s with
  | pending => cases terminal
  | inProgress => cases terminal
  | _ => rfl

end ExecState

namespace World

theorem setState_start_pending (w : World) (node : NodeRef) (pending : w.state node = .pending) :
    w.setState node .inProgress =
      (((w.modifyNode node fun d => { d with state := .inProgress }).emit node "state"
        [.str "in-progress", .str "pending"]).emit node "in-progress" [], .ok ()) := by
  simp only [setState, setStateWith, pending, ExecState.moveTo_start_pending]
  rfl

theorem setState_start_self (w : World) (node : NodeRef) (running : w.state node = .inProgress) :
    w.setState node .inProgress = (w, .ok ()) := by
  simp only [setState, setStateWith, running, ExecState.moveTo_start_self]

theorem setState_start_terminal (w : World) (node : NodeRef)
    (terminal : (w.state node).isTerminal = true) :
    w.setState node .inProgress =
      (w, .error ((WorkError.of (.moveRefused "in-progress" ["pending"] (w.state node).name)).withNode
        (w.node node).id)) := by
  simp only [setState, setStateWith, ExecState.moveTo_start_terminal _ terminal]

-- A node beyond the arena reads as a bare node, which has no work to validate.
theorem present_of_valid (w : World) (node : NodeRef) (valid : w.validate node = .ok ()) :
    node.index < w.nodes.size := by
  by_contra beyond
  have bare : (default : NodeData).body.kind = .node := rfl
  simp [validate, kind, node_of_size_le w node (Nat.le_of_not_lt beyond), bare] at valid

theorem state_start_pending (w : World) (node : NodeRef) (present : node.index < w.nodes.size)
    (pending : w.state node = .pending) :
    (w.setState node .inProgress).1.state node = .inProgress := by
  rw [setState_start_pending w node pending]
  -- the two events change only listeners; the move itself sets the state
  let moved := w.modifyNode node fun d => { d with state := .inProgress }
  have quiet := (quiet_emit moved node "state" [.str "in-progress", .str "pending"]).trans
    (quiet_emit _ node "in-progress" [])
  rw [quiet.state node, state, node_modifyNode, if_pos ⟨rfl, present⟩]

end World

namespace Run

-- The call starts the node's work from `w₁`, with the arguments it resolved in `w`.
def Starts (host : Host) (node : NodeRef) (callArgs : List Json) (w w₁ : World) : Prop :=
  let started := startWork host node callArgs (w.resolveArgs host node callArgs none) w₁
  begin host node callArgs w = (.perform node started.1, started.2)

section Begin

variable (host : Host) (node : NodeRef) (callArgs : List Json) (w : World)

theorem begin_moved (unskipped : (w.node node).settings.skipIf = false)
    (valid : w.validate node = .ok ()) {w₁ : World}
    (moved : w.setState node .inProgress = (w₁, .ok ())) : Starts host node callArgs w w₁ := by
  simp only [Starts, begin, unskipped, valid, moved, bind_apply, get_apply, change_apply,
    Bool.false_eq_true, ↓reduceIte, pure_apply]

theorem begin_refused (unskipped : (w.node node).settings.skipIf = false)
    (valid : w.validate node = .ok ()) {w₁ : World} {e : WorkError}
    (refused : w.setState node .inProgress = (w₁, .error e)) :
    begin host node callArgs w = (.settled (.error e), w₁) := by
  simp only [begin, unskipped, valid, refused, bind_apply, get_apply, change_apply,
    Bool.false_eq_true, ↓reduceIte, pure_apply]

-- A call whose start settles at once ends with the first poll of the runner.
theorem process_of_begin_settled {o : Outcome} {w' : World}
    (begun : begin host node callArgs w = (.settled o, w')) :
    process host node callArgs w = (o, w') := by
  have polled : ∀ depth, poll host (depth + 1) (.begin node callArgs) w = (.settled o, w') := by
    intro depth
    rw [poll_begin, begun]
    exact poll_settled host depth o w'
  have driven : ∀ rounds, drive host (rounds + 1) (.begin node callArgs) w = (o, w') := by
    intro rounds
    rw [drive, bind_apply, show pollDepth = 99999 + 1 from rfl, polled]
    rfl
  exact driven _

end Begin

-- What a process call does with a node, by the state in which it finds the node.
structure Guard (host : Host) (node : NodeRef) (callArgs : List Json) (w : World) : Prop where
  pending : w.state node = .pending →
    ∃ w₁, Moves w node .inProgress [] w₁ ∧ w₁.state node = .inProgress ∧
      Starts host node callArgs w w₁
  inProgress : w.state node = .inProgress → Starts host node callArgs w w
  terminal : (w.state node).isTerminal = true →
    ∃ e, process host node callArgs w = (.error e, w) ∧ e.kind = .invalidMove ∧
      e.node = some (w.node node).id ∧
      e.message = "can only move to 'in-progress' from 'pending' (not '" ++ (w.state node).name ++ "')"

theorem process_call_guard (host : Host) (node : NodeRef) (callArgs : List Json) (w : World)
    (unskipped : (w.node node).settings.skipIf = false) (valid : w.validate node = .ok ()) :
    Guard host node callArgs w where
  pending waiting := by
    have moved : w.setState node .inProgress = ((w.setState node .inProgress).1, .ok ()) := by
      rw [World.setState_start_pending w node waiting]
    exact ⟨_, moved, World.state_start_pending w node (World.present_of_valid w node valid) waiting,
      begin_moved host node callArgs w unskipped valid moved⟩
  inProgress running :=
    begin_moved host node callArgs w unskipped valid (World.setState_start_self w node running)
  terminal ended := by
    have refused := begin_refused host node callArgs w unskipped valid
      (World.setState_start_terminal w node ended)
    refine ⟨_, process_of_begin_settled host node callArgs w refused, rfl, rfl, ?_⟩
    show "can only move to '" ++ "in-progress" ++ "' from " ++ Fault.originText ["pending"] ++
      " (not '" ++ (w.state node).name ++ "')" = _
    simp only [Fault.originText, List.isEmpty_cons, Bool.false_eq_true, ↓reduceIte, List.map_cons,
      List.map_nil, String.intercalate_singleton, ← String.append_assoc]
    have literal : "can only move to '" ++ "in-progress" ++ "' from " ++ "'" ++ "pending" ++ "'" ++
        " (not '" = "can only move to 'in-progress' from 'pending' (not '" := rfl
    rw [literal]

-- The echo job of `echoWorld`, moved to `in-progress` by a caller with no run in flight.
def runningEchoWorld : World := (echoWorld.setState ⟨0⟩ .inProgress).1

-- Processing the job then runs its work and succeeds; the call is not refused.
theorem running_job_runs_again :
    let host := Script.host ⟨0⟩ ⟨0⟩
    runningEchoWorld.state ⟨0⟩ = .inProgress ∧
      (runningEchoWorld.node ⟨0⟩).settings.skipIf = false ∧
      runningEchoWorld.validate ⟨0⟩ = .ok () ∧
      (process host ⟨0⟩ [] runningEchoWorld).1 = .ok (.arr []) ∧
      (process host ⟨0⟩ [] runningEchoWorld).2.state ⟨0⟩ = .successful := by
  refine ⟨by rfl, by rfl, by rfl, by rfl, by rfl⟩

end Run

end TaskTree
