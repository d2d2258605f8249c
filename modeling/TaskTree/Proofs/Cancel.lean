import TaskTree.Proofs.Lifecycle

set_option autoImplicit false

namespace TaskTree.Run

-- The error of a node found cancelled: kind, message and the node it names.
theorem cancelled_error (id : String) :
    ((WorkError.of .cancelledWhileRunning).withNode id).kind = .cancelled ∧
      ((WorkError.of .cancelledWhileRunning).withNode id).message =
        "node was cancelled while in progress" ∧
      ((WorkError.of .cancelledWhileRunning).withNode id).node = some id :=
  ⟨rfl, rfl, rfl⟩

/-- A run of a pending, valid node that is not skipped moves the node to `in-progress` and
does its own work; if the node is cancelled when that work completes, the run ends at once
with `CANCELLED` for the node, in the world the work left, whatever the work gave. -/
theorem cancelled_run_ends (host : Host) (node : NodeRef) (callArgs : List Json) (w w' : World)
    (o : Outcome) (pending : w.state node = .pending)
    (unskipped : (w.node node).settings.skipIf = false) (valid : w.validate node = .ok ())
    (run : Settles host w (.begin node callArgs) w' o) :
    ∃ w₁, Moves w node .inProgress [] w₁ ∧ ∃ w₂ worked,
      Completes host (startWork host node callArgs (w.resolveArgs host node callArgs none))
        w₁ w₂ worked ∧
      (w₂.state node = .cancelled →
        w' = w₂ ∧ w'.state node = .cancelled ∧
          ∃ e, o = .error e ∧ e.kind = .cancelled ∧
            e.message = "node was cancelled while in progress" ∧
            e.node = some (w₂.node node).id) := by
  have phases := completes_begin host node callArgs w w' o pending unskipped
    (settles_begin host node callArgs w w' o run)
  unfold Lifecycle at phases
  rw [valid] at phases
  obtain ⟨w₁, moved, w₂, worked, work, concluded⟩ := phases
  refine ⟨w₁, moved, w₂, worked, work, fun cancelled => ?_⟩
  -- the guard after the work: the run settles with the error, and nothing more happens
  obtain ⟨ended, rfl⟩ := concluded.1 cancelled
  exact ⟨ended, ended ▸ cancelled, _, rfl, cancelled_error (w₂.node node).id⟩

-- A job that cancels its own node, alone in its world.
def selfCancelWorld : World where
  nodes := #[{ id := "n", body := .job ⟨"cancel", .null⟩ }]

theorem self_cancel_ends :
    let host := Script.host ⟨0⟩ ⟨0⟩
    let w' := (process host ⟨0⟩ [] selfCancelWorld).2
    let o := (process host ⟨0⟩ [] selfCancelWorld).1
    selfCancelWorld.state ⟨0⟩ = .pending ∧ (selfCancelWorld.node ⟨0⟩).settings.skipIf = false ∧
      selfCancelWorld.validate ⟨0⟩ = .ok () ∧ Settles host selfCancelWorld (.begin ⟨0⟩ []) w' o ∧
      ∃ w₁, Moves selfCancelWorld ⟨0⟩ .inProgress [] w₁ ∧ ∃ w₂ worked,
        Completes host (startWork host ⟨0⟩ [] (selfCancelWorld.resolveArgs host ⟨0⟩ [] none))
          w₁ w₂ worked ∧
        (w₂.state ⟨0⟩ = .cancelled →
          w' = w₂ ∧ w'.state ⟨0⟩ = .cancelled ∧
            ∃ e, o = .error e ∧ e.kind = .cancelled ∧
              e.message = "node was cancelled while in progress" ∧
              e.node = some (w₂.node ⟨0⟩).id) := by
  have processed : process (Script.host ⟨0⟩ ⟨0⟩) ⟨0⟩ [] selfCancelWorld =
      ((process (Script.host ⟨0⟩ ⟨0⟩) ⟨0⟩ [] selfCancelWorld).1,
        (process (Script.host ⟨0⟩ ⟨0⟩) ⟨0⟩ [] selfCancelWorld).2) := rfl
  have settles := (process_settles _ ⟨0⟩ [] selfCancelWorld _ _ processed).resolve_right
    (fun gaveUp => by cases gaveUp)
  exact ⟨by rfl, by rfl, by rfl, settles,
    cancelled_run_ends _ ⟨0⟩ [] selfCancelWorld _ _ (by rfl) (by rfl) (by rfl) settles⟩

-- A queue running, one at a time, a job that cancels the queue and then one that resets the
-- tree from its root, the queue.
def cancelThenResetWorld : World where
  nodes := #[
    { id := "a", body := .job ⟨"cancel_parent", .null⟩, parent := some ⟨2⟩ },
    { id := "b", body := .job ⟨"reset_root", .null⟩, parent := some ⟨2⟩ },
    { id := "n", body := .queue { limit := 1, stats := { total := 2 } },
      children := [⟨0⟩, ⟨1⟩] }]

theorem reset_undoes_cancel :
    let host := Script.host ⟨0⟩ ⟨0⟩
    let started := (cancelThenResetWorld.setState ⟨2⟩ .inProgress).1
    let run := process host ⟨2⟩ [] cancelThenResetWorld
    cancelThenResetWorld.state ⟨2⟩ = .pending ∧
      (process host ⟨0⟩ [] started).2.state ⟨2⟩ = .cancelled ∧
      run.1 =
        .error ((WorkError.of (.moveRefused "failed" ["in-progress"] "pending")).withNode "n") ∧
      run.2.state ⟨2⟩ = .pending :=
  ⟨by rfl, by decide +kernel, by rfl, by decide +kernel⟩

end TaskTree.Run
