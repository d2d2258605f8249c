import TaskTree.Proofs.Runs
import TaskTree.Script.Host

set_option autoImplicit false

namespace TaskTree.Run

-- A move of a node that the rules allow, reaching `w'`; the move raises its events with `args`.
def Moves (w : World) (node : NodeRef) (target : ExecState) (args : List Json) (w' : World) :
    Prop :=
  w.setStateWith node target args = (w', .ok ())

-- A hook's run as its node starts it: with `defaults` as its arguments unless it has some, and
-- linked beneath the node unless it is a child already, it is processed. A refused link is
-- its outcome.
def HookRuns (host : Host) (w : World) (node h : NodeRef) (defaults : List Json) (w' : World)
    (o : Outcome) : Prop :=
  let w₁ := if w.hasArgs h then w else w.setArgs h defaults
  if w₁.hasChild node h then Settles host w₁ (.begin h []) w' o
  else
    match w₁.attach node h false with
    | (w₂, .ok _) => Settles host w₂ (.begin h []) w' o
    | (w₂, .error e) => w' = w₂ ∧ o = .error e

-- The end of a run: the hook after either outcome, given the result so far, decides with it.
def Closes (host : Host) (w : World) (node : NodeRef) (outcome : Outcome) (w' : World)
    (o : Outcome) : Prop :=
  match (w.node node).settings.always with
  | none => w' = w ∧ o = outcome
  | some h => ∃ finished,
      HookRuns host w node h [valueOrNull outcome, (w.descriptor node).toJson] w' finished ∧
        o = closingOutcome outcome finished

-- A failure: the node moves to `failed` with the error's value, and the failure hook's
-- outcome replaces the error when the hook takes it.
def Fails (host : Host) (w : World) (node : NodeRef) (e : WorkError) (w' : World)
    (o : Outcome) : Prop :=
  ∃ w₁, Moves w node .failed [e.toJson] w₁ ∧
    match (w₁.node node).settings.onFail with
    | some h =>
      if takes w₁ node e then
        ∃ w₂ recovered,
          HookRuns host w₁ node h [e.toJson, (w₁.descriptor node).toJson] w₂ recovered ∧
            Closes host w₂ node recovered w' o
      else Closes host w₁ node (.error e) w' o
    | none => Closes host w₁ node (.error e) w' o

-- A success with its final value: the node moves to `successful` with it.
def Succeeds (host : Host) (w : World) (node : NodeRef) (r : Json) (w' : World)
    (o : Outcome) : Prop :=
  ∃ w₁, Moves w node .successful [r] w₁ ∧ Closes host w₁ node (.ok r) w' o

-- A success of the node's own work: through the success hook, whose result becomes the
-- node's and whose error is the node's failure.
def Prevails (host : Host) (w : World) (node : NodeRef) (v : Json) (w' : World)
    (o : Outcome) : Prop :=
  match (w.node node).settings.onSuccess with
  | none => Succeeds host w node v w' o
  | some h => ∃ w₁ r,
      HookRuns host w node h [v, (w.descriptor node).toJson] w₁ r ∧
        (w₁.state node = .inProgress →
          match r with
          | .ok v' => Succeeds host w₁ node v' w' o
          | .error e => Fails host w₁ node e w' o)

-- What follows the node's own work: a node cancelled meanwhile fails at once; one still in
-- progress succeeds or fails, its own errors tied to it.
def Concludes (host : Host) (w : World) (node : NodeRef) (worked : Outcome) (w' : World)
    (o : Outcome) : Prop :=
  (w.state node = .cancelled →
    w' = w ∧ o = .error ((WorkError.of .cancelledWhileRunning).withNode (w.node node).id)) ∧
  (w.state node = .inProgress →
    match worked with
    | .ok v => Prevails host w node v w' o
    | .error e => Fails host w node (e.withNode (w.node node).id) w' o)

-- A whole run of a node that is not skipped: refused by validation with nothing changed, or
-- moved to `in-progress`, its own work done, and concluded.
def Lifecycle (host : Host) (w : World) (node : NodeRef) (callArgs : List Json) (w' : World)
    (o : Outcome) : Prop :=
  match w.validate node with
  | .error e => w' = w ∧ o = .error e ∧ e.kind = .invalidNode
  | .ok () => ∃ w₁, Moves w node .inProgress [] w₁ ∧ ∃ w₂ worked,
      Completes host (startWork host node callArgs (w.resolveArgs host node callArgs none))
        w₁ w₂ worked ∧
      Concludes host w₂ node worked w' o

theorem moves_of_state (w : World) (node : NodeRef) (target : ExecState) (args : List Json)
    (source : ExecState) (current : w.state node = source)
    (m : Option (ExecState × ExecState)) (allowed : ExecState.moveTo source target = .ok m) :
    ∃ w₁, Moves w node target args w₁ := by
  refine ⟨(w.setStateWith node target args).1, Prod.ext rfl ?_⟩
  show (w.setStateWith node target args).2 = .ok ()
  unfold World.setStateWith
  rw [current, allowed]
  cases m <;> rfl

theorem completes_settled (host : Host) (o o' : Outcome) (w w' : World)
    (run : Completes host (pure (.settled o)) w w' o') : w' = w ∧ o' = o :=
  settles_settled host o o' w w' run

theorem hook_apply (node h : NodeRef) (defaults : List Json) (w : World) :
    hook node h defaults w =
      let w₁ := if w.hasArgs h then w else w.setArgs h defaults
      if w₁.hasChild node h then (.begin h [], w₁)
      else
        match w₁.attach node h false with
        | (w₂, .ok _) => (.begin h [], w₂)
        | (w₂, .error e) => (.settled (.error e), w₂) := by
  rcases attached : (if w.hasArgs h then w else w.setArgs h defaults).attach node h false
    with ⟨w₂, c | e⟩ <;>
  cases hasArgs : w.hasArgs h <;>
  cases child : (if w.hasArgs h then w else w.setArgs h defaults).hasChild node h <;>
    simp_all [hook]

theorem completes_hook (host : Host) (node h : NodeRef) (defaults : List Json) (w w' : World)
    (o : Outcome) (run : Completes host (hook node h defaults) w w' o) :
    HookRuns host w node h defaults w' o := by
  unfold Completes at run
  rw [hook_apply] at run
  unfold HookRuns
  dsimp only at run ⊢
  -- the world with the hook's arguments settled is all that the rest reads
  generalize (if w.hasArgs h then w else w.setArgs h defaults) = w₁ at run ⊢
  by_cases child : w₁.hasChild node h
  · simpa only [child, if_true] using run
  · simp only [child, Bool.false_eq_true, if_false] at run ⊢
    rcases attached : w₁.attach node h false with ⟨w₂, e | c⟩
    · simp only [attached] at run ⊢
      exact settles_settled host _ o _ w' run
    · simpa only [attached] using run

theorem completes_finish (host : Host) (node : NodeRef) (outcome : Outcome) (w w' : World)
    (o : Outcome) (run : Completes host (finish node outcome) w w' o) :
    Closes host w node outcome w' o := by
  unfold Completes at run
  unfold Closes
  cases always : (w.node node).settings.always with
  | none =>
      simp only [finish, always, bind_apply, get_apply, pure_apply] at run ⊢
      exact settles_settled host outcome o w w' run
  | some h =>
      simp only [finish, always, bind_apply, get_apply, pure_apply] at run ⊢
      obtain ⟨w₁, finished, hookRun, after⟩ :=
        settles_unwrap host _ _ (wraps_closing host node outcome) _ _ _ _ run
      obtain ⟨rfl, rfl⟩ := completes_settled host _ o w₁ w' after
      exact ⟨finished, completes_hook host node h _ w w' finished hookRun, rfl⟩

theorem completes_recover (host : Host) (node : NodeRef) (e : WorkError) (w w' : World)
    (o : Outcome) (running : w.state node = .inProgress)
    (run : Completes host (recover node e) w w' o) : Fails host w node e w' o := by
  obtain ⟨w₁, moved⟩ := moves_of_state w node .failed [e.toJson] .inProgress running _ rfl
  refine ⟨w₁, moved, ?_⟩
  have failed : w.setStateWith node .failed [e.toJson] = (w₁, .ok ()) := moved
  unfold Completes at run
  simp only [recover, bind_apply, change_apply, failed, get_apply] at run
  cases onFail : (w₁.node node).settings.onFail with
  | none =>
      simp only [onFail] at run ⊢
      exact completes_finish host node _ w₁ w' o run
  | some h =>
      simp only [onFail] at run ⊢
      by_cases taken : takes w₁ node e
      · -- the failure hook runs, and its outcome goes on to the end of the run
        simp only [taken, ↓reduceIte, bind_apply, pure_apply] at run ⊢
        obtain ⟨w₂, recovered, hookRun, after⟩ :=
          settles_unwrap host _ _ (wraps_recovery host node) _ _ _ _ run
        exact ⟨w₂, recovered, completes_hook host node h _ w₁ w₂ recovered hookRun,
          completes_finish host node recovered w₂ w' o after⟩
      · simp only [taken, Bool.false_eq_true, ↓reduceIte] at run ⊢
        exact completes_finish host node _ w₁ w' o run

theorem completes_markSuccess (host : Host) (node : NodeRef) (r : Json) (w w' : World)
    (o : Outcome) (running : w.state node = .inProgress)
    (run : Completes host (markSuccess node r) w w' o) : Succeeds host w node r w' o := by
  obtain ⟨w₁, moved⟩ := moves_of_state w node .successful [r] .inProgress running _ rfl
  refine ⟨w₁, moved, ?_⟩
  have succeeded : w.setStateWith node .successful [r] = (w₁, .ok ()) := moved
  unfold Completes at run
  simp only [markSuccess, bind_apply, change_apply, succeeded] at run
  exact completes_finish host node (.ok r) w₁ w' o run

theorem completes_succeed (host : Host) (node : NodeRef) (v : Json) (w w' : World)
    (o : Outcome) (running : w.state node = .inProgress)
    (run : Completes host (succeed node v) w w' o) : Prevails host w node v w' o := by
  unfold Completes at run
  unfold Prevails
  cases onSuccess : (w.node node).settings.onSuccess with
  | none =>
      simp only [succeed, onSuccess, bind_apply, get_apply] at run ⊢
      exact completes_markSuccess host node v w w' o running run
  | some h =>
      simp only [succeed, onSuccess, bind_apply, get_apply, pure_apply] at run ⊢
      obtain ⟨w₁, r, hookRun, after⟩ :=
        settles_unwrap host _ _ (wraps_success host node) _ _ _ _ run
      refine ⟨w₁, r, completes_hook host node h _ w w₁ r hookRun, fun still => ?_⟩
      -- the hook's result is the node's value, its error the node's failure
      cases r with
      | ok v' => exact completes_markSuccess host node v' w₁ w' o still after
      | error e => exact completes_recover host node e w₁ w' o still after

theorem completes_afterWork (host : Host) (node : NodeRef) (worked : Outcome) (w w' : World)
    (o : Outcome) (run : Completes host (afterWork node worked) w w' o) :
    Concludes host w node worked w' o := by
  unfold Completes at run
  constructor
  · intro cancelled
    simp only [afterWork, cancelled, bind_apply, get_apply, ↓reduceIte, pure_apply] at run
    exact settles_settled host _ o w w' run
  · intro running
    have notCancelled : w.state node ≠ .cancelled := by
      rw [running]
      decide
    simp only [afterWork, notCancelled, bind_apply, get_apply, ↓reduceIte] at run
    cases worked with
    | ok v => exact completes_succeed host node v w w' o running run
    | error e => exact completes_recover host node _ w w' o running run

theorem validate_error_kind (w : World) (node : NodeRef) (e : WorkError)
    (refused : w.validate node = .error e) : e.kind = .invalidNode := by
  unfold World.validate at refused
  split at refused
  · cases refused
    rfl
  · split at refused
    · split at refused
      · cases refused
        rfl
      · cases refused
    · cases refused

theorem completes_begin (host : Host) (node : NodeRef) (callArgs : List Json) (w w' : World)
    (o : Outcome) (pending : w.state node = .pending)
    (unskipped : (w.node node).settings.skipIf = false)
    (run : Completes host (begin host node callArgs) w w' o) :
    Lifecycle host w node callArgs w' o := by
  unfold Completes at run
  unfold Lifecycle
  rcases valid : w.validate node with e | ⟨⟩
  · simp only [begin, unskipped, valid, bind_apply, get_apply, Bool.false_eq_true, ↓reduceIte,
      pure_apply] at run ⊢
    obtain ⟨unchanged, rfl⟩ := settles_settled host _ o w w' run
    exact ⟨unchanged, rfl, validate_error_kind w node e valid⟩
  · obtain ⟨w₁, moved⟩ := moves_of_state w node .inProgress [] .pending pending _ rfl
    have started : w.setState node .inProgress = (w₁, .ok ()) := moved
    refine ⟨w₁, moved, ?_⟩
    simp only [begin, unskipped, valid, started, bind_apply, get_apply, change_apply,
      Bool.false_eq_true, ↓reduceIte, pure_apply] at run
    -- the node's own work runs inside the task of the node, then the node concludes
    obtain ⟨w₂, worked, ownWork, after⟩ :=
      settles_unwrap host _ _ (wraps_perform host node) _ _ _ _ run
    exact ⟨w₂, worked, ownWork, completes_afterWork host node worked w₂ w' o after⟩

theorem lifecycle_of_settles (host : Host) (node : NodeRef) (callArgs : List Json) (w w' : World)
    (o : Outcome) (pending : w.state node = .pending)
    (unskipped : (w.node node).settings.skipIf = false)
    (run : Settles host w (.begin node callArgs) w' o) :
    Lifecycle host w node callArgs w' o :=
  completes_begin host node callArgs w w' o pending unskipped
    (settles_begin host node callArgs w w' o run)

-- A job of the builtin host that echoes its arguments, alone in its world.
def echoWorld : World where
  nodes := #[{ id := "n", body := .job ⟨"echo", .null⟩ }]

theorem echo_job_lifecycle :
    let host := Script.host ⟨0⟩ ⟨0⟩
    let w' := (process host ⟨0⟩ [] echoWorld).2
    echoWorld.state ⟨0⟩ = .pending ∧ (echoWorld.node ⟨0⟩).settings.skipIf = false ∧
      Settles host echoWorld (.begin ⟨0⟩ []) w' (.ok (.arr [])) ∧
      Lifecycle host echoWorld ⟨0⟩ [] w' (.ok (.arr [])) := by
  have processed : process (Script.host ⟨0⟩ ⟨0⟩) ⟨0⟩ [] echoWorld =
      (.ok (.arr []), (process (Script.host ⟨0⟩ ⟨0⟩) ⟨0⟩ [] echoWorld).2) :=
    Prod.ext (by rfl) rfl
  have run := (process_settles _ ⟨0⟩ [] echoWorld _ _ processed).resolve_right
    (fun gaveUp => by cases gaveUp)
  exact ⟨by rfl, by rfl, run, lifecycle_of_settles _ ⟨0⟩ [] echoWorld _ _ (by rfl) (by rfl) run⟩

-- A queue whose child shares the queue's success hook, a job marked to be skipped: the child's
-- run links the hook beneath the child first.
def sharedHookWorld : World where
  nodes := #[
    { id := "h", body := .job ⟨"echo", .null⟩, settings := { skipIf := true } },
    { id := "c", body := .job ⟨"echo", .null⟩, parent := some ⟨2⟩,
      settings := { onSuccess := some ⟨0⟩ } },
    { id := "n", body := .queue { limit := 1, stats := { total := 1 } }, children := [⟨1⟩],
      settings := { onSuccess := some ⟨0⟩ } }]

-- The hook has no parent when the queue starts, and processing it gives `null` even at the
-- end; yet the queue's run ends with the refused link, not with the hook's result.
theorem shared_success_hook_refused :
    let host := Script.host ⟨0⟩ ⟨0⟩
    let w' := (process host ⟨2⟩ [] sharedHookWorld).2
    sharedHookWorld.state ⟨2⟩ = .pending ∧ (sharedHookWorld.node ⟨2⟩).settings.skipIf = false ∧
      sharedHookWorld.hooks ⟨2⟩ = [⟨0⟩] ∧ sharedHookWorld.parent ⟨0⟩ = none ∧
      sharedHookWorld.parents ⟨2⟩ = [] ∧
      (process host ⟨2⟩ [] sharedHookWorld).1 = .error (.of .hasParent) ∧
      (process host ⟨0⟩ [] w').1 = .ok .null := by
  -- each fact is a computation on this one world
  refine ⟨by rfl, by rfl, by rfl, by rfl, by rfl, by rfl, by rfl⟩

end TaskTree.Run
