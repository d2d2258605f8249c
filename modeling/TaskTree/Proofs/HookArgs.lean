import TaskTree.Proofs.Lifecycle
import TaskTree.Proofs.Rerun

set_option autoImplicit false

namespace TaskTree

namespace World

theorem present_of_job {w : World} {h : NodeRef} {f : HostFn} (job : (w.node h).body = .job f) :
    h.index < w.nodes.size := by
  by_contra absent
  rw [node_of_size_le w h (Nat.le_of_not_lt absent)] at job
  cases job

theorem settings_modifyNode (w : World) (n m : NodeRef) (f : NodeData → NodeData)
    (keeps : ∀ d, (f d).settings = d.settings) :
    ((w.modifyNode n f).node m).settings = (w.node m).settings :=
  w.view_modifyNode n m f NodeData.settings keeps

theorem settings_modifyStats (w : World) (n m : NodeRef) (f : JobStats → JobStats) :
    ((w.modifyStats n f).node m).settings = (w.node m).settings := by
  refine settings_modifyNode w n m _ fun d => ?_
  dsimp only
  split <;> rfl

-- Linking touches links, counts and listeners, never settings.
theorem settings_attach (w : World) (p c m : NodeRef) (first : Bool) :
    ((w.attach p c first).1.node m).settings = (w.node m).settings := by
  by_cases below : c = p ∨ (w.parents p).contains c = true
  · unfold attach
    rw [if_pos below]
  · by_cases linked : (w.parent c).isSome = true
    · unfold attach
      rw [if_neg below, if_pos linked]
    · rw [attach_of_allowed w p c first below linked]
      dsimp only
      rw [(Agree.of_quiet (quiet_emit (w.link p c first) p "add"
        [((w.link p c first).descriptor c).toJson])).toShaped.settings m]
      simp only [link, settings_modifyStats]
      refine (settings_modifyNode _ p m _ ?_).trans (settings_modifyNode _ c m _ ?_)
      · exact fun _ => rfl
      · exact fun _ => rfl

-- A reset puts states back and leaves every setting as it was.
theorem settings_resetState (w : World) (r m : NodeRef) :
    ((w.resetState r).node m).settings = (w.node m).settings :=
  (resetState_frame w r).1.toShaped.settings m

end World

namespace Run

def storedArgs (w : World) (h : NodeRef) (defaults : List Json) : List Json :=
  if w.hasArgs h then (w.node h).settings.args.getD [] else defaults

-- Starting a hook sets its static arguments to `storedArgs` and leaves its arguments function.
theorem settings_defaulted (w : World) (h : NodeRef) (defaults : List Json)
    (present : h.index < w.nodes.size) :
    ((if w.hasArgs h then w else w.setArgs h defaults).node h).settings.args =
        some (storedArgs w h defaults) ∧
      ((if w.hasArgs h then w else w.setArgs h defaults).node h).settings.argsFn =
        (w.node h).settings.argsFn := by
  cases given : w.hasArgs h with
  | true =>
    rw [if_pos rfl]
    refine ⟨?_, rfl⟩
    simp only [storedArgs, given, if_true]
    unfold World.hasArgs at given
    split at given
    · rename_i first rest stored
      rw [stored]
      rfl
    · cases given
  | false =>
    simp [storedArgs, given, World.setArgs, World.modifySettings,
      World.node_modifyNode_self w h _ present]

def TakesStored (host : Host) (w : World) (h : NodeRef) (defaults : List Json) (w' : World)
    (o : Outcome) : Prop :=
  ∃ start : World, (start.node h).settings.args = some (storedArgs w h defaults) ∧
    (start.node h).settings.argsFn = (w.node h).settings.argsFn ∧
    ((w' = start ∧ ∃ e, o = .error e) ∨
      (Settles host start (.begin h []) w' o ∧
        (start.state h = .pending → (start.node h).settings.skipIf = false →
          start.validate h = .ok () →
          ∃ w₁, Moves start h .inProgress [] w₁ ∧ ∃ w₂ worked,
            Completes host
              (startWork host h [] ((storedArgs w h defaults).map (start.substitute h)))
              w₁ w₂ worked)))

-- The work of a hook begun without call arguments or arguments function reads its static
-- arguments.
theorem resolveArgs_stored (host : Host) (w : World) (h : NodeRef) (args : List Json)
    (stored : (w.node h).settings.args = some args) (noArgsFn : (w.node h).settings.argsFn = none) :
    w.resolveArgs host h [] none = args.map (w.substitute h) := by
  simp [World.resolveArgs, World.args, stored, noArgsFn]

theorem takes_stored_of_begin (host : Host) (w start w' : World) (h : NodeRef)
    (defaults : List Json) (o : Outcome)
    (stored : (start.node h).settings.args = some (storedArgs w h defaults))
    (noArgsFn : (start.node h).settings.argsFn = none)
    (run : Settles host start (.begin h []) w' o) :
    Settles host start (.begin h []) w' o ∧
      (start.state h = .pending → (start.node h).settings.skipIf = false →
        start.validate h = .ok () →
        ∃ w₁, Moves start h .inProgress [] w₁ ∧ ∃ w₂ worked,
          Completes host (startWork host h [] ((storedArgs w h defaults).map (start.substitute h)))
            w₁ w₂ worked) := by
  refine ⟨run, fun pending unskipped valid => ?_⟩
  have phases := completes_begin host h [] start w' o pending unskipped
    (settles_begin host h [] start w' o run)
  unfold Lifecycle at phases
  rw [valid] at phases
  obtain ⟨w₁, moved, w₂, worked, work, -⟩ := phases
  rw [resolveArgs_stored host start h _ stored noArgsFn] at work
  exact ⟨w₁, moved, w₂, worked, work⟩

/-- The hook arguments across runs. Whenever a node starts a job hook that has no arguments
function, the hook takes its arguments as `TakesStored` says; and a reset leaves every setting,
static arguments included, as it was. -/
theorem hook_args_stick :
    (∀ (host : Host) (w : World) (node h : NodeRef) (defaults : List Json) (w' : World)
      (o : Outcome), HookRuns host w node h defaults w' o → (∃ f, (w.node h).body = .job f) →
      (w.node h).settings.argsFn = none → TakesStored host w h defaults w' o) ∧
    (∀ (w : World) (r m : NodeRef), ((w.resetState r).node m).settings = (w.node m).settings) := by
  refine ⟨fun host w node h defaults w' o runs job noArgsFn => ?_, World.settings_resetState⟩
  obtain ⟨f, isJob⟩ := job
  obtain ⟨stored, sameFn⟩ := settings_defaulted w h defaults (World.present_of_job isJob)
  unfold HookRuns at runs
  dsimp only at runs
  generalize (if w.hasArgs h then w else w.setArgs h defaults) = w₁ at runs stored sameFn
  rw [noArgsFn] at sameFn
  by_cases child : w₁.hasChild node h
  · -- already beneath its node: the hook runs from the world with its arguments
    simp only [child, if_true] at runs
    exact ⟨w₁, stored, sameFn.trans noArgsFn.symm, .inr
      (takes_stored_of_begin host w w₁ w' h defaults o stored sameFn runs)⟩
  · simp only [child, Bool.false_eq_true, if_false] at runs
    rcases attached : w₁.attach node h false with ⟨w₂, e | c⟩
    · -- the refused link leaves the arguments set and is the outcome
      simp only [attached] at runs
      obtain ⟨rfl, rfl⟩ := runs
      have linked := World.settings_attach w₁ node h h false
      rw [attached] at linked
      exact ⟨w', linked ▸ stored, (linked ▸ sameFn).trans noArgsFn.symm, .inl ⟨rfl, _, rfl⟩⟩
    · simp only [attached] at runs
      have linked := World.settings_attach w₁ node h h false
      rw [attached] at linked
      have stored₂ : (w₂.node h).settings.args = some (storedArgs w h defaults) := linked ▸ stored
      have sameFn₂ : (w₂.node h).settings.argsFn = none := linked ▸ sameFn
      exact ⟨w₂, stored₂, sameFn₂.trans noArgsFn.symm, .inr
        (takes_stored_of_begin host w w₂ w' h defaults o stored₂ sameFn₂ runs)⟩

-- A job that echoes its arguments, with a hook that echoes its own.
def echoHookWorld : World where
  nodes := #[{ id := "h", body := .job ⟨"echo", .null⟩ },
    { id := "n", body := .job ⟨"echo", .null⟩, settings := { onSuccess := some ⟨0⟩ } }]

theorem echo_hook_takes_defaults :
    let host := Script.host ⟨0⟩ ⟨0⟩
    let started := hook ⟨1⟩ ⟨0⟩ [.nat 1] echoHookWorld
    let w' := (process host ⟨0⟩ [] started.2).2
    let o := (process host ⟨0⟩ [] started.2).1
    HookRuns host echoHookWorld ⟨1⟩ ⟨0⟩ [.nat 1] w' o ∧
      (∃ f, (echoHookWorld.node ⟨0⟩).body = .job f) ∧
      (echoHookWorld.node ⟨0⟩).settings.argsFn = none ∧
      TakesStored host echoHookWorld ⟨0⟩ [.nat 1] w' o := by
  have processed : process (Script.host ⟨0⟩ ⟨0⟩) ⟨0⟩ [] (hook ⟨1⟩ ⟨0⟩ [.nat 1] echoHookWorld).2 =
      ((process (Script.host ⟨0⟩ ⟨0⟩) ⟨0⟩ [] (hook ⟨1⟩ ⟨0⟩ [.nat 1] echoHookWorld).2).1,
        (process (Script.host ⟨0⟩ ⟨0⟩) ⟨0⟩ [] (hook ⟨1⟩ ⟨0⟩ [.nat 1] echoHookWorld).2).2) := rfl
  have settles := (process_settles _ ⟨0⟩ [] _ _ _ processed).resolve_right
    (fun gaveUp => by cases gaveUp)
  -- the hook is linked beneath the node, so its run begins at once
  have begun : (hook ⟨1⟩ ⟨0⟩ [.nat 1] echoHookWorld).1 = .begin ⟨0⟩ [] := by rfl
  have runs := completes_hook (Script.host ⟨0⟩ ⟨0⟩) ⟨1⟩ ⟨0⟩ [.nat 1] echoHookWorld _ _
    (by unfold Completes; rw [begun]; exact settles)
  exact ⟨runs, ⟨_, rfl⟩, rfl, hook_args_stick.1 _ _ _ _ _ _ _ runs ⟨_, rfl⟩ rfl⟩

theorem second_run_hook_sees_first_value :
    let host := Script.host ⟨0⟩ ⟨0⟩
    let shown := Descriptor.toJson ⟨"n", none, .job, .inProgress⟩
    let first := process host ⟨1⟩ [.nat 1] echoHookWorld
    let second := process host ⟨1⟩ [.nat 2] (first.2.resetState ⟨1⟩)
    first.1 = .ok (.arr [.arr [.nat 1], shown]) ∧ second.1 = .ok (.arr [.arr [.nat 1], shown]) :=
  ⟨by rfl, by rfl⟩

end Run

end TaskTree
