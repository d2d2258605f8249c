import TaskTree.Proofs.Results

set_option autoImplicit false

namespace TaskTree

-- What the host's functions promise of the results: a job keeps every result listener, and a
-- factory or a template leaves the contexts alone as well.
structure Host.KeepsResults (host : Host) : Prop where
  job : ∀ f inv w, w.ResultsSound → World.KeepsResults w (host.runJob f inv w).1
  factory : ∀ f args w, w.ResultsSound → World.KeepsContexts w (host.makeNode f args w).1
  template : ∀ f item w, w.ResultsSound → World.KeepsContexts w (host.templateFor f item w).1

namespace World

-- One change of a run, as the contexts see it.
inductive ContextStep (host : Host) : World → World → Prop
  | quiet {w w' : World} : w'.contextView = w.contextView → ContextStep host w w'
  | store {w : World} (n : NodeRef) (v : Json) : w.state n = .inProgress →
      (w.setStateWith n .successful [v]).1.contextView = (w.storeWrites n v).contextView →
      ContextStep host w (w.setStateWith n .successful [v]).1
  | loop {w : World} (node : NodeRef) (args : List Json) :
      Run.LoopSplits KeepsContexts node w ((Run.materialize host node args).run w).2 →
      ContextStep host w ((Run.materialize host node args).run w).2
  | job {w : World} (f : HostFn) (inv : Invocation) : ContextStep host w (host.runJob f inv w).1

-- The changes of a run, one after another, each keeping the result listeners.
def ContextHistory (host : Host) : World → World → Prop :=
  Relation.ReflTransGen fun u u' => KeepsResults u u' ∧ ContextStep host u u'

variable {host : Host}

theorem ContextHistory.sound {w w' : World} (history : ContextHistory host w w')
    (sound : w.ResultsSound) : w'.ResultsSound := by
  induction history with
  | refl => exact sound
  | tail _ step _ => exact step.1.sound

theorem ContextHistory.of_keepsContexts {w w' : World} (keeps : KeepsContexts w w') :
    ContextHistory host w w' :=
  .single ⟨keeps.toKeepsResults, .quiet keeps.view⟩

-- A loop reads its source through the context's own listeners, which keeps the results.
theorem calm_read (w : World) (src : ItemSource) : Calm w (src.read w) := by
  cases src with
  | clause c spec =>
    cases given : spec.of with
    | str path => simpa only [ItemSource.read, given] using calm_ctxResolvePath w c path
    | _ => simpa only [ItemSource.read, given] using Calm.refl w
  | _ => exact Calm.refl w

theorem keepsResults_of_splits {node : NodeRef} {w w' : World}
    (splits : Run.LoopSplits KeepsContexts node w w') : KeepsResults w w' := by
  obtain ⟨u, first, rest⟩ := splits
  rcases rest with rest | ⟨q, l, src, -, -, rest⟩
  · exact first.toKeepsResults.trans rest.toKeepsResults
  · exact first.toKeepsResults.trans
      (((calm_read u src).keepsResults first.sound).trans rest.toKeepsResults)

-- A world without nodes has no listener and no link.
theorem resultsSound_of_no_nodes (w : World) (empty : w.nodes = #[]) : w.ResultsSound where
  own n l member := by
    rw [show w.node n = default by simp [World.node, empty]] at member
    cases member
  acyclic := (links_of_unlinked w (by simp [empty])).1.acyclic

-- A move to `successful`: a store when the node is in progress, and no change otherwise.
theorem contextHistory_succeed (w : World) (sound : w.ResultsSound) (n : NodeRef) (v : Json) :
    ContextHistory host w (w.setStateWith n .successful [v]).1 := by
  by_cases running : w.state n = .inProgress
  · exact .single ⟨keepsResults_succeed w sound n v,
      .store n v running (contextView_succeed w sound n running v)⟩
  · have idle : (w.setStateWith n .successful [v]).1 = w :=
      setStateWith_unmoved w n [v] fun _ _ moved => running (ExecState.moveTo_successful moved)
    rw [idle]
    exact .refl

section Host

variable (keeps : host.KeepsResults)
include keeps

-- Building nodes, linking and unlinking them leave the contexts alone.
theorem keepsContexts_builds :
    Run.Builds host fun u u' => u.ResultsSound → KeepsContexts u u' where
  refl _ sound := KeepsContexts.of_eq sound rfl
  trans first second sound := (first sound).trans (second (first sound).sound)
  node w n f kept sound := keepsContexts_modifyNode w sound n f fun d =>
    ⟨(kept d).1, (kept d).2.2.1, (kept d).2.2.2.1⟩
  addNode w body sound := keepsContexts_addNode w sound body
  attach w p c first sound := keepsContexts_attach w sound p c first
  keep w p n key sound := keepsContexts_storeResult w sound p n key
  factory w f args sound := keeps.factory f args w sound
  template w f item sound := keeps.template f item w sound

-- Compiling a blueprint, at any depth, leaves the contexts alone and the result listeners
-- sound, so a compiled tree starts its runs from a sound world.
theorem compile_keepsContexts (fuel : Nat) (p : PlannerRef) (bp : Blueprint) {w : World}
    (sound : w.ResultsSound) : KeepsContexts w ((compileWith host fuel p bp).run w).2 :=
  Run.compileWith_confined (keepsContexts_builds keeps) fuel p bp w sound

-- A loop's work reads its source at most once; all else it does leaves the contexts alone.
theorem materialize_keepsContexts (node : NodeRef) (args : List Json) {w : World}
    (sound : w.ResultsSound) :
    Run.LoopSplits KeepsContexts node w ((Run.materialize host node args).run w).2 := by
  obtain ⟨u, first, rest⟩ := Run.materialize_splits (keepsContexts_builds keeps)
    (fun w p c sound => keepsContexts_remove w sound p c) node args w
  have before := first sound
  refine ⟨u, before, rest.imp (fun rest => rest before.sound) ?_⟩
  rintro ⟨q, l, src, body, source, rest⟩
  exact ⟨q, l, src, body, source, rest (((calm_read u src).sound before.sound))⟩

theorem contextHistory_effects :
    Run.Effects host fun u u' => u.ResultsSound → ContextHistory host u u' where
  toBuilds := (keepsContexts_builds keeps).weaken (fun first second sound =>
    (first sound).trans (second ((first sound).sound sound)))
    fun _ _ quiet sound => .of_keepsContexts (quiet sound)
  remove w p c sound := .of_keepsContexts (keepsContexts_remove w sound p c)
  move w n s args other sound := .of_keepsContexts (keepsContexts_setStateWith w sound n other args)
  succeed w n v sound := contextHistory_succeed w sound n v
  announce w q event args named sound := .of_keepsContexts (keepsContexts_emit w sound q
    (by rcases named with rfl | rfl <;> simp) args)
  job w f inv sound := .single ⟨keeps.job f inv w sound, .job f inv⟩
  loop w node args sound :=
    have splits := materialize_keepsContexts keeps node args sound
    .single ⟨keepsResults_of_splits splits, .loop node args splits⟩

-- Every run from a world whose result listeners are sound: each change it makes to what the
-- contexts show is a node's own success writing its result under its keys, a loop's one read
-- of its source, or a job's own work, and every result listener stays.
theorem settles_context_history {w w' : World} {t : Task} {o : Outcome}
    (sound : w.ResultsSound) (run : Run.Settles host w t w' o) : ContextHistory host w w' :=
  Run.settles_effects (contextHistory_effects keeps) run sound

end Host

-- A host whose jobs succeed with their first argument and change nothing.
def echoHost : Host where
  runJob _ inv w := (w, .done (.ok (inv.args.head?.getD .null)))
  makeNode _ _ w := (w, .error (.of .exhausted))
  argsFor _ _ _ := []
  templateFor _ _ w := (w, .plan {})
  conditionFor pattern := .ok ⟨pattern, fun _ => true⟩

theorem echoHost_keepsResults : echoHost.KeepsResults where
  job _ _ _ sound := (KeepsContexts.of_eq sound rfl).toKeepsResults
  factory _ _ _ sound := KeepsContexts.of_eq sound rfl
  template _ _ _ sound := KeepsContexts.of_eq sound rfl

-- A job that stores its result under `out` in the first context.
def echoResultWorld : World :=
  (({ contexts := #[{}] } : World).addNode (.job ⟨"echo", .null⟩)).1.storeResult ⟨0⟩ ⟨0⟩ "out"

theorem echo_result_history :
    let w := echoResultWorld
    let run := process echoHost ⟨0⟩ [.str "hi"] w
    echoHost.KeepsResults ∧ w.ResultsSound ∧
      Run.Settles echoHost w (.begin ⟨0⟩ [.str "hi"]) run.2 run.1 ∧
      ContextHistory echoHost w run.2 := by
  intro w run
  have empty := resultsSound_of_no_nodes ({ contexts := #[{}] } : World) rfl
  have added := keepsContexts_addNode _ empty (.job ⟨"echo", .null⟩)
  have sound : w.ResultsSound := (keepsContexts_storeResult _ added.sound ⟨0⟩ ⟨0⟩ "out").sound
  -- the run ends well, so the runner did not give up
  have ended : run.1.isOk = true := by decide +kernel
  have settles := (Run.process_settles echoHost ⟨0⟩ _ w _ _ (Prod.eta _).symm).resolve_right
    fun gaveUp => by
      rw [gaveUp] at ended
      cases ended
  exact ⟨echoHost_keepsResults, sound, settles,
    settles_context_history echoHost_keepsResults sound settles⟩

end World

end TaskTree
