import TaskTree.Proofs.Compile
import TaskTree.Script.Host

set_option autoImplicit false

namespace TaskTree.Compile

theorem links_node (template : HostFn → Json → Blueprint) (fuel : Nat) (n : NodeRef) :
    links template fuel (.node n) = [] := by
  cases fuel <;> rfl

section Plans

variable (host : Host) (template : HostFn → Json → Blueprint)
  (factory : HostFn → List Json → Except WorkError NodeBody) (given : Given host template factory)
  (p : PlannerRef) (w₀ : World) (positive : 0 < (w₀.planner p).config.defaultMaxConcurrency)

include given positive

-- One level of a plan: its hooks, then the node that its type builds, then the options and
-- hooks that go on that node. The nested blueprints are compiled by `compile`, which behaves
-- as the level below.
theorem plan_behaves (fuel : Nat) (compile : Compiler)
    (compiles : ∀ e w, w.planners = w₀.planners → Present w (links template fuel e) →
      Behaves (compile p e) w (WellFormed template factory host.conditionFor w₀ p fuel e) (links template fuel e)
        (Made w e))
    (plan : Plan) (w : World) (same : w.planners = w₀.planners)
    (present : Present w (links template (fuel + 1) (.plan plan))) :
    Behaves (Compile.plan compile host p plan) w
      (WellFormed template factory host.conditionFor w₀ p (fuel + 1) (.plan plan))
      (links template (fuel + 1) (.plan plan)) (Made w (.plan plan)) := by
  unfold Compile.plan
  extract_lets body
  by_cases unknown : plan.type = .unknown
  · rw [if_pos unknown]
    exact (Behaves.of_bind_error (Engine.run_throw _ _)).of_iff (by simp [WellFormed, unknown])
  rw [if_neg unknown]
  simp only [WellFormed, links, Made] at present ⊢
  have hooked := hook_behaves p w₀ compile _ _ compiles
  obtain ⟨presentFail, presentRest⟩ := present_append.mp present
  obtain ⟨presentSuccess, presentRest⟩ := present_append.mp presentRest
  obtain ⟨presentAlways, presentType⟩ := present_append.mp presentRest
  -- the three hooks, each compiled in the world the one before left
  refine (hooked plan.onFail w same presentFail).bind
    (present_append.mpr ⟨presentSuccess, presentRest⟩) fun onFail w₁ _ keeps₁ _ => ?_
  have same₁ : w₁.planners = w₀.planners := keeps₁.planners.trans same
  refine (hooked plan.onSuccess w₁ same₁ (presentSuccess.grow keeps₁.grows)).bind
    (presentRest.grow keeps₁.grows) fun onSuccess w₂ _ keeps₂ _ => ?_
  have same₂ : w₂.planners = w₀.planners := keeps₂.planners.trans same₁
  have grows₂ : w.nodes.size ≤ w₂.nodes.size := Nat.le_trans keeps₁.grows keeps₂.grows
  refine (hooked plan.always w₂ same₂ (presentAlways.grow grows₂)).bind
    (presentType.grow grows₂) fun always w₃ _ keeps₃ _ => ?_
  have same₃ : w₃.planners = w₀.planners := keeps₃.planners.trans same₂
  have grows : w.nodes.size ≤ w₃.nodes.size := Nat.le_trans grows₂ keeps₃.grows
  extract_lets dress
  -- what follows the node: options and hooks unless it came from a factory, then the result
  -- key; all of it steady, and only the failure condition can fail
  have dressed : ∀ n w₄, Behaves (dress n) w₄ (plan.type ≠ .factory → ConditionValid host.conditionFor plan) []
      (fun r _ => r = n) := by
    intro n w₄
    unfold dress
    extract_lets returned stored setAlways setSuccess
    have storing : ∀ w₅, Behaves (stored ()) w₅ True [] (fun r _ => r = n) := by
      intro w₅
      simp only [stored, returned]
      split
      · refine Behaves.after_modify (w₅.steady_storeResult _ _ _) ?_ (fun _ _ after => after)
        exact Behaves.of_pure n rfl
      · exact Behaves.of_pure n rfl
    have alwaysSet : ∀ w₅, Behaves (setAlways ()) w₅ True [] (fun r _ => r = n) := by
      intro w₅
      simp only [setAlways]
      split
      · exact Behaves.after_modify (w₅.steady_modifySettings _ _) (storing _) (fun _ _ after => after)
      · exact storing w₅
    have successSet : ∀ w₅, Behaves (setSuccess ()) w₅ True [] (fun r _ => r = n) := by
      intro w₅
      simp only [setSuccess]
      split
      · exact Behaves.after_modify (w₅.steady_modifySettings _ _) (alwaysSet _)
          (fun _ _ after => after)
      · exact alwaysSet w₅
    by_cases made : plan.type = .factory
    · rw [if_neg (not_not_intro made)]
      exact (storing w₄).of_iff (by simp [made])
    · rw [if_pos made]
      refine ((options_behaves host n plan w₄).bind (present_nil _) fun _ w₅ _ _ _ =>
        (?_ : Behaves _ _ True _ _)).of_iff (by simp [made])
      split
      · exact Behaves.after_modify (w₅.steady_modifySettings _ _) (successSet _)
          (fun _ _ after => after)
      · exact successSet w₅
  -- a builder's fresh node stays fresh through what follows, and is new since `w`
  have finish : ∀ {x : Engine NodeRef} {holds : Prop} {L : List NodeRef},
      Behaves x w₃ holds L (fun r w' => Fresh w₃ w' r) →
      Behaves (x >>= dress) w₃ (holds ∧ (plan.type ≠ .factory → ConditionValid host.conditionFor plan)) L
        (fun r w' => Fresh w w' r) := by
    intro x holds L built
    refine (built.bind (present_nil _) fun n w₄ _ _ fresh => ?_).of_links (List.append_nil L)
    exact (dressed n w₄).conseq_frame fun r w' keeps same =>
      same ▸ (fresh.keeps keeps List.not_mem_nil).older grows
  have presentNow := presentType.grow grows
  cases kind : plan.type with
  | job =>
      exact (finish (job_behaves p w₀ plan w₃ same₃)).of_iff (by simp [kind])
  | queue =>
      simp only [kind] at presentNow
      exact (finish (queue_behaves p w₀ compile _ _ compiles (links_node template fuel) plan w₃
        same₃ positive presentNow)).of_iff (by simp [kind])
  | template =>
      simp only [kind] at presentNow
      cases named : plan.template with
      | none =>
          have ran : (Compile.template compile host p plan).run w₃ =
              (.error (.of (.invalidPlan plan.type.name)), w₃) := by
            simp [Compile.template, named]
          exact (Behaves.of_bind_error ran).of_iff (by simp)
      | some t =>
          simp only [named] at presentNow ⊢
          exact (finish (template_behaves p w₀ compile _ _ compiles (links_node template fuel) host
            template given.templates plan t named w₃ same₃ positive presentNow)).of_iff
            (by simp [kind])
  | loop =>
      exact (finish (loop_behaves p w₀ plan w₃ same₃ positive)).of_iff (by simp [kind])
  | factory =>
      exact (finish (factory_behaves p w₀ compile host factory given.factories plan w₃
        same₃)).of_iff (by simp [kind])
  | unknown => exact absurd kind unknown

-- The induction on the depth: at each level a compiled node is itself, and a plan behaves as
-- `plan_behaves` says with the level below compiling its nested blueprints.
theorem compileWith_behaves (fuel : Nat) :
    ∀ e w, w.planners = w₀.planners → Present w (links template fuel e) →
      Behaves (compileWith host fuel p e) w (WellFormed template factory host.conditionFor w₀ p fuel e)
        (links template fuel e) (Made w e) := by
  induction fuel with
  | zero =>
      intro e w _ _
      exact Behaves.of_throw _
  | succ fuel ih =>
      intro e w same present
      cases e with
      | node n => exact Behaves.of_pure n rfl
      | plan plan => exact plan_behaves host template factory given p w₀ positive fuel _ ih plan w same present

end Plans

theorem compiles_iff_wellFormed (host : Host) (template : HostFn → Json → Blueprint)
    (factory : HostFn → List Json → Except WorkError NodeBody) (given : Given host template factory)
    (p : PlannerRef) (w : World) (positive : 0 < (w.planner p).config.defaultMaxConcurrency)
    (bp : Blueprint) (present : Present w (links template planDepth bp)) :
    (∀ n, (toModel host p (.node n)).run w = (.ok n, w)) ∧
      ((∃ n w', (toModel host p bp).run w = (.ok n, w')) ↔
        WellFormed template factory host.conditionFor w p planDepth bp ∧ Linkable w (links template planDepth bp)) :=
  ⟨fun _ => rfl,
    (compileWith_behaves host template factory given p w positive planDepth bp w rfl present).ok_iff⟩

-- Any host, with its templates and factories replaced by given functions.
def withGiven (host : Host) (template : HostFn → Json → Blueprint)
    (factory : HostFn → List Json → Except WorkError NodeBody) : Host :=
  { host with
    templateFor := fun t item w => (w, template t item)
    makeNode := fun f args w =>
      match factory f args with
      | .ok body => ((w.addNode body).1, .ok (.node (w.addNode body).2))
      | .error e => (w, .error e) }

theorem given_withGiven (host : Host) (template : HostFn → Json → Blueprint)
    (factory : HostFn → List Json → Except WorkError NodeBody) :
    Given (withGiven host template factory) template factory :=
  ⟨fun _ _ _ => rfl, fun _ _ _ => rfl⟩

def oneJobWorld : World where
  nodes := #[{ id := "a", body := .job ⟨"echo", .null⟩ }]

-- A queue of the world's job and a job plan of its own.
def echoQueue : Plan :=
  { type := .queue, queue := some [.node ⟨0⟩, .plan { type := .job, run := some ⟨"echo", .null⟩ }] }

theorem echo_queue_compiles :
    let template : HostFn → Json → Blueprint := fun _ _ => .node ⟨0⟩
    let factory : HostFn → List Json → Except WorkError NodeBody := fun _ _ => .ok (.job ⟨"echo", .null⟩)
    let host := withGiven (Script.host ⟨0⟩ ⟨0⟩) template factory
    Given host template factory ∧ 0 < (oneJobWorld.planner ⟨0⟩).config.defaultMaxConcurrency ∧
      Present oneJobWorld (links template planDepth (.plan echoQueue)) ∧
      ((∀ n, (toModel host ⟨0⟩ (.node n)).run oneJobWorld = (.ok n, oneJobWorld)) ∧
        ((∃ n w', (toModel host ⟨0⟩ (.plan echoQueue)).run oneJobWorld = (.ok n, w')) ↔
          WellFormed template factory host.conditionFor oneJobWorld ⟨0⟩ planDepth (.plan echoQueue) ∧
            Linkable oneJobWorld (links template planDepth (.plan echoQueue)))) := by
  intro template factory host
  have present : Present oneJobWorld (links template planDepth (.plan echoQueue)) := by
    intro m member
    simp [links, planDepth, echoQueue, Blueprint.compiled] at member
    subst member
    decide
  exact ⟨given_withGiven _ _ _, by decide, present,
    compiles_iff_wellFormed host template factory (given_withGiven _ _ _) ⟨0⟩ oneJobWorld (by decide)
      (.plan echoQueue) present⟩

-- A queue plan that lists one compiled node twice.
def twiceQueued : Plan := { type := .queue, queue := some [.node ⟨0⟩, .node ⟨0⟩] }

-- The plan is well formed, yet the second entry finds the node beneath the queue already.
theorem duplicate_entries_refused :
    let template : HostFn → Json → Blueprint := fun _ _ => .node ⟨0⟩
    let factory : HostFn → List Json → Except WorkError NodeBody := fun _ _ => .ok (.job ⟨"echo", .null⟩)
    let host := withGiven (Script.host ⟨0⟩ ⟨0⟩) template factory
    WellFormed template factory host.conditionFor oneJobWorld ⟨0⟩ planDepth (.plan twiceQueued) ∧
      ((toModel host ⟨0⟩ (.plan twiceQueued)).run oneJobWorld).1 = .error (.of .hasParent) := by
  intro template factory host
  refine ⟨?_, by rfl⟩
  simp [WellFormed, planDepth, twiceQueued, ValidLimit, ConditionValid]

end TaskTree.Compile
