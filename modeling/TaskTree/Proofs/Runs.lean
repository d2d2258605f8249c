import Mathlib.Logic.Relation
import TaskTree.Run

set_option autoImplicit false

namespace TaskTree.Run

-- A run of work in flight is a sequence of polls, each at a depth of its own. A poll at depth
-- zero changes nothing, so the depths only decide how far each poll gets.

def Step (host : Host) (a b : Task × World) : Prop :=
  ∃ depth, poll host depth a.1 a.2 = b

def Settles (host : Host) (w : World) (t : Task) (w' : World) (o : Outcome) : Prop :=
  Relation.ReflTransGen (Step host) (t, w) (.settled o, w')

-- The work that a step of the engine starts, run from `w` until it settles.
def Completes (host : Host) (start : StateM World Task) (w w' : World) (o : Outcome) : Prop :=
  Settles host (start w).2 (start w).1 w' o

section StateSteps

variable {α β : Type}

@[simp] theorem bind_apply (x : StateM World α) (f : α → StateM World β) (w : World) :
    (x >>= f) w = f (x w).1 (x w).2 := rfl

@[simp] theorem pure_apply (a : α) (w : World) : (pure a : StateM World α) w = (a, w) := rfl

@[simp] theorem get_apply (w : World) : (get : StateM World World) w = (w, w) := rfl

@[simp] theorem modify_apply (f : World → World) (w : World) :
    (modify f : StateM World Unit) w = ((), f w) := rfl

@[simp] theorem change_apply (f : World → World × α) (w : World) :
    change f w = ((f w).2, (f w).1) := rfl

@[simp] theorem map_apply (f : α → β) (x : StateM World α) (w : World) :
    (f <$> x) w = (f (x w).1, (x w).2) := rfl

end StateSteps

theorem poll_zero (host : Host) (t : Task) (w : World) : poll host 0 t w = (t, w) := rfl

theorem poll_settled (host : Host) (depth : Nat) (o : Outcome) (w : World) :
    poll host depth (.settled o) w = (.settled o, w) := by
  cases depth <;> rfl

theorem poll_begin (host : Host) (depth : Nat) (node : NodeRef) (args : List Json) (w : World) :
    poll host (depth + 1) (.begin node args) w =
      poll host depth (begin host node args w).1 (begin host node args w).2 := rfl

theorem step_settled (host : Host) (o : Outcome) (w : World) (b : Task × World)
    (step : Step host (.settled o, w) b) : b = (.settled o, w) := by
  obtain ⟨depth, polled⟩ := step
  rw [← polled, poll_settled]

theorem settles_settled (host : Host) (o o' : Outcome) (w w' : World)
    (run : Settles host w (.settled o) w' o') : w' = w ∧ o' = o := by
  -- nothing moves a settled task, so the end of the run is where it began
  have stays : ∀ b, Relation.ReflTransGen (Step host) (.settled o, w) b → b = (.settled o, w) := by
    intro b path
    induction path with
    | refl => rfl
    | tail _ step same =>
        subst same
        exact step_settled host o w _ step
  have same := stays _ run
  simp only [Prod.mk.injEq, Task.settled.injEq] at same
  exact ⟨same.2, same.1⟩

theorem settles_begin (host : Host) (node : NodeRef) (args : List Json) (w w' : World) (o : Outcome)
    (run : Settles host w (.begin node args) w' o) :
    Settles host (begin host node args w).2 (begin host node args w).1 w' o := by
  have key : ∀ a, Relation.ReflTransGen (Step host) a (.settled o, w') → ∀ v, a = (.begin node args, v) →
      Settles host (begin host node args v).2 (begin host node args v).1 w' o := by
    intro a path
    induction path using Relation.ReflTransGen.head_induction_on with
    | refl =>
        intro v same
        cases same
    | head step rest ih =>
        rename_i b _
        intro v same
        subst same
        obtain ⟨depth, polled⟩ := step
        cases depth with
        | zero =>
            rw [poll_zero] at polled
            exact ih v polled.symm
        | succ depth =>
            rw [poll_begin] at polled
            exact Relation.ReflTransGen.head ⟨depth, polled⟩ rest
  exact key _ run w rfl

-- The runner polls at one depth until the work settles or the rounds run out: what it returns
-- is the end of a run, unless it gave up.
theorem drive_settles (host : Host) (rounds : Nat) (t : Task) (w w' : World) (o : Outcome)
    (driven : drive host rounds t w = (o, w')) :
    Settles host w t w' o ∨ o = .error (.of .exhausted) := by
  induction rounds generalizing t w with
  | zero =>
      simp only [drive, pure_apply] at driven
      cases driven
      exact Or.inr rfl
  | succ rounds ih =>
      rcases polled : poll host pollDepth t w with ⟨t₁, w₁⟩
      have step : Step host (t, w) (t₁, w₁) := ⟨pollDepth, polled⟩
      simp only [drive, bind_apply, polled] at driven
      cases t₁ with
      | settled o₁ =>
          simp only [pure_apply] at driven
          cases driven
          exact Or.inl (Relation.ReflTransGen.single step)
      | _ =>
          rcases ih _ _ driven with run | gaveUp
          · exact Or.inl (Relation.ReflTransGen.head step run)
          · exact Or.inr gaveUp

theorem process_settles (host : Host) (node : NodeRef) (args : List Json) (w w' : World)
    (o : Outcome) (processed : process host node args w = (o, w')) :
    Settles host w (.begin node args) w' o ∨ o = .error (.of .exhausted) :=
  drive_settles host pollLimit (.begin node args) w w' o processed

-- Work that waits on inner work: each poll polls the inner work once and, when it has
-- settled, goes on at once with what follows the outcome.
structure Wraps (host : Host) (wrap : Task → Task) (next : Outcome → StateM World Task) : Prop where
  unsettled : ∀ t o, wrap t ≠ .settled o
  settles : ∀ depth inner w o w₁, poll host depth inner w = (.settled o, w₁) →
    poll host (depth + 1) (wrap inner) w = poll host depth (next o w₁).1 (next o w₁).2
  waits : ∀ depth inner w t w₁, poll host depth inner w = (t, w₁) → (∀ o, t ≠ .settled o) →
    poll host (depth + 1) (wrap inner) w = (wrap t, w₁)

theorem settles_unwrap (host : Host) (wrap : Task → Task) (next : Outcome → StateM World Task)
    (wraps : Wraps host wrap next) (inner : Task) (w w' : World) (o' : Outcome)
    (run : Settles host w (wrap inner) w' o') :
    ∃ w₁ o, Settles host w inner w₁ o ∧ Settles host (next o w₁).2 (next o w₁).1 w' o' := by
  have key : ∀ a, Relation.ReflTransGen (Step host) a (.settled o', w') → ∀ inner v, a = (wrap inner, v) →
      ∃ w₁ o, Settles host v inner w₁ o ∧ Settles host (next o w₁).2 (next o w₁).1 w' o' := by
    intro a path
    induction path using Relation.ReflTransGen.head_induction_on with
    | refl =>
        intro inner v same
        exact absurd (congrArg Prod.fst same).symm (wraps.unsettled inner o')
    | head step rest ih =>
        rename_i b _
        intro inner v same
        subst same
        obtain ⟨depth, polled⟩ := step
        cases depth with
        | zero =>
            rw [poll_zero] at polled
            exact ih inner v polled.symm
        | succ depth =>
            rcases innerPoll : poll host depth inner v with ⟨t₁, w₁⟩
            by_cases done : ∃ o, t₁ = .settled o
            · -- the inner work settles in this poll and what follows starts at once
              obtain ⟨o, rfl⟩ := done
              rw [wraps.settles depth inner v o w₁ innerPoll] at polled
              exact ⟨w₁, o, Relation.ReflTransGen.single ⟨depth, innerPoll⟩,
                Relation.ReflTransGen.head ⟨depth, polled⟩ rest⟩
            · have waiting : ∀ o, t₁ ≠ .settled o := fun o same => done ⟨o, same⟩
              rw [wraps.waits depth inner v t₁ w₁ innerPoll waiting] at polled
              obtain ⟨w₂, o, innerRun, after⟩ := ih t₁ w₁ polled.symm
              exact ⟨w₂, o, Relation.ReflTransGen.head ⟨depth, innerPoll⟩ innerRun, after⟩
  exact key _ run inner w rfl

theorem wraps_perform (host : Host) (node : NodeRef) :
    Wraps host (.perform node) (afterWork node) where
  unsettled t o same := by cases same
  settles depth inner w o w₁ polled := by
    simp only [poll, bind_apply, polled]
  waits depth inner w t w₁ polled waiting := by
    simp only [poll, bind_apply, polled]
    cases t with
    | settled o => exact absurd rfl (waiting o)
    | _ => rfl

-- What follows a success hook: its result becomes the node's, its error the node's failure.
def afterSuccessHook (node : NodeRef) : Outcome → StateM World Task
  | .ok r => markSuccess node r
  | .error e => recover node e

theorem wraps_success (host : Host) (node : NodeRef) :
    Wraps host (.success node) (afterSuccessHook node) where
  unsettled t o same := by cases same
  settles depth inner w o w₁ polled := by
    cases o <;> simp only [poll, bind_apply, polled] <;> rfl
  waits depth inner w t w₁ polled waiting := by
    simp only [poll, bind_apply, polled]
    cases t with
    | settled o => exact absurd rfl (waiting o)
    | _ => rfl

theorem wraps_recovery (host : Host) (node : NodeRef) :
    Wraps host (.recovery node) (finish node) where
  unsettled t o same := by cases same
  settles depth inner w o w₁ polled := by
    simp only [poll, bind_apply, polled]
  waits depth inner w t w₁ polled waiting := by
    simp only [poll, bind_apply, polled]
    cases t with
    | settled o => exact absurd rfl (waiting o)
    | _ => rfl

theorem wraps_closing (host : Host) (node : NodeRef) (outcome : Outcome) :
    Wraps host (.closing node outcome) (fun finished => pure (.settled (closingOutcome outcome finished))) where
  unsettled t o same := by cases same
  settles depth inner w o w₁ polled := by
    simp only [poll, bind_apply, polled]
    exact (poll_settled host depth _ w₁).symm
  waits depth inner w t w₁ polled waiting := by
    simp only [poll, bind_apply, polled]
    cases t with
    | settled o => exact absurd rfl (waiting o)
    | _ => rfl

end TaskTree.Run
