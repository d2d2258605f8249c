import Mathlib.Data.List.Forall2
import TaskTree.Proofs.Runs
import TaskTree.Script.Host

set_option autoImplicit false

namespace TaskTree.Run

def Advances (host : Host) (t t' : Task) : Prop :=
  ∃ depth w w', poll host depth t w = (t', w')

def ChildRun (host : Host) : Task → Task → Prop :=
  Relation.ReflTransGen (Advances host)

-- The children of a batch after some polls: the same children, each further along its run.
def SlotsAdvance (host : Host) : List (NodeRef × Task) → List (NodeRef × Task) → Prop :=
  List.Forall₂ fun p p' => p'.1 = p.1 ∧ ChildRun host p.2 p'.2

section Slots

variable (host : Host)

theorem slotsAdvance_refl (slots : List (NodeRef × Task)) : SlotsAdvance host slots slots := by
  induction slots with
  | nil => exact List.Forall₂.nil
  | cons p rest ih => exact List.Forall₂.cons ⟨rfl, Relation.ReflTransGen.refl⟩ ih

theorem slotsAdvance_trans {slots slots₁ slots₂ : List (NodeRef × Task)}
    (first : SlotsAdvance host slots slots₁) (second : SlotsAdvance host slots₁ slots₂) :
    SlotsAdvance host slots slots₂ := by
  induction first generalizing slots₂ with
  | nil => exact second
  | cons head _ ih =>
      cases second with
      | cons head' tail' =>
          exact List.Forall₂.cons ⟨head'.1.trans head.1, head.2.trans head'.2⟩ (ih tail')

theorem slotsAdvance_set (slots : List (NodeRef × Task)) (i : Nat) (child : NodeRef)
    (t t' : Task) (current : slots[i]? = some (child, t)) (advance : ChildRun host t t') :
    SlotsAdvance host slots (slots.set i (child, t')) := by
  induction slots generalizing i with
  | nil => cases current
  | cons p rest ih =>
      cases i with
      | zero =>
          simp only [List.getElem?_cons_zero, Option.some.injEq] at current
          subst current
          exact List.Forall₂.cons ⟨rfl, advance⟩ (slotsAdvance_refl host rest)
      | succ i =>
          simp only [List.getElem?_cons_succ] at current
          exact List.Forall₂.cons ⟨rfl, Relation.ReflTransGen.refl⟩ (ih i current)

variable (step : Task → StateM World Task) (advances : ∀ t w, ChildRun host t (step t w).1)
  (queue : NodeRef)
include advances

theorem pollSlot_advances (p : NodeRef × Task) (w : World) :
    (pollSlot step queue p w).1.1 = p.1 ∧ ChildRun host p.2 (pollSlot step queue p w).1.2 := by
  obtain ⟨child, t⟩ := p
  by_cases ended : t.isSettled
  · have same : pollSlot step queue (child, t) w = ((child, t), w) := by
      simp only [pollSlot, ended, ↓reduceIte, pure_apply]
    rw [same]
    exact ⟨rfl, Relation.ReflTransGen.refl⟩
  · -- the child's task is polled once; what the end of its run raises leaves the task as it is
    simp only [pollSlot, ended, Bool.false_eq_true, ↓reduceIte, bind_apply]
    split <;> exact ⟨rfl, advances t w⟩

theorem mapM_pollSlot_advances (slots : List (NodeRef × Task)) (w : World) :
    SlotsAdvance host slots (slots.mapM (pollSlot step queue) w).1 := by
  induction slots generalizing w with
  | nil => exact List.Forall₂.nil
  | cons p rest ih =>
      simp only [List.mapM_cons, bind_apply, pure_apply]
      exact List.Forall₂.cons (pollSlot_advances host step advances queue p w) (ih _)

theorem pollRing_advances (budget : Nat) (slots : List (NodeRef × Task)) (next waiting : Nat)
    (w : World) : SlotsAdvance host slots (pollRing step queue budget slots next waiting w).1.1 := by
  induction budget generalizing slots next waiting w with
  | zero => exact slotsAdvance_refl host slots
  | succ budget ih =>
      simp only [pollRing]
      rcases found : nextUnsettled slots next with _ | i
      · simp only [pure_apply]
        exact slotsAdvance_refl host slots
      · rcases current : slots[i]? with _ | ⟨child, t⟩
        · simp only [current, pure_apply]
          exact slotsAdvance_refl host slots
        · -- one child moves on; the ring then goes on or gives way
          have moved := slotsAdvance_set host slots i child t (step t w).1 current (advances t w)
          simp only [current, bind_apply]
          split
          · exact slotsAdvance_trans host moved (ih _ _ _ _)
          · split
            · exact moved
            · exact slotsAdvance_trans host moved (ih _ _ _ _)

theorem pollSlots_advances (slots : List (NodeRef × Task)) (next : Nat) (w : World) :
    SlotsAdvance host slots (pollSlots step queue slots next w).1.1 := by
  unfold pollSlots
  split
  · exact mapM_pollSlot_advances host step advances queue slots w
  · exact pollRing_advances host step advances queue _ slots next 0 w

end Slots

-- The first error among outcomes in order: every outcome before it is a success.
def FirstError (outcomes : List Outcome) (e : WorkError) : Prop :=
  ∃ (values : List Json) (rest : List Outcome), outcomes = values.map .ok ++ .error e :: rest

theorem gather_some (slots : List (NodeRef × Task)) (r : Except WorkError (List Json))
    (gathered : gather slots = some r) :
    ∃ outcomes, List.Forall₂ (fun p o => p.2 = .settled o) slots outcomes := by
  induction slots generalizing r with
  | nil => exact ⟨[], List.Forall₂.nil⟩
  | cons p rest ih =>
      obtain ⟨child, t⟩ := p
      cases t with
      | settled o =>
          -- a gathered batch has every child ended, so the rest is gathered too
          have restGathered : ∃ r', gather rest = some r' := by
            cases o <;> simp only [gather, Option.map_eq_some_iff] at gathered <;>
              exact ⟨_, gathered.choose_spec.1⟩
          obtain ⟨r', restGathered⟩ := restGathered
          obtain ⟨outcomes, ended⟩ := ih r' restGathered
          exact ⟨o :: outcomes, List.Forall₂.cons rfl ended⟩
      | _ => simp [gather] at gathered

theorem gather_ok (slots : List (NodeRef × Task)) (values : List Json)
    (gathered : gather slots = some (.ok values)) :
    List.Forall₂ (fun p v => p.2 = .settled (.ok v)) slots values := by
  induction slots generalizing values with
  | nil =>
      simp only [gather, Option.some.injEq, Except.ok.injEq] at gathered
      subst gathered
      exact List.Forall₂.nil
  | cons p rest ih =>
      obtain ⟨child, t⟩ := p
      cases t with
      | settled o =>
          cases o with
          | error e =>
              simp only [gather, Option.map_eq_some_iff] at gathered
              obtain ⟨_, _, wrong⟩ := gathered
              cases wrong
          | ok v =>
              simp only [gather, Option.map_eq_some_iff] at gathered
              obtain ⟨r, restGathered, same⟩ := gathered
              cases r with
              | error e => cases same
              | ok values' =>
                  simp only [Except.map, Except.ok.injEq] at same
                  subst same
                  exact List.Forall₂.cons rfl (ih values' restGathered)
      | _ => simp [gather] at gathered

theorem gather_error (slots : List (NodeRef × Task)) (e : WorkError)
    (gathered : gather slots = some (.error e)) :
    ∃ outcomes, List.Forall₂ (fun p o => p.2 = .settled o) slots outcomes ∧
      FirstError outcomes e := by
  induction slots with
  | nil => simp [gather] at gathered
  | cons p rest ih =>
      obtain ⟨child, t⟩ := p
      cases t with
      | settled o =>
          cases o with
          | error e' =>
              -- the first error in child order, once the rest has ended too
              simp only [gather, Option.map_eq_some_iff, Except.error.injEq] at gathered
              obtain ⟨r, restGathered, rfl⟩ := gathered
              obtain ⟨outcomes, ended⟩ := gather_some rest r restGathered
              exact ⟨.error e' :: outcomes, List.Forall₂.cons rfl ended, [], outcomes, rfl⟩
          | ok v =>
              simp only [gather, Option.map_eq_some_iff] at gathered
              obtain ⟨r, restGathered, same⟩ := gathered
              cases r with
              | ok values => cases same
              | error e' =>
                  simp only [Except.map, Except.error.injEq] at same
                  subst same
                  obtain ⟨outcomes, ended, values, later, split⟩ := ih restGathered
                  refine ⟨.ok v :: outcomes, List.Forall₂.cons rfl ended, v :: values, later, ?_⟩
                  rw [split]
                  rfl
      | _ => simp [gather] at gathered

theorem openBatch_nil (queue : NodeRef) (limit : Nat) (results : List Json) (w : World) :
    (openBatch queue limit [] results w).1 = .settled (.ok (.arr results)) := rfl

theorem openBatch_cons (queue : NodeRef) (limit : Nat) (c : NodeRef) (later : List NodeRef)
    (results : List Json) (w : World) :
    (openBatch queue limit (c :: later) results w).1 =
      .batch queue limit (((c :: later).take limit).map fun c => (c, .begin c []))
        ((c :: later).drop limit) results 0 := by
  simp [openBatch]

-- A child that ended well with its result.
def EndsWell (host : Host) (c : NodeRef) (r : Json) : Prop :=
  ChildRun host (.begin c []) (.settled (.ok r))

-- A batch of a run over `cs` in batches of `m`: the children before it ended well with the
-- results so far, it holds the next `m` children, each somewhere along its own run from its
-- start with no arguments, and the children after it wait.
structure Scheduled (host : Host) (cs : List NodeRef) (m : Nat) (slots : List (NodeRef × Task))
    (later : List NodeRef) (results : List Json) : Prop where
  finished : List.Forall₂ (EndsWell host) (cs.take results.length) results
  aligned : m ∣ results.length
  current : slots.map Prod.fst = (cs.drop results.length).take m
  waiting : later = cs.drop (results.length + m)
  running : ∀ p ∈ slots, ChildRun host (.begin p.1 []) p.2

-- How a run over `cs` in batches of `m` ends: with every child's result in child order, or
-- with the first error of a batch whose children all ended, every batch before it having ended
-- well.
def Ends (host : Host) (cs : List NodeRef) (m : Nat) : Outcome → Prop
  | .ok v => ∃ results, v = .arr results ∧ List.Forall₂ (EndsWell host) cs results
  | .error e => ∃ n results outcomes, m ∣ n ∧ List.Forall₂ (EndsWell host) (cs.take n) results ∧
      List.Forall₂ (fun c o => ChildRun host (.begin c []) (.settled o)) ((cs.drop n).take m)
        outcomes ∧
      FirstError outcomes e

-- Where a queue's run over `cs` in batches of `m` can be.
def QueueAt (host : Host) (queue : NodeRef) (cs : List NodeRef) (m : Nat) : Task → Prop
  | .batch q limit slots later results _ =>
      q = queue ∧ limit = m ∧ Scheduled host cs m slots later results
  | .settled o => Ends host cs m o
  | _ => False

section Schedule

variable (host : Host) (cs : List NodeRef) (m : Nat)

theorem slotsAdvance_children {slots slots' : List (NodeRef × Task)}
    (advanced : SlotsAdvance host slots slots') : slots'.map Prod.fst = slots.map Prod.fst := by
  induction advanced with
  | nil => rfl
  | cons head _ ih => simp only [List.map_cons, head.1, ih]

theorem slotsAdvance_running {slots slots' : List (NodeRef × Task)}
    (advanced : SlotsAdvance host slots slots')
    (running : ∀ p ∈ slots, ChildRun host (.begin p.1 []) p.2) :
    ∀ p ∈ slots', ChildRun host (.begin p.1 []) p.2 := by
  induction advanced with
  | nil => exact running
  | cons head _ ih =>
      intro p member
      rcases List.mem_cons.mp member with same | later
      · subst same
        rw [head.1]
        exact (running _ List.mem_cons_self).trans head.2
      · exact ih (fun q inRest => running q (List.mem_cons_of_mem _ inRest)) p later

theorem scheduled_advance {slots slots' : List (NodeRef × Task)} {later : List NodeRef}
    {results : List Json} (scheduled : Scheduled host cs m slots later results)
    (advanced : SlotsAdvance host slots slots') : Scheduled host cs m slots' later results where
  finished := scheduled.finished
  aligned := scheduled.aligned
  current := (slotsAdvance_children host advanced).trans scheduled.current
  waiting := scheduled.waiting
  running := slotsAdvance_running host advanced scheduled.running

-- The children of a batch whose tasks all ended, with the outcomes of their runs.
theorem batch_ended {slots : List (NodeRef × Task)} {outcomes : List Outcome}
    (running : ∀ p ∈ slots, ChildRun host (.begin p.1 []) p.2)
    (ended : List.Forall₂ (fun p o => p.2 = .settled o) slots outcomes) :
    List.Forall₂ (fun c o => ChildRun host (.begin c []) (.settled o)) (slots.map Prod.fst)
      outcomes := by
  induction ended with
  | nil => exact List.Forall₂.nil
  | cons head _ ih =>
      refine List.Forall₂.cons ?_ (ih fun q inRest => running q (List.mem_cons_of_mem _ inRest))
      rw [← head]
      exact running _ List.mem_cons_self

theorem queueAt_openBatch (queue : NodeRef) (later : List NodeRef) (results : List Json)
    (w : World) (done : List.Forall₂ (EndsWell host) (cs.take results.length) results)
    (rest : later = cs.drop results.length) (aligned : later ≠ [] → m ∣ results.length) :
    QueueAt host queue cs m (openBatch queue m later results w).1 := by
  cases later with
  | nil =>
      -- no child is left: the results of all children, in child order
      rw [openBatch_nil]
      have all : cs.take results.length = cs :=
        List.take_of_length_le (List.drop_eq_nil_iff.mp rest.symm)
      exact ⟨results, rfl, all ▸ done⟩
  | cons c later =>
      rw [openBatch_cons]
      refine ⟨rfl, rfl, ?_⟩
      exact {
        finished := done
        aligned := aligned (List.cons_ne_nil c later)
        current := by
          rw [rest, List.map_map]
          simp [Function.comp_def]
        waiting := by rw [rest, List.drop_drop]
        running := by
          intro p member
          obtain ⟨c', _, rfl⟩ := List.mem_map.mp member
          exact Relation.ReflTransGen.refl }

-- A batch whose children all ended well: the next batch starts after its children, whole
-- unless it reached the last child.
theorem scheduled_next {slots : List (NodeRef × Task)} {later : List NodeRef}
    {results values : List Json} (scheduled : Scheduled host cs m slots later results)
    (gathered : gather slots = some (.ok values)) :
    List.Forall₂ (EndsWell host) (cs.take (results ++ values).length) (results ++ values) ∧
      later = cs.drop (results ++ values).length ∧
      (later ≠ [] → m ∣ (results ++ values).length) := by
  have batchWell : List.Forall₂ (EndsWell host) ((cs.drop results.length).take m) values := by
    rw [← scheduled.current]
    have ended : List.Forall₂ (fun c o => ChildRun host (.begin c []) (.settled o))
        (slots.map Prod.fst) (values.map Except.ok) :=
      batch_ended host scheduled.running
        (List.forall₂_map_right_iff.mpr (gather_ok slots values gathered))
    have unmapped := List.forall₂_map_right_iff.mp ended
    exact unmapped
  have lengthValues := batchWell.length_eq
  have bounded := scheduled.finished.length_eq
  simp only [List.length_take, List.length_drop] at lengthValues bounded
  have wholeTake : (cs.drop results.length).take values.length =
      (cs.drop results.length).take m := by
    simp only [List.take_eq_take_iff, List.length_drop]
    omega
  refine ⟨?_, ?_, ?_⟩
  · rw [List.length_append, List.take_add, wholeTake]
    exact List.rel_append scheduled.finished batchWell
  · rw [scheduled.waiting, List.length_append]
    by_cases whole : values.length = m
    · rw [whole]
    · rw [List.drop_eq_nil_of_le (by omega), List.drop_eq_nil_of_le (by omega)]
  · intro more
    rw [scheduled.waiting] at more
    have short : results.length + m < cs.length := by
      by_contra long
      exact more (List.drop_eq_nil_of_le (by omega))
    rw [List.length_append, show values.length = m by omega]
    exact Nat.dvd_add scheduled.aligned (Nat.dvd_refl m)

theorem ends_failed {slots : List (NodeRef × Task)} {later : List NodeRef} {results : List Json}
    {e : WorkError} (scheduled : Scheduled host cs m slots later results)
    (gathered : gather slots = some (.error e)) : Ends host cs m (.error e) := by
  obtain ⟨outcomes, ended, first⟩ := gather_error slots e gathered
  refine ⟨results.length, results, outcomes, scheduled.aligned, scheduled.finished, ?_, first⟩
  rw [← scheduled.current]
  exact batch_ended host scheduled.running ended

-- One poll keeps a queue's run where it can be: the batch's children move on, and a batch
-- whose children all ended either ends the run or starts the next batch in the same poll.
theorem queueAt_poll (queue : NodeRef) (depth : Nat) (t : Task) (w : World)
    (along : QueueAt host queue cs m t) : QueueAt host queue cs m (poll host depth t w).1 := by
  induction depth generalizing t w with
  | zero => exact along
  | succ fuel ih =>
      cases t with
      | settled o =>
          rw [poll_settled]
          exact along
      | batch q limit slots later results next =>
          obtain ⟨rfl, same, scheduled⟩ := along
          subst limit
          rcases polled : pollSlots (poll host fuel) q slots next w with ⟨⟨slots', next'⟩, w₁⟩
          have advanced := pollSlots_advances host (poll host fuel)
            (fun t v => Relation.ReflTransGen.single ⟨fuel, v, _, rfl⟩) q slots next w
          rw [polled] at advanced
          have scheduled' := scheduled_advance host cs m scheduled advanced
          simp only [poll, bind_apply, polled]
          rcases gathered : gather slots' with _ | (e | values)
          · exact ⟨rfl, rfl, scheduled'⟩
          · exact ends_failed host cs m scheduled' gathered
          · obtain ⟨done, rest, aligned⟩ := scheduled_next host cs m scheduled' gathered
            exact ih _ _ (queueAt_openBatch host cs m q later (results ++ values) w₁ done rest aligned)
      | _ => exact along.elim

end Schedule

-- The scheduler starts with the queue's children other than its hooks, as they are, and its
-- limit as it is.
theorem queueAt_startQueue (host : Host) (queue : NodeRef) (w : World) :
    QueueAt host queue ((w.children queue).filter fun c => !w.isHook queue c)
      ((w.maxConcurrency queue).getD 1) (startQueue queue w).1 := by
  simp only [startQueue, bind_apply, get_apply]
  exact queueAt_openBatch host _ _ queue _ [] w List.Forall₂.nil rfl (fun _ => Nat.dvd_zero _)

-- Two jobs of the builtin host that echo their arguments, in a queue that runs one at a time.
def echoQueueWorld : World where
  nodes := #[
    { id := "a", body := .job ⟨"echo", .null⟩, parent := some ⟨2⟩ },
    { id := "b", body := .job ⟨"echo", .null⟩, parent := some ⟨2⟩ },
    { id := "q", body := .queue { limit := 1, stats := { total := 2 } },
      children := [⟨0⟩, ⟨1⟩] }]

-- A queue that runs one child at a time: the first child resets the tree from its root, so it
-- is no longer in progress when it ends and fails; the second waits, skipped.
def resetSiblingWorld : World where
  nodes := #[
    { id := "a", body := .job ⟨"reset_root", .null⟩, parent := some ⟨2⟩ },
    { id := "b", body := .job ⟨"echo", .null⟩, parent := some ⟨2⟩, state := .skipped },
    { id := "q", body := .queue { limit := 1, stats := { total := 2 } },
      children := [⟨0⟩, ⟨1⟩] }]

end TaskTree.Run
