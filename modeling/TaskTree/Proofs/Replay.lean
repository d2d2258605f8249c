import TaskTree.Proofs.Agree
import TaskTree.Proofs.Subtree
import TaskTree.Proofs.Runs

set_option autoImplicit false

namespace TaskTree

namespace NodeBody

theorem eq_job_of_uncounted {b : NodeBody} {f : HostFn} (same : b.uncounted = .job f) :
    b = .job f := by
  cases b with
  | job g => exact same
  | bare => cases same
  | queue q => cases same
  | loop q l => cases same
  | placeholder g r => cases same

theorem eq_bare_of_uncounted {b : NodeBody} (same : b.uncounted = .bare) : b = .bare := by
  cases b with
  | bare => rfl
  | job g => cases same
  | queue q => cases same
  | loop q l => cases same
  | placeholder g r => cases same

theorem exists_queue_of_uncounted {b : NodeBody} {q : QueueState} (same : b.uncounted = .queue q) :
    ∃ q', b = .queue q' := by
  cases b with
  | queue q' => exact ⟨q', rfl⟩
  | bare => cases same
  | job g => cases same
  | loop p l => cases same
  | placeholder g r => cases same

end NodeBody

namespace Run

open World

-- A job function that changes nothing a run reads, and whose outcome depends only on what a
-- run reads.
structure PureJob (host : Host) (f : HostFn) : Prop where
  keeps : ∀ inv w, Agree w (host.runJob f inv w).1
  reads : ∀ inv w w', Agree w w' → (host.runJob f inv w').2 = (host.runJob f inv w).2

-- Nodes of a world that runs can repeat: the children of each are among them, none is a loop
-- or a placeholder, every hook of each is linked beneath it and has arguments, and every job
-- among them runs a pure function.
structure Repeatable (host : Host) (T : NodeRef → Prop) (w : World) : Prop where
  closed : ∀ m, T m → ∀ c ∈ w.children m, T c
  simple : ∀ m, T m → w.kind m ≠ .loop ∧ w.kind m ≠ .placeholder
  hooked : ∀ m, T m → ∀ h ∈ w.hooks m, w.hasChild m h = true ∧ w.hasArgs h = true
  pure : ∀ m, T m → ∀ f, (w.node m).body = .job f → PureJob host f
  args : host.ArgsKeep World.Agree

-- Work in flight on nodes of `T` only.
inductive Within (T : NodeRef → Prop) : Task → Prop
  | begin {n : NodeRef} {args : List Json} : T n → Within T (.begin n args)
  | wait {polls : Nat} {o : Outcome} : Within T (.wait polls o)
  | batch {queue : NodeRef} {limit : Nat} {slots : List (NodeRef × Task)}
      {later : List NodeRef} {results : List Json} {next : Nat} :
      (∀ s ∈ slots, Within T s.2) → (∀ c ∈ later, T c) →
      Within T (.batch queue limit slots later results next)
  | perform {n : NodeRef} {inner : Task} : T n → Within T inner → Within T (.perform n inner)
  | success {n : NodeRef} {inner : Task} : T n → Within T inner → Within T (.success n inner)
  | recovery {n : NodeRef} {inner : Task} : T n → Within T inner → Within T (.recovery n inner)
  | closing {n : NodeRef} {o : Outcome} {inner : Task} :
      T n → Within T inner → Within T (.closing n o inner)
  | settled {o : Outcome} : Within T (.settled o)

-- One step from `u`, and the same step from an agreeing world: the first changes only states
-- of `T`, its result is good, and the second gives the same result and an agreeing world.
structure Steps {α : Type} (T : NodeRef → Prop) (good : α → Prop) (u : World)
    (r r' : α × World) : Prop where
  frame : Frame T u r.2
  good : good r.1
  same : r'.1 = r.1
  agree : Agree r.2 r'.2

variable {host : Host} {T : NodeRef → Prop}

theorem mem_hooks_iff {w : World} {n h : NodeRef} :
    h ∈ w.hooks n ↔ (w.node n).settings.onSuccess = some h ∨ (w.node n).settings.onFail = some h ∨
      (w.node n).settings.always = some h := by
  simp [World.hooks, eq_comm]

theorem takes_agree {w w' : World} (agree : Agree w w') (n : NodeRef) (e : WorkError) :
    takes w' n e = takes w n e := by
  simp only [takes, agree.settings n]

theorem Repeatable.shaped {w w' : World} (rep : Repeatable host T w) (s : Shaped w w') :
    Repeatable host T w' where
  closed m inside c child := by
    rw [s.children m] at child
    exact rep.closed m inside c child
  simple m inside := by
    rw [s.kind m]
    exact rep.simple m inside
  hooked m inside h hook := by
    rw [s.hooks m] at hook
    rw [s.hasChild, s.hasArgs]
    exact rep.hooked m inside h hook
  pure m inside f body := by
    have same : (w.node m).body.uncounted = .job f := by
      rw [← s.body m, body]
      rfl
    exact rep.pure m inside f (NodeBody.eq_job_of_uncounted same)
  args := rep.args

namespace Steps

variable {α β : Type} {good : α → Prop} {u v v' : World}

theorem of_agree {u' : World} (agree : Agree u u') {a : α} (keeps : Agree u v) (keeps' : Agree u' v')
    (holds : good a) : Steps T good u (a, v) (a, v') where
  frame := Frame.of_agree keeps
  good := holds
  same := rfl
  agree := keeps.symm.trans (agree.trans keeps')

theorem pure_ {u' : World} (agree : Agree u u') {a : α} (holds : good a) :
    Steps T good u (a, u) (a, u') :=
  of_agree agree (Agree.refl u) (Agree.refl u') holds

-- A step followed by another from where it left both worlds.
theorem next {good' : β → Prop} {r₁ r₁' : α × World} {r r' : β × World}
    (first : Steps T good u r₁ r₁') (second : Steps T good' r₁.2 r r') : Steps T good' u r r' where
  frame := first.frame.trans second.frame
  good := second.good
  same := second.same
  agree := second.agree

end Steps

section Steps

variable {u u' : World}

theorem setStateWith_steps (agree : Agree u u') {n : NodeRef} (inside : T n) (target : ExecState)
    (args : List Json) :
    Steps T (fun _ => True) u (change (·.setStateWith n target args) u)
      (change (·.setStateWith n target args) u') := by
  obtain ⟨same, agreed⟩ := agree.setStateWith n target args
  exact ⟨Frame.setStateWith u inside target args, trivial, same, agreed⟩

theorem forIn_steps {β : Type} (l : List NodeRef) (f : NodeRef → β → StateM World (ForInStep β))
    (step : ∀ m ∈ l, ∀ b v v', Agree v v' → Repeatable host T v →
      Steps T (fun _ => True) v (f m b v) (f m b v')) :
    ∀ (b : β) (u u' : World), Agree u u' → Repeatable host T u →
      Steps T (fun _ => True) u (forIn l b f u) (forIn l b f u') := by
  induction l with
  | nil =>
    intro b u u' agree _
    exact Steps.pure_ agree trivial
  | cons m rest ih =>
    intro b u u' agree rep
    have first := step m List.mem_cons_self b u u' agree rep
    simp only [List.forIn_cons, bind_apply]
    rw [first.same]
    have rep' := rep.shaped first.frame.toShaped
    -- the loop stops here or goes on with the rest of the nodes
    cases (f m b u).1 with
    | done b' => exact first.next (Steps.pure_ first.agree trivial)
    | yield b' =>
      exact first.next (ih (fun m' member => step m' (List.mem_cons_of_mem m member)) b' _ _
        first.agree rep')

-- A loop whose every round changes nothing a run reads.
theorem forIn_keeps {β : Type} (l : List NodeRef) (f : NodeRef → β → StateM World (ForInStep β))
    (keeps : ∀ m ∈ l, ∀ b v, Agree v (f m b v).2) : ∀ (b : β) (u : World), Agree u (forIn l b f u).2 := by
  induction l with
  | nil => exact fun _ u => Agree.refl u
  | cons m rest ih =>
    intro b u
    simp only [List.forIn_cons, bind_apply]
    have first := keeps m List.mem_cons_self b u
    cases (f m b u).1 with
    | done b' => exact first
    | yield b' =>
      exact first.trans (ih (fun m' member => keeps m' (List.mem_cons_of_mem m member)) b' _)

theorem skip_steps (agree : Agree u u') (rep : Repeatable host T u) {n : NodeRef} (inside : T n) :
    Steps T (fun _ => True) u (skip n u) (skip n u') := by
  have walked : ∀ m ∈ u.traverse n, T m :=
    preorder_subset rep.closed _ [n] (fun t member => List.mem_singleton.mp member ▸ inside)
  simp only [skip, bind_apply, get_apply, pure_apply, Prod.eta]
  rw [agree.traverse n]
  refine forIn_steps (u.traverse n) _ (fun m member b v v' agreeing _ => ?_) _ u u' agree rep
  -- one node of the walk: its move to skipped, which may stop the walk
  have moved := setStateWith_steps agreeing (walked m member) ExecState.skipped []
  simp only [World.setState, bind_apply]
  rw [moved.same]
  cases (change (·.setStateWith m ExecState.skipped []) v).1 with
  | ok => exact moved.next (Steps.pure_ moved.agree trivial)
  | error e => exact moved.next (Steps.pure_ moved.agree trivial)

theorem settleJob_steps (agree : Agree u u') (queue child : NodeRef) :
    Steps T (fun _ => True) u (settleJob queue child u) (settleJob queue child u') := by
  simp only [settleJob, bind_apply, modify_apply]
  exact Steps.of_agree agree ((Agree.modifyStats u queue _).trans (Agree.emit _ queue _ _))
    ((Agree.modifyStats u' queue _).trans (Agree.emit _ queue _ _)) trivial

theorem openBatch_steps (agree : Agree u u') (queue : NodeRef)
    (limit : Nat) {later : List NodeRef} (waiting : ∀ c ∈ later, T c) (results : List Json) :
    Steps T (Within T) u (openBatch queue limit later results u)
      (openBatch queue limit later results u') := by
  unfold openBatch
  by_cases empty : later.isEmpty = true
  · simp only [empty, ↓reduceIte, pure_apply]
    exact Steps.pure_ agree .settled
  · simp only [empty, Bool.false_eq_true, ↓reduceIte, bind_apply, pure_apply]
    -- each child of the batch is counted and announced, which a run does not read
    refine Steps.of_agree agree (forIn_keeps _ _ (fun c _ b v => ?_) _ u)
      (forIn_keeps _ _ (fun c _ b v => ?_) _ u') (.batch (fun s member => ?_)
        (fun c member => waiting c (List.mem_of_mem_drop member)))
    · simp only [bind_apply, modify_apply, pure_apply]
      exact (Agree.modifyStats v queue _).trans (Agree.emit _ queue _ _)
    · simp only [bind_apply, modify_apply, pure_apply]
      exact (Agree.modifyStats v queue _).trans (Agree.emit _ queue _ _)
    · obtain ⟨c, taken, rfl⟩ := List.mem_map.mp member
      exact .begin (waiting c (List.mem_of_mem_take taken))

section Slots

variable (step : Task → StateM World Task)
  (steps : ∀ t v v', Within T t → Agree v v' → Repeatable host T v →
    Steps T (Within T) v (step t v) (step t v'))
include steps

theorem pollSlot_steps (agree : Agree u u') (rep : Repeatable host T u) (queue : NodeRef)
    (slot : NodeRef × Task) (within : Within T slot.2) :
    Steps T (fun s => Within T s.2) u (pollSlot step queue slot u) (pollSlot step queue slot u') := by
  obtain ⟨child, t⟩ := slot
  by_cases ended : t.isSettled = true
  · simp only [pollSlot, ended, ↓reduceIte, pure_apply]
    exact Steps.pure_ agree within
  · simp only [pollSlot, ended, Bool.false_eq_true, ↓reduceIte, bind_apply]
    have polled := steps t u u' within agree rep
    rw [polled.same]
    -- a child that ends is counted as complete
    by_cases now : (step t u).1.isSettled = true
    · simp only [now, ↓reduceIte, bind_apply, pure_apply]
      have counted : Steps T (fun _ => True) _ _ _ := settleJob_steps polled.agree queue child
      exact polled.next (counted.next (Steps.pure_ counted.agree polled.good))
    · simp only [now, Bool.false_eq_true, ↓reduceIte, pure_apply]
      exact polled.next (Steps.pure_ polled.agree polled.good)

theorem mapM_pollSlot_steps (queue : NodeRef) :
    ∀ (slots : List (NodeRef × Task)) (u u' : World), (∀ s ∈ slots, Within T s.2) →
      Agree u u' → Repeatable host T u →
      Steps T (fun r => ∀ s ∈ r, Within T s.2) u (slots.mapM (pollSlot step queue) u)
        (slots.mapM (pollSlot step queue) u')
  | [], u, u', _, agree, _ => Steps.pure_ agree (fun _ member => absurd member List.not_mem_nil)
  | slot :: rest, u, u', within, agree, rep => by
    simp only [List.mapM_cons, bind_apply, pure_apply]
    have first := pollSlot_steps step steps agree rep queue slot (within slot List.mem_cons_self)
    rw [first.same]
    have others := mapM_pollSlot_steps queue rest _ _
      (fun s member => within s (List.mem_cons_of_mem slot member)) first.agree
      (rep.shaped first.frame.toShaped)
    rw [others.same]
    refine first.next (others.next (Steps.pure_ others.agree fun s member => ?_))
    rcases List.mem_cons.mp member with rfl | later
    · exact first.good
    · exact others.good s later

theorem pollRing_steps (queue : NodeRef) :
    ∀ (budget : Nat) (slots : List (NodeRef × Task)) (next waiting : Nat) (u u' : World),
      (∀ s ∈ slots, Within T s.2) → Agree u u' → Repeatable host T u →
      Steps T (fun r => ∀ s ∈ r.1, Within T s.2) u (pollRing step queue budget slots next waiting u)
        (pollRing step queue budget slots next waiting u')
  | 0, slots, next, _, u, u', within, agree, _ => by
    simp only [pollRing, pure_apply]
    exact Steps.pure_ agree within
  | budget + 1, slots, next, waiting, u, u', within, agree, rep => by
    simp only [pollRing]
    rcases found : nextUnsettled slots next with _ | i
    · simp only [pure_apply]
      exact Steps.pure_ agree within
    · rcases current : slots[i]? with _ | ⟨child, t⟩
      · simp only [current, pure_apply]
        exact Steps.pure_ agree within
      · simp only [current, bind_apply]
        have polled := steps t u u' (within _ (List.mem_of_getElem? current)) agree rep
        rw [polled.same]
        have stillWithin : ∀ s ∈ slots.set i (child, (step t u).1), Within T s.2 := by
          intro s member
          rcases List.mem_or_eq_of_mem_set member with old | new
          · exact within s old
          · rw [new]
            exact polled.good
        have rep' := rep.shaped polled.frame.toShaped
        -- the child ends and the ring goes on, or the ring goes on or gives way
        split
        · simp only [bind_apply]
          have counted : Steps T (fun _ => True) _ _ _ := settleJob_steps polled.agree queue child
          exact polled.next (counted.next (pollRing_steps queue budget _ _ _ _ _ stillWithin
            counted.agree (rep'.shaped counted.frame.toShaped)))
        · split
          · simp only [pure_apply]
            exact polled.next (Steps.pure_ polled.agree stillWithin)
          · exact polled.next (pollRing_steps queue budget _ _ _ _ _ stillWithin polled.agree rep')

theorem pollSlots_steps (agree : Agree u u') (rep : Repeatable host T u) (queue : NodeRef)
    (slots : List (NodeRef × Task)) (next : Nat) (within : ∀ s ∈ slots, Within T s.2) :
    Steps T (fun r => ∀ s ∈ r.1, Within T s.2) u (pollSlots step queue slots next u)
      (pollSlots step queue slots next u') := by
  unfold pollSlots
  split
  · simp only [bind_apply, pure_apply]
    have polled := mapM_pollSlot_steps step steps queue slots u u' within agree rep
    rw [polled.same]
    exact polled.next (Steps.pure_ polled.agree polled.good)
  · exact pollRing_steps step steps queue _ slots next 0 u u' within agree rep

end Slots

-- A hook already linked beneath its node, with its arguments: the hook's run is started as is.
theorem hook_steps (agree : Agree u u') (rep : Repeatable host T u) {n h : NodeRef} (inside : T n)
    (isHook : h ∈ u.hooks n) (defaults : List Json) :
    Steps T (Within T) u (hook n h defaults u) (hook n h defaults u') := by
  obtain ⟨linked, given⟩ := rep.hooked n inside h isHook
  have linked' : u'.hasChild n h = true := by
    rw [agree.hasChild]
    exact linked
  have given' : u'.hasArgs h = true := by
    rw [agree.hasArgs]
    exact given
  simp only [hook, bind_apply, get_apply, linked, linked', given, given', Bool.not_true,
    Bool.false_eq_true, ↓reduceIte, pure_apply]
  have child : h ∈ u.children n := List.contains_iff_mem.mp linked
  exact Steps.pure_ agree (.begin (rep.closed n inside h child))

-- A hook's run started in place of the node's next step, inside the work that waits on it.
theorem hook_then_steps (agree : Agree u u') (rep : Repeatable host T u) {n h : NodeRef}
    (inside : T n) (isHook : h ∈ u.hooks n) (defaults : List Json) {wrap : Task → Task}
    (wrapped : ∀ t, Within T t → Within T (wrap t)) :
    Steps T (Within T) u (wrap (hook n h defaults u).1, (hook n h defaults u).2)
      (wrap (hook n h defaults u').1, (hook n h defaults u').2) := by
  have ran := hook_steps agree rep inside isHook defaults
  rw [ran.same]
  exact ran.next (Steps.pure_ ran.agree (wrapped _ ran.good))

theorem finish_steps (agree : Agree u u') (rep : Repeatable host T u) {n : NodeRef} (inside : T n)
    (outcome : Outcome) : Steps T (Within T) u (finish n outcome u) (finish n outcome u') := by
  simp only [finish, bind_apply, get_apply, agree.settings n, agree.descriptor n]
  rcases always : (u.node n).settings.always with _ | h
  · simp only [pure_apply]
    exact Steps.pure_ agree .settled
  · simp only [bind_apply, pure_apply]
    exact hook_then_steps agree rep inside (mem_hooks_iff.mpr (.inr (.inr always))) _ fun _ => .closing inside

theorem recover_steps (agree : Agree u u') (rep : Repeatable host T u) {n : NodeRef} (inside : T n)
    (e : WorkError) : Steps T (Within T) u (recover n e u) (recover n e u') := by
  have moved := setStateWith_steps agree inside .failed [e.toJson]
  simp only [recover, bind_apply]
  rw [moved.same]
  set v := (change (·.setStateWith n .failed [e.toJson]) u).2
  set v' := (change (·.setStateWith n .failed [e.toJson]) u').2
  have agree₁ : Agree v v' := moved.agree
  have rep₁ : Repeatable host T v := rep.shaped moved.frame.toShaped
  rcases result : (change (·.setStateWith n .failed [e.toJson]) u).1 with refused | ⟨⟩
  · exact moved.next (finish_steps agree₁ rep₁ inside _)
  · -- the failure hook takes the error when its condition matches the message
    simp only [bind_apply, get_apply, agree₁.settings n, agree₁.descriptor n]
    rcases onFail : (v.node n).settings.onFail with _ | h
    · exact moved.next (finish_steps agree₁ rep₁ inside _)
    · by_cases taken : takes v n e = true
      · have taken' : takes v' n e = true := by
          rw [takes_agree agree₁]
          exact taken
        simp only [taken, taken', ↓reduceIte, bind_apply, pure_apply]
        exact moved.next (hook_then_steps agree₁ rep₁ inside (mem_hooks_iff.mpr (.inr (.inl onFail))) _
          fun _ => .recovery inside)
      · have taken' : ¬takes v' n e = true := by
          rw [takes_agree agree₁]
          exact taken
        simp only [taken, taken', Bool.false_eq_true, ↓reduceIte]
        exact moved.next (finish_steps agree₁ rep₁ inside _)

theorem markSuccess_steps (agree : Agree u u') (rep : Repeatable host T u) {n : NodeRef}
    (inside : T n) (r : Json) : Steps T (Within T) u (markSuccess n r u) (markSuccess n r u') := by
  have moved := setStateWith_steps agree inside .successful [r]
  have rep₁ := rep.shaped moved.frame.toShaped
  simp only [markSuccess, bind_apply]
  rw [moved.same]
  rcases result : (change (·.setStateWith n .successful [r]) u).1 with refused | ⟨⟩
  · exact moved.next (recover_steps moved.agree rep₁ inside refused)
  · exact moved.next (finish_steps moved.agree rep₁ inside _)

theorem succeed_steps (agree : Agree u u') (rep : Repeatable host T u) {n : NodeRef} (inside : T n)
    (r : Json) : Steps T (Within T) u (succeed n r u) (succeed n r u') := by
  simp only [succeed, bind_apply, get_apply, agree.settings n, agree.descriptor n]
  rcases onSuccess : (u.node n).settings.onSuccess with _ | h
  · exact markSuccess_steps agree rep inside r
  · simp only [bind_apply, pure_apply]
    exact hook_then_steps agree rep inside (mem_hooks_iff.mpr (.inl onSuccess)) _ fun _ => .success inside

theorem afterWork_steps (agree : Agree u u') (rep : Repeatable host T u) {n : NodeRef}
    (inside : T n) (worked : Outcome) :
    Steps T (Within T) u (afterWork n worked u) (afterWork n worked u') := by
  simp only [afterWork, bind_apply, get_apply, agree.state n, agree.id n]
  by_cases cancelled : u.state n = .cancelled
  · simp only [cancelled, ↓reduceIte, pure_apply]
    exact Steps.pure_ agree .settled
  · simp only [cancelled, ↓reduceIte]
    cases worked with
    | ok r => exact succeed_steps agree rep inside r
    | error e => exact recover_steps agree rep inside _

theorem startQueue_steps (agree : Agree u u') (rep : Repeatable host T u) {n : NodeRef}
    (inside : T n) : Steps T (Within T) u (startQueue n u) (startQueue n u') := by
  simp only [startQueue, bind_apply, get_apply, agree.children n, agree.isHook,
    agree.maxConcurrency n]
  exact openBatch_steps agree n _ (fun c member => rep.closed n inside c (List.mem_filter.mp member).1) []

theorem startWork_steps (agree : Agree u u') (rep : Repeatable host T u) {n : NodeRef}
    (inside : T n) (callArgs args : List Json) :
    Steps T (Within T) u (startWork host n callArgs args u) (startWork host n callArgs args u') := by
  simp only [startWork, bind_apply, get_apply]
  have body := agree.body n
  have simple := rep.simple n inside
  -- the other world has the same kind of body, whatever its counts
  cases found : (u.node n).body with
  | bare =>
    rw [found] at body
    simp only [NodeBody.eq_bare_of_uncounted body, pure_apply]
    exact Steps.pure_ agree .settled
  | job f =>
    rw [found] at body
    have job := rep.pure n inside f found
    simp only [NodeBody.eq_job_of_uncounted body, bind_apply, change_apply,
      job.reads ⟨n, args⟩ u u' agree]
    rcases result : (host.runJob f ⟨n, args⟩ u).2 with o | ⟨k, o⟩
    · exact Steps.of_agree agree (job.keeps _ u) (job.keeps _ u') .settled
    · exact Steps.of_agree agree (job.keeps _ u) (job.keeps _ u') .wait
  | queue q =>
    rw [found] at body
    obtain ⟨q', same⟩ := NodeBody.exists_queue_of_uncounted body
    simp only [same]
    exact startQueue_steps agree rep inside
  | loop q l =>
    exact absurd (by simp [World.kind, found, NodeBody.kind]) simple.1
  | placeholder f r =>
    exact absurd (by simp [World.kind, found, NodeBody.kind]) simple.2

theorem begin_steps (agree : Agree u u') (rep : Repeatable host T u) {n : NodeRef} (inside : T n)
    (callArgs : List Json) : Steps T (Within T) u (begin host n callArgs u) (begin host n callArgs u') := by
  simp only [begin, bind_apply, get_apply, agree.settings n, agree.validate n,
    agree.resolveArgs host (fun f item => rep.args f item u u' agree) n]
  by_cases skipped : (u.node n).settings.skipIf = true
  · have skipped' : (u'.node n).settings.skipIf = true := by
      rw [agree.settings n]
      exact skipped
    simp only [skipped, skipped', ↓reduceIte, bind_apply, pure_apply]
    have ran := skip_steps agree rep inside
    rw [ran.same]
    exact ran.next (Steps.pure_ ran.agree .settled)
  · have skipped' : ¬(u'.node n).settings.skipIf = true := by
      rw [agree.settings n]
      exact skipped
    simp only [skipped, skipped', Bool.false_eq_true, ↓reduceIte]
    rcases valid : u.validate n with e | ⟨⟩
    · simp only [pure_apply]
      exact Steps.pure_ agree .settled
    · have moved := setStateWith_steps agree inside .inProgress []
      have rep₁ := rep.shaped moved.frame.toShaped
      simp only [World.setState, bind_apply]
      rw [moved.same]
      rcases result : (change (·.setStateWith n .inProgress []) u).1 with refused | ⟨⟩
      · simp only [pure_apply]
        exact moved.next (Steps.pure_ moved.agree .settled)
      · simp only [bind_apply, pure_apply]
        have started := startWork_steps moved.agree rep₁ inside callArgs
          (u.resolveArgs host n callArgs none)
        rw [started.same]
        exact moved.next (started.next (Steps.pure_ started.agree (.perform inside started.good)))

section Poll

variable {depth : Nat}
  (ih : ∀ t v v', Within T t → Agree v v' → Repeatable host T v →
    Steps T (Within T) v (poll host depth t v) (poll host depth t v'))
include ih

-- Work that waits on inner work: the inner poll, then what follows its outcome polled at once.
theorem wrap_steps {wrap : Task → Task} {next : Outcome → StateM World Task}
    (wraps : Wraps host wrap next) (wrapped : ∀ t, Within T t → Within T (wrap t))
    (nexts : ∀ o v v', Agree v v' → Repeatable host T v →
      Steps T (Within T) v (next o v) (next o v'))
    (agree : Agree u u') (rep : Repeatable host T u) {inner : Task} (within : Within T inner) :
    Steps T (Within T) u (poll host (depth + 1) (wrap inner) u)
      (poll host (depth + 1) (wrap inner) u') := by
  have polled := ih inner u u' within agree rep
  rcases result : poll host depth inner u with ⟨t₁, w₁⟩
  rw [result] at polled
  have same : (poll host depth inner u').1 = t₁ := polled.same
  have result' : poll host depth inner u' = (t₁, (poll host depth inner u').2) := by
    rw [← same]
    exact (Prod.eta _).symm
  have rep₁ : Repeatable host T w₁ := rep.shaped polled.frame.toShaped
  by_cases done : ∃ o, t₁ = .settled o
  · obtain ⟨o, rfl⟩ := done
    rw [wraps.settles depth inner u o w₁ result, wraps.settles depth inner u' o _ result']
    have following := nexts o w₁ _ polled.agree rep₁
    rw [following.same]
    exact polled.next (following.next (ih _ _ _ following.good following.agree
      (rep₁.shaped following.frame.toShaped)))
  · have waiting : ∀ o, t₁ ≠ .settled o := fun o same => done ⟨o, same⟩
    rw [wraps.waits depth inner u t₁ w₁ result waiting,
      wraps.waits depth inner u' t₁ _ result' waiting]
    exact ⟨polled.frame, wrapped t₁ polled.good, rfl, polled.agree⟩

-- A batch: its children are polled, then the batch ends, waits, or opens the next children.
theorem batch_steps (agree : Agree u u') (rep : Repeatable host T u) {queue : NodeRef}
    {limit : Nat} {slots : List (NodeRef × Task)} {later : List NodeRef} {results : List Json}
    {next : Nat} (within : ∀ s ∈ slots, Within T s.2) (waiting : ∀ c ∈ later, T c) :
    Steps T (Within T) u (poll host (depth + 1) (.batch queue limit slots later results next) u)
      (poll host (depth + 1) (.batch queue limit slots later results next) u') := by
  simp only [poll, bind_apply]
  have polled := pollSlots_steps (poll host depth) ih agree rep queue slots next within
  rw [polled.same]
  have rep₁ := rep.shaped polled.frame.toShaped
  rcases result : (pollSlots (poll host depth) queue slots next u).1 with ⟨slots₁, next₁⟩
  have within₁ : ∀ s ∈ slots₁, Within T s.2 := by
    have good := polled.good
    rw [result] at good
    exact good
  simp only []
  rcases gathered : gather slots₁ with _ | e | values
  · simp only [pure_apply]
    exact polled.next (Steps.pure_ polled.agree (.batch within₁ waiting))
  · simp only [pure_apply]
    exact polled.next (Steps.pure_ polled.agree .settled)
  · simp only [bind_apply]
    have opened := openBatch_steps polled.agree queue limit waiting (results ++ values)
    rw [opened.same]
    exact polled.next (opened.next (ih _ _ _ opened.good opened.agree
      (rep₁.shaped opened.frame.toShaped)))

end Poll

theorem poll_steps : ∀ (depth : Nat) (t : Task) (u u' : World), Within T t → Agree u u' →
    Repeatable host T u → Steps T (Within T) u (poll host depth t u) (poll host depth t u')
  | 0, _, _, _, within, agree, _ => Steps.pure_ agree within
  | depth + 1, t, u, u', within, agree, rep => by
    have ih := poll_steps depth
    -- one case for each kind of work in flight; the four wrappers go through `wrap_steps`
    cases within with
    | settled => exact Steps.pure_ agree .settled
    | wait =>
      rename_i polls o
      cases polls with
      | zero => exact Steps.pure_ agree .settled
      | succ polls => exact Steps.pure_ agree .wait
    | begin inside =>
      rename_i n args
      have begun : Steps T (Within T) u (begin host n args u) (begin host n args u') :=
        begin_steps agree rep inside args
      show Steps T (Within T) u (poll host depth (begin host n args u).1 (begin host n args u).2)
        (poll host depth (begin host n args u').1 (begin host n args u').2)
      rw [begun.same]
      exact begun.next (ih _ _ _ begun.good begun.agree (rep.shaped begun.frame.toShaped))
    | perform inside inner =>
      exact wrap_steps ih (wraps_perform host _) (fun _ t => .perform inside t)
        (fun o _ _ agreeing rep' => afterWork_steps agreeing rep' inside o) agree rep inner
    | success inside inner =>
      refine wrap_steps ih (wraps_success host _) (fun _ t => .success inside t)
        (fun o _ _ agreeing rep' => ?_) agree rep inner
      cases o with
      | ok r => exact markSuccess_steps agreeing rep' inside r
      | error e => exact recover_steps agreeing rep' inside e
    | recovery inside inner =>
      exact wrap_steps ih (wraps_recovery host _) (fun _ t => .recovery inside t)
        (fun o _ _ agreeing rep' => finish_steps agreeing rep' inside o) agree rep inner
    | closing inside inner =>
      exact wrap_steps ih (wraps_closing host _ _) (fun _ t => .closing inside t)
        (fun _ _ _ agreeing _ => Steps.pure_ agreeing .settled) agree rep inner
    | batch within waiting => exact batch_steps ih agree rep within waiting

theorem drive_steps : ∀ (rounds : Nat) (t : Task) (u u' : World), Within T t → Agree u u' →
    Repeatable host T u →
    Steps T (fun _ => True) u (drive host rounds t u) (drive host rounds t u')
  | 0, _, _, _, _, agree, _ => Steps.pure_ agree trivial
  | rounds + 1, t, u, u', within, agree, rep => by
    simp only [drive, bind_apply]
    have polled := poll_steps pollDepth t u u' within agree rep
    rw [polled.same]
    have rep₁ := rep.shaped polled.frame.toShaped
    have within₁ := polled.good
    -- the runner returns once the work has settled, and polls again otherwise
    cases result : (poll host pollDepth t u).1 with
    | settled o => exact polled.next (Steps.pure_ polled.agree trivial)
    | _ =>
      rw [result] at within₁
      exact polled.next (drive_steps rounds _ _ _ within₁ polled.agree rep₁)

-- A whole process call of a node of `T` changes only states of `T`, besides what runs do not
-- read, and on an agreeing world it returns the same outcome and leaves an agreeing world.
theorem process_steps (agree : Agree u u') (rep : Repeatable host T u) {n : NodeRef}
    (inside : T n) (args : List Json) :
    Steps T (fun _ => True) u (process host n args u) (process host n args u') :=
  drive_steps pollLimit (.begin n args) u u' (.begin inside) agree rep

end Steps

end Run

end TaskTree
