import TaskTree.Proofs.Skip

set_option autoImplicit false

namespace TaskTree

namespace WorkError

def RefusedLink (e : WorkError) : Prop :=
  e = .of .beneathItself ∨ e = .of .hasParent

theorem RefusedLink.kind {e : WorkError} (refused : e.RefusedLink) : e.kind = .typeKind := by
  rcases refused with rfl | rfl <;> rfl

end WorkError

namespace World

theorem attach_error {w : World} {p c : NodeRef} {first : Bool} {e : WorkError}
    (refused : (w.attach p c first).2 = .error e) : e.RefusedLink := by
  unfold attach at refused
  split at refused
  · cases refused
    exact .inl rfl
  · split at refused
    · cases refused
      exact .inr rfl
    · cases refused

end World

namespace Run

open World

def Named : Outcome → Prop
  | .ok _ => True
  | .error e => e.node.isSome ∨ e.RefusedLink

theorem named_of_node {e : WorkError} {id : String} (tied : e.node = some id) :
    Named (.error e) :=
  Or.inl (by rw [tied]; rfl)

theorem named_withNode (e : WorkError) (id : String) : Named (.error (e.withNode id)) :=
  named_of_node (WorkError.withNode_node e id)

theorem named_closingOutcome {o finished : Outcome} (named : Named o) (named' : Named finished) :
    Named (closingOutcome o finished) := by
  cases finished with
  | error e =>
    rw [closingOutcome_error]
    exact named'
  | ok r =>
    cases o with
    | error e => exact named
    | ok v => trivial

theorem setStateWith_named {w : World} {n : NodeRef} {s : ExecState} {args : List Json}
    {e : WorkError} (refused : (w.setStateWith n s args).2 = .error e) : Named (.error e) := by
  unfold setStateWith at refused
  split at refused
  · cases refused
    exact named_withNode _ _
  · cases refused
  · cases refused

theorem validate_named {w : World} {n : NodeRef} {e : WorkError}
    (refused : w.validate n = .error e) : Named (.error e) := by
  unfold World.validate at refused
  split at refused
  · cases refused
    exact named_withNode _ _
  · split at refused
    · split at refused
      · cases refused
        exact named_withNode _ _
      · cases refused
    · cases refused

inductive Blamed : Task → Prop
  | begin (node : NodeRef) (args : List Json) : Blamed (.begin node args)
  | settled {o : Outcome} : Named o → Blamed (.settled o)
  | perform (node : NodeRef) (inner : Task) : Blamed (.perform node inner)
  | success (node : NodeRef) {inner : Task} : Blamed inner → Blamed (.success node inner)
  | recovery (node : NodeRef) {inner : Task} : Blamed inner → Blamed (.recovery node inner)
  | closing (node : NodeRef) {o : Outcome} {inner : Task} : Named o → Blamed inner →
      Blamed (.closing node o inner)

theorem Blamed.named {o : Outcome} (blamed : Blamed (.settled o)) : Named o := by
  cases blamed with
  | settled named => exact named

section Steps

variable (node : NodeRef) (w : World)

theorem hook_blamed (h : NodeRef) (defaults : List Json) : Blamed (hook node h defaults w).1 := by
  rw [hook_apply]
  dsimp only
  -- the world with the hook's arguments settled is all that the rest reads
  generalize (if w.hasArgs h then w else w.setArgs h defaults) = w₁
  split
  · exact .begin h []
  · split
    · exact .begin h []
    · rename_i refused
      exact .settled (Or.inr (attach_error (congrArg Prod.snd refused)))

theorem finish_blamed {o : Outcome} (named : Named o) : Blamed (finish node o w).1 := by
  cases always : (w.node node).settings.always with
  | none =>
    simp only [finish, always, bind_apply, get_apply, pure_apply]
    exact .settled named
  | some h =>
    simp only [finish, always, bind_apply, get_apply, pure_apply]
    exact .closing node named (hook_blamed node w h _)

theorem recover_blamed {e : WorkError} (named : Named (.error e)) :
    Blamed (recover node e w).1 := by
  rcases moved : w.setStateWith node .failed [e.toJson] with ⟨w₁, refusal | ⟨⟩⟩
  · simp only [recover, bind_apply, change_apply, moved]
    exact finish_blamed node w₁ (setStateWith_named (congrArg Prod.snd moved))
  · simp only [recover, bind_apply, change_apply, moved, get_apply]
    cases onFail : (w₁.node node).settings.onFail with
    | none => exact finish_blamed node w₁ named
    | some h =>
      by_cases taken : takes w₁ node e
      · simp only [taken, ↓reduceIte, bind_apply, pure_apply]
        exact .recovery node (hook_blamed node w₁ h _)
      · simp only [taken, Bool.false_eq_true, ↓reduceIte]
        exact finish_blamed node w₁ named

theorem markSuccess_blamed (r : Json) : Blamed (markSuccess node r w).1 := by
  rcases moved : w.setStateWith node .successful [r] with ⟨w₁, refusal | ⟨⟩⟩
  · simp only [markSuccess, bind_apply, change_apply, moved]
    exact recover_blamed node w₁ (setStateWith_named (congrArg Prod.snd moved))
  · simp only [markSuccess, bind_apply, change_apply, moved]
    exact finish_blamed node w₁ trivial

theorem succeed_blamed (r : Json) : Blamed (succeed node r w).1 := by
  cases onSuccess : (w.node node).settings.onSuccess with
  | none =>
    simp only [succeed, onSuccess, bind_apply, get_apply]
    exact markSuccess_blamed node w r
  | some h =>
    simp only [succeed, onSuccess, bind_apply, get_apply, pure_apply]
    exact .success node (hook_blamed node w h _)

theorem afterWork_blamed (worked : Outcome) : Blamed (afterWork node worked w).1 := by
  by_cases cancelled : w.state node = .cancelled
  · simp only [afterWork, cancelled, bind_apply, get_apply, ↓reduceIte, pure_apply]
    exact .settled (named_withNode _ _)
  · simp only [afterWork, cancelled, bind_apply, get_apply, ↓reduceIte]
    cases worked with
    | ok r => exact succeed_blamed node w r
    | error e => exact recover_blamed node w (named_withNode e _)

-- The walk of a skip ends as it began or with the refusal of a node, which names it.
theorem forIn_skip_named {f : NodeRef → Outcome → StateM World (ForInStep Outcome)}
    (round : SkipRound f) : ∀ (nodes : List NodeRef) (b : Outcome) (v : World), Named b →
      Named (forIn nodes b f v).1
  | [], _, _, named => named
  | m :: rest, b, v, named => by
    rw [List.forIn_cons]
    cases passable : (v.state m).skippable with
    | false =>
      simp only [bind_apply, round.stops m b v passable]
      exact named_of_node (skipRefusal_node v m)
    | true =>
      simp only [bind_apply, round.passes m b v passable]
      exact forIn_skip_named round rest b _ named

theorem skip_named : Named (skip node w).1 := by
  obtain ⟨f, round, walks⟩ := skip_walks node
  rw [walks]
  exact forIn_skip_named round _ _ w trivial

theorem begin_blamed (host : Host) (args : List Json) : Blamed (begin host node args w).1 := by
  cases skips : (w.node node).settings.skipIf with
  | true =>
    simp only [begin, skips, bind_apply, get_apply, ↓reduceIte, pure_apply]
    exact .settled (skip_named node w)
  | false =>
    rcases valid : w.validate node with e | ⟨⟩
    · simp only [begin, skips, valid, Bool.false_eq_true, bind_apply, get_apply, ↓reduceIte,
        pure_apply]
      exact .settled (validate_named valid)
    · rcases moved : w.setState node .inProgress with ⟨w₁, e | ⟨⟩⟩
      · simp only [begin, skips, valid, moved, Bool.false_eq_true, bind_apply, get_apply,
          change_apply, ↓reduceIte, pure_apply]
        exact .settled (setStateWith_named (congrArg Prod.snd moved))
      · simp only [begin, skips, valid, moved, Bool.false_eq_true, bind_apply, get_apply,
          change_apply, ↓reduceIte, pure_apply]
        exact .perform node _

end Steps

-- Work that waits on inner work stays blamed through a poll when the inner work, polled, is
-- `good`: settled with an outcome whose sequel is blamed, or waiting and blamed once wrapped.
theorem poll_wrap_blamed {host : Host} {wrap : Task → Task} {next : Outcome → StateM World Task}
    (wraps : Wraps host wrap next) {depth : Nat}
    (ih : ∀ t w, Blamed t → Blamed (poll host depth t w).1) (good : Task → Prop)
    (inner : Task) (w : World) (polled : good (poll host depth inner w).1)
    (settles : ∀ o w₁, good (.settled o) → Blamed (next o w₁).1)
    (waits : ∀ t, good t → Blamed (wrap t)) :
    Blamed (poll host (depth + 1) (wrap inner) w).1 := by
  rcases result : poll host depth inner w with ⟨t, w₁⟩
  rw [result] at polled
  by_cases done : ∃ o, t = .settled o
  · obtain ⟨o, rfl⟩ := done
    rw [wraps.settles depth inner w o w₁ result]
    exact ih _ _ (settles o w₁ polled)
  · rw [wraps.waits depth inner w t w₁ result (fun o same => done ⟨o, same⟩)]
    exact waits t polled

theorem poll_blamed (host : Host) : ∀ (depth : Nat) (t : Task) (w : World), Blamed t →
    Blamed (poll host depth t w).1
  | 0, _, _, blamed => blamed
  | depth + 1, t, w, blamed => by
    have ih := poll_blamed host depth
    -- one case for each kind of blamed work; the four wrappers go through `poll_wrap_blamed`
    cases blamed with
    | begin node args =>
      rw [poll_begin]
      exact ih _ _ (begin_blamed node w host args)
    | settled named =>
      rw [poll_settled]
      exact .settled named
    | perform node inner =>
      exact poll_wrap_blamed (wraps_perform host node) ih (fun _ => True) inner w trivial
        (fun o w₁ _ => afterWork_blamed node w₁ o) (fun t _ => .perform node t)
    | success node inside =>
      refine poll_wrap_blamed (wraps_success host node) ih Blamed _ w (ih _ w inside)
        (fun o w₁ settled => ?_) (fun _ blamed => .success node blamed)
      cases o with
      | ok r => exact markSuccess_blamed node w₁ r
      | error e => exact recover_blamed node w₁ settled.named
    | recovery node inside =>
      exact poll_wrap_blamed (wraps_recovery host node) ih Blamed _ w (ih _ w inside)
        (fun _ w₁ settled => finish_blamed node w₁ settled.named)
        (fun _ blamed => .recovery node blamed)
    | closing node named inside =>
      exact poll_wrap_blamed (wraps_closing host node _) ih Blamed _ w (ih _ w inside)
        (fun _ _ settled => .settled (named_closingOutcome named settled.named))
        (fun _ blamed => .closing node named blamed)

theorem settles_named {host : Host} {w w' : World} {t : Task} {o : Outcome}
    (run : Settles host w t w' o) (blamed : Blamed t) : Named o := by
  -- every task along the run is blamed, and the last one has settled with `o`
  have along : ∀ b, Relation.ReflTransGen (Step host) (t, w) b → Blamed b.1 := by
    intro b path
    induction path with
    | refl => exact blamed
    | tail _ step before =>
      obtain ⟨depth, polled⟩ := step
      rw [← polled]
      exact poll_blamed host depth _ _ before
  exact (along _ run).named

/-- An error that a node's run ends with names a node, or it is a refused link, of kind
`TYPE_KIND`: the link of a hook beneath the node it runs for, since every other link that a
run makes belongs to some node's own work. -/
theorem run_error_named (host : Host) (node : NodeRef) (args : List Json) (w w' : World)
    (e : WorkError) (run : Settles host w (.begin node args) w' (.error e)) :
    e.node.isSome ∨ (e.kind = .typeKind ∧ e.RefusedLink) := by
  rcases settles_named run (.begin node args) with tied | refused
  · exact .inl tied
  · exact .inr ⟨refused.kind, refused⟩

-- A job of the builtin host that fails, alone in its world.
def failWorld : World where
  nodes := #[{ id := "n", body := .job ⟨"fail", .null⟩ }]

theorem failing_job_named :
    let host := Script.host ⟨0⟩ ⟨0⟩
    let e := (Script.failure "failed").withNode "n"
    let w' := (process host ⟨0⟩ [] failWorld).2
    Settles host failWorld (.begin ⟨0⟩ []) w' (.error e) ∧
      (e.node.isSome ∨ (e.kind = .typeKind ∧ e.RefusedLink)) := by
  intro host e w'
  have processed : process host ⟨0⟩ [] failWorld = (.error e, w') := Prod.ext (by rfl) rfl
  have named : e.node = some "n" := rfl
  have run := (process_settles host ⟨0⟩ [] failWorld w' _ processed).resolve_right
    (fun gaveUp => by
      injection gaveUp with same
      rw [same] at named
      cases named)
  exact ⟨run, run_error_named host ⟨0⟩ [] failWorld w' e run⟩

-- A job whose success hook is linked beneath another node already.
def heldHookWorld : World where
  nodes := #[
    { id := "h", body := .job ⟨"echo", .null⟩, parent := some ⟨1⟩ },
    { id := "x", body := .queue { limit := 1, stats := { total := 1 } }, children := [⟨0⟩] },
    { id := "n", body := .job ⟨"echo", .null⟩, settings := { onSuccess := some ⟨0⟩ } }]

-- The job's work succeeds, but its hook cannot be linked beneath it: the job fails with the
-- refusal, which names no node, and the hook stays where it was.
theorem held_hook_error_unnamed :
    let run := process (Script.host ⟨0⟩ ⟨0⟩) ⟨2⟩ [] heldHookWorld
    run.1 = .error (.of .hasParent) ∧ (WorkError.of .hasParent).node = none ∧
      run.2.state ⟨2⟩ = .failed ∧ run.2.parent ⟨0⟩ = some ⟨1⟩ :=
  ⟨by rfl, rfl, by rfl, by rfl⟩

end Run

end TaskTree
