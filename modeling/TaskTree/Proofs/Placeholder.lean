import TaskTree.Proofs.Materialize
import TaskTree.Proofs.Rerun
import TaskTree.Proofs.Subtree
import TaskTree.Script.Host

set_option autoImplicit false

namespace TaskTree

def NodeData.resolved (d : NodeData) : Option NodeRef :=
  match d.body with
  | .placeholder _ r => r
  | _ => none

theorem NodeData.resolved_of_body {d d' : NodeData} (same : d'.body = d.body) :
    d'.resolved = d.resolved := by
  unfold NodeData.resolved
  rw [same]

-- The counts of a queue do not touch what a placeholder resolved.
theorem NodeData.resolved_of_uncounted {d d' : NodeData}
    (same : d'.body.uncounted = d.body.uncounted) : d'.resolved = d.resolved := by
  unfold NodeData.resolved
  cases hd : d.body <;> cases hd' : d'.body <;> simp_all [NodeBody.uncounted]

namespace World

def swapResolved (u : World) (P c : NodeRef) : World :=
  let v := u.modifyNode P fun d =>
    match d.body with
    | .placeholder f _ => { d with body := .placeholder f (some c) }
    | _ => d
  match u.resolvedNode P with
  | some p => (v.remove P p).1
  | none => v

def withoutResolved (children : List NodeRef) (resolved : Option NodeRef) : List NodeRef :=
  children.filter fun m => some m ≠ resolved

theorem resolvedNode_eq (w : World) (n : NodeRef) : w.resolvedNode n = (w.node n).resolved := rfl

-- A change of a queue's counts keeps what a placeholder resolved.
theorem resolved_withQueue (d : NodeData) (q : QueueState) :
    NodeData.resolved { d with body := d.body.withQueue q } = d.resolved := by
  unfold NodeData.resolved NodeBody.withQueue
  cases d.body <;> rfl

theorem resolvedNode_remove (w : World) (p c n : NodeRef) :
    (w.remove p c).1.resolvedNode n = w.resolvedNode n := by
  unfold remove
  split
  · rfl
  · dsimp only
    rw [resolvedNode_eq, view_modifyStats _ p n _ NodeData.resolved resolved_withQueue,
      view_modifyNode _ c n _ NodeData.resolved fun _ => ?_,
      view_modifyNode _ p n _ NodeData.resolved fun _ => ?_]
    all_goals rfl

theorem resolvedNode_attach (w : World) (p c n : NodeRef) (first : Bool) :
    (w.attach p c first).1.resolvedNode n = w.resolvedNode n := by
  by_cases beneath : c = p ∨ (w.parents p).contains c = true
  · unfold attach
    rw [if_pos beneath]
  · by_cases linked : (w.parent c).isSome = true
    · unfold attach
      rw [if_neg beneath, if_pos linked]
    · rw [attach_of_allowed w p c first beneath linked]
      dsimp only
      -- the event changes listeners only; the links change no body but by the counts
      have quiet := quiet_emit (w.link p c first) p "add" [((w.link p c first).descriptor c).toJson]
      rw [resolvedNode_eq, NodeData.resolved_of_body (NodeData.body_eq_of_quieted (quiet.same n))]
      unfold link
      rw [view_modifyStats _ p n _ NodeData.resolved resolved_withQueue,
        view_modifyNode _ p n _ NodeData.resolved fun _ => ?_,
        view_modifyNode _ c n _ NodeData.resolved fun _ => ?_]
      all_goals rfl

theorem resetState_keeps_placeholder (w : World) (n P : NodeRef) :
    (w.resetState n).resolvedNode P = w.resolvedNode P ∧
      (w.resetState n).children P = w.children P := by
  have shaped := (resetState_frame w n).1.toShaped
  exact ⟨NodeData.resolved_of_uncounted (shaped.body P), shaped.children P⟩

structure Swapped (u v : World) (P : NodeRef) (r : Option NodeRef) (c : NodeRef) : Prop where
  resolved : v.resolvedNode P = some c
  children : v.children P = withoutResolved (u.children P) r
  unlinked : ∀ p, r = some p → p ∈ u.children P → v.parent p = none
  links : v.Links
  alive : v.Alive
  size : v.nodes.size = u.nodes.size

section Swap

variable {u : World} {P c : NodeRef} {f : NodeFactory} {r : Option NodeRef}

theorem present_of_placeholder (body : (u.node P).body = .placeholder f r) :
    P.index < u.nodes.size := by
  by_contra beyond
  rw [node_of_size_le u P (Nat.le_of_not_lt beyond)] at body
  cases body

-- Taking `c` as the resolved node changes the body of `P` and nothing that links read.
theorem retarget_view {β : Type} (view : NodeData → β)
    (kept : ∀ d : NodeData, ∀ b, view { d with body := b } = view d) (m : NodeRef) :
    view ((u.modifyNode P fun d =>
      match d.body with
      | .placeholder f _ => { d with body := .placeholder f (some c) }
      | _ => d).node m) = view (u.node m) := by
  refine view_modifyNode u P m _ view fun d => ?_
  split
  · exact kept d _
  · rfl

theorem swapResolved_spec (links : u.Links) (alive : u.Alive)
    (body : (u.node P).body = .placeholder f r) : Swapped u (u.swapResolved P c) P r c := by
  let v₀ := u.modifyNode P fun d =>
    match d.body with
    | .placeholder f _ => { d with body := .placeholder f (some c) }
    | _ => d
  have children₀ : ∀ m, v₀.children m = u.children m :=
    retarget_view NodeData.children (fun _ _ => rfl)
  have parent₀ : ∀ m, v₀.parent m = u.parent m := fun m =>
    parent_eq_of_link u v₀ m (retarget_view NodeData.parent (fun _ _ => rfl) m)
      (retarget_view NodeData.live (fun _ _ => rfl))
  have links₀ : v₀.Links := links.congr children₀ parent₀
  have alive₀ : v₀.Alive := fun m => by
    rw [retarget_view NodeData.live (fun _ _ => rfl) m]
    exact alive m
  have size₀ : v₀.nodes.size = u.nodes.size := size_modifyNode u P _
  have resolved₀ : v₀.resolvedNode P = some c := by
    rw [resolvedNode_eq, node_modifyNode_self u P _ (present_of_placeholder body)]
    simp only [NodeData.resolved, body]
  have last : u.resolvedNode P = r := by
    rw [resolvedNode_eq, NodeData.resolved, body]
  -- the node of the last run, if any, is unlinked from `P`
  cases r with
  | none =>
    have same : u.swapResolved P c = v₀ := by
      unfold swapResolved
      rw [last]
    rw [same]
    refine ⟨resolved₀, ?_, (fun p absent => by cases absent), links₀, alive₀, size₀⟩
    rw [children₀, withoutResolved, eq_comm, List.filter_eq_self]
    intro m _
    simp
  | some p =>
    have same : u.swapResolved P c = (v₀.remove P p).1 := by
      unfold swapResolved
      rw [last]
    rw [same]
    have kept := remove_keeps links₀ alive₀ P p
    refine ⟨by rw [resolvedNode_remove, resolved₀], ?_, ?_, kept.links, kept.alive,
      kept.size.trans size₀⟩
    · by_cases member : p ∈ u.children P
      · have differ : p ≠ P := links.ne_of_parent ((links.agree P p).mp member)
        rw [children_remove_self v₀ differ, children₀, (links.nodup P).erase_eq_filter,
          withoutResolved]
        refine List.filter_congr fun m _ => ?_
        by_cases same : m = p <;> simp [same]
      · rw [remove_of_not_mem (by rw [children₀]; exact member), children₀, withoutResolved,
          eq_comm, List.filter_eq_self]
        intro m listed
        have differ : m ≠ p := fun same => member (same ▸ listed)
        simp [differ]
    · intro p' named member
      cases named
      have detached := (linkContract links₀ alive₀).detached P p (by rw [children₀]; exact member)
      exact detached.parent_self

end Swap

end World

namespace Run

open World

-- Linking `c` last and then giving it.
theorem append_then_run (P c : NodeRef) (v : World) :
    (Engine.append P c >>= fun _ => (pure c : Engine NodeRef)).run v =
      ((v.attach P c false).2.map fun _ => c, (v.attach P c false).1) := by
  rw [Engine.run_bind, Engine.run_append]
  rcases v.attach P c false with ⟨v', e | n⟩ <;> rfl

theorem resolvePlaceholder_run (host : Host) (P : NodeRef) (f : NodeFactory) (args : List Json)
    (w : World) :
    (resolvePlaceholder host P f args).run w =
      match (makeNode host f args).run w with
      | (.error e, u) => (.error e, u)
      | (.ok c, u) => (((u.swapResolved P c).attach P c false).2.map fun _ => c,
          ((u.swapResolved P c).attach P c false).1) := by
  simp only [resolvePlaceholder, Engine.run_bind]
  rcases (makeNode host f args).run w with ⟨e | c, u⟩
  · rfl
  · simp only [Engine.run_get, Engine.run_modify]
    unfold swapResolved
    -- the node of the last run, if any, is unlinked before the link
    cases u.resolvedNode P with
    | none => exact append_then_run P c _
    | some p =>
      dsimp only
      rw [Engine.run_bind, Engine.run_modify]
      exact append_then_run P c _

theorem startWork_placeholder (host : Host) (P : NodeRef) (callArgs args : List Json) (w : World)
    {f : NodeFactory} {r : Option NodeRef} (body : (w.node P).body = .placeholder f r) :
    startWork host P callArgs args w =
      match (makeNode host f args).run w with
      | (.error e, u) => (.settled (.error e), u)
      | (.ok c, u) =>
        match (u.swapResolved P c).attach P c false with
        | (v, .ok _) => (.begin c [], v)
        | (v, .error e) => (.settled (.error e), v) := by
  have step := resolvePlaceholder_run host P f args w
  simp only [startWork, bind_apply, get_apply, body]
  rw [step]
  rcases (makeNode host f args).run w with ⟨e | c, u⟩
  · rfl
  · dsimp only
    rcases (u.swapResolved P c).attach P c false with ⟨v, e | n⟩ <;> rfl

theorem NodeBody.eq_placeholder_of_uncounted {b : NodeBody} {f : NodeFactory} {r : Option NodeRef}
    (same : b.uncounted = .placeholder f r) : b = .placeholder f r := by
  cases b <;> first | exact same | cases same

structure Spares (host : Host) (f : NodeFactory) (args : List Json) (P : NodeRef) : Prop where
  keeps : ∀ w : World, P.index < w.nodes.size → w.Links → w.Alive →
    ((makeNode host f args).run w).2.Links ∧ ((makeNode host f args).run w).2.Alive
  body : ∀ w : World, P.index < w.nodes.size →
    (((makeNode host f args).run w).2.node P).body = (w.node P).body
  children : ∀ w : World, P.index < w.nodes.size →
    ((makeNode host f args).run w).2.children P = w.children P
  real : ∀ w c u, (makeNode host f args).run w = (.ok c, u) → c.index < u.nodes.size

-- A host factory that adds one node of a fixed body spares every node that is there.
theorem spares_of_addNode (host : Host) (g : HostFn) (args : List Json) (body : NodeBody)
    (P : NodeRef)
    (adds : ∀ w, host.makeNode g args w = ((w.addNode body).1, .ok (.node (w.addNode body).2))) :
    Spares host (.host g) args P := by
  have made : ∀ w : World, (makeNode host (.host g) args).run w =
      (.ok (w.addNode body).2, (w.addNode body).1) := fun w => by
    simp only [makeNode, Compile.make, Engine.run_bind, Engine.run_of, adds, Engine.run_pure]
  -- the new node reads like the default node a world gives beyond its end
  have children : ∀ (w : World) m, (w.addNode body).1.children m = w.children m := by
    intro w m
    rw [World.children, World.children, World.node_addNode]
    split
    · rename_i fresh
      rw [World.node_of_size_le w m (Nat.le_of_eq fresh.symm)]
      rfl
    · rfl
  refine ⟨fun w _ links alive => ?_, fun w present => ?_, fun w _ => ?_, fun w c u ran => ?_⟩
  · have steady := steady_addNode w body
    rw [made]
    refine ⟨links.congr (children w) (fun m => parent_eq_of_steady steady m), fun m => ?_⟩
    rw [steady.live m]
    exact alive m
  · rw [made, World.node_addNode, if_neg (Nat.ne_of_lt present)]
  · rw [made, children w P]
  · rw [made] at ran
    cases ran
    simp [World.addNode]

/-- A run of a pending, valid placeholder `P` that is not skipped, in a world whose links agree,
with a factory that spares `P`. `P` moves to `in-progress`, and its factory receives the
arguments that `P` resolved. A factory that fails leaves `P`'s resolved node and children as
they were, and `P`'s run concludes with the factory's error as the outcome of its work. A factory
that gives `c` makes `c` the resolved node and unlinks the node `r` of the last run (`Swapped`).
If `P` can then link `c`, `c` is linked last beneath `P`, so that `P` is among its ancestors, and
`P`'s run concludes with the outcome of `c`'s run with no call arguments. Otherwise the link is
refused and the work fails with `TYPE_KIND`, with `c` the resolved node all the same. A reset after
the run changes neither `P`'s resolved node nor its children, so the next run finds them as this
one left them. -/
theorem placeholder_run (host : Host) (P : NodeRef) (callArgs : List Json) (w w' : World)
    (o : Outcome) (links : w.Links) (alive : w.Alive) (f : NodeFactory) (r : Option NodeRef)
    (body : (w.node P).body = .placeholder f r)
    (spares : Spares host f (w.resolveArgs host P callArgs none) P)
    (pending : w.state P = .pending) (unskipped : (w.node P).settings.skipIf = false)
    (valid : w.validate P = .ok ()) (run : Settles host w (.begin P callArgs) w' o) :
    (∀ n, (w'.resetState n).resolvedNode P = w'.resolvedNode P ∧
      (w'.resetState n).children P = w'.children P) ∧
    ∃ w₁, Moves w P .inProgress [] w₁ ∧
      match (makeNode host f (w.resolveArgs host P callArgs none)).run w₁ with
      | (.error e, u) => u.resolvedNode P = w.resolvedNode P ∧ u.children P = w.children P ∧
          Concludes host u P (.error e) w' o
      | (.ok c, u) =>
        u.children P = w.children P ∧ Swapped u (u.swapResolved P c) P r c ∧
        (¬(u.swapResolved P c).Refused P c → ∃ w₂,
          w₂.children P = withoutResolved (w.children P) r ++ [c] ∧
          w₂.resolvedNode P = some c ∧ P ∈ w₂.parents c ∧
          ∃ w₃ worked, Settles host w₂ (.begin c []) w₃ worked ∧ Concludes host w₃ P worked w' o) ∧
        ((u.swapResolved P c).Refused P c → ∃ e, e.kind = .typeKind ∧
          Concludes host (u.swapResolved P c) P (.error e) w' o) := by
  have phases := completes_begin host P callArgs w w' o pending unskipped
    (settles_begin host P callArgs w w' o run)
  unfold Lifecycle at phases
  rw [valid] at phases
  obtain ⟨w₁, moved, w₂, worked, work, concluded⟩ := phases
  refine ⟨fun n => resetState_keeps_placeholder w' n P, ?_⟩
  -- the move changes `P`'s state and raises events, and leaves what the work reads
  have shaped : World.Shaped w w₁ := by
    have frame : World.Frame (· = P) w (w.setStateWith P .inProgress []).1 :=
      @World.Frame.setStateWith (· = P) w P rfl .inProgress []
    rw [moved] at frame
    exact frame.toShaped
  have body₁ : (w₁.node P).body = .placeholder f r :=
    NodeBody.eq_placeholder_of_uncounted (by rw [shaped.body P, body]; rfl)
  have alive₁ : w₁.Alive := fun m => by rw [shaped.live m]; exact alive m
  refine ⟨w₁, moved, ?_⟩
  unfold Completes at work
  rw [startWork_placeholder host P callArgs _ w₁ body₁] at work
  have present₁ := present_of_placeholder body₁
  have kept := spares.keeps w₁ present₁ (shaped.links links) alive₁
  have bodyAfter := spares.body w₁ present₁
  have childrenAfter := spares.children w₁ present₁
  have real := spares.real w₁
  rcases made : (makeNode host f (w.resolveArgs host P callArgs none)).run w₁ with ⟨e | c, u⟩
  · -- the factory failed: nothing more happens before `P` concludes
    rw [made] at work bodyAfter childrenAfter
    dsimp only at work bodyAfter childrenAfter
    obtain ⟨rfl, rfl⟩ := settles_settled host _ worked u w₂ work
    refine ⟨?_, by rw [childrenAfter, shaped.children], concluded⟩
    rw [resolvedNode_eq, resolvedNode_eq, NodeData.resolved_of_body bodyAfter,
      NodeData.resolved_of_body (body₁.trans body.symm)]
  · rw [made] at work kept bodyAfter childrenAfter
    dsimp only at work kept bodyAfter childrenAfter
    have bodyU : (u.node P).body = .placeholder f r := bodyAfter.trans body₁
    have childrenU : u.children P = w.children P := childrenAfter.trans (shaped.children P)
    have swapped := @swapResolved_spec u P c f r kept.1 kept.2 bodyU
    refine ⟨childrenU, swapped, fun allowed => ?_, fun refused => ?_⟩
    · -- the link is taken: `c` comes last among `P`'s children, and its run is `P`'s work
      have pIn : P.index < (u.swapResolved P c).nodes.size := by
        rw [swapped.size]
        exact present_of_placeholder bodyU
      have cIn : c.index < (u.swapResolved P c).nodes.size := by
        rw [swapped.size]
        exact real c u made
      obtain ⟨linked, attached⟩ :=
        (linkContract swapped.links swapped.alive).attached P c false pIn cIn allowed
      have links₂ := (attach_keeps swapped.links swapped.alive false pIn cIn).links
      have started : Settles host ((u.swapResolved P c).attach P c false).1 (.begin c []) w₂
          worked := by
        rw [linked] at work ⊢
        exact work
      refine ⟨_, ?_, ?_, ?_, w₂, worked, started, concluded⟩
      · rw [attached.children_self, swapped.children, childrenU]
        rfl
      · rw [resolvedNode_attach, swapped.resolved]
      · exact (links₂.mem_parents_iff c P).mpr (.single attached.parent_self)
    · obtain ⟨e, refusedLink, kind⟩ := attach_refused swapped.links false refused
      rw [refusedLink] at work
      dsimp only at work
      obtain ⟨rfl, rfl⟩ := settles_settled host _ worked _ w₂ work
      exact ⟨e, kind, concluded⟩

-- A placeholder alone in its world, whose factory makes a job that echoes its arguments.
def echoPlaceholderWorld : World where
  nodes := #[{ id := "p", body := .placeholder (.host ⟨"make_echo", .null⟩) none }]

theorem echo_placeholder_run :
    let host := Script.host ⟨0⟩ ⟨0⟩
    let P : NodeRef := ⟨0⟩
    let w := echoPlaceholderWorld
    let f : NodeFactory := .host ⟨"make_echo", .null⟩
    let w' := (process host P [] w).2
    let o := (process host P [] w).1
    w.Links ∧ w.Alive ∧ (w.node P).body = .placeholder f none ∧
      Spares host f (w.resolveArgs host P [] none) P ∧ w.state P = .pending ∧
      (w.node P).settings.skipIf = false ∧ w.validate P = .ok () ∧
      Settles host w (.begin P []) w' o ∧
      (∀ n, (w'.resetState n).resolvedNode P = w'.resolvedNode P ∧
        (w'.resetState n).children P = w'.children P) ∧
      ∃ w₁, Moves w P .inProgress [] w₁ ∧
        match (makeNode host f (w.resolveArgs host P [] none)).run w₁ with
        | (.error e, u) => u.resolvedNode P = w.resolvedNode P ∧ u.children P = w.children P ∧
            Concludes host u P (.error e) w' o
        | (.ok c, u) =>
          u.children P = w.children P ∧ Swapped u (u.swapResolved P c) P none c ∧
          (¬(u.swapResolved P c).Refused P c → ∃ w₂,
            w₂.children P = withoutResolved (w.children P) none ++ [c] ∧
            w₂.resolvedNode P = some c ∧ P ∈ w₂.parents c ∧
            ∃ w₃ worked, Settles host w₂ (.begin c []) w₃ worked ∧
              Concludes host w₃ P worked w' o) ∧
          ((u.swapResolved P c).Refused P c → ∃ e, e.kind = .typeKind ∧
            Concludes host (u.swapResolved P c) P (.error e) w' o) := by
  intro host P w f w' o
  have processed : process host P [] w = (o, w') := (Prod.eta _).symm
  -- the run ends well, so the runner did not give up
  have ended : o.isOk = true := by decide +kernel
  have settles := (process_settles host P [] w _ _ processed).resolve_right fun gaveUp => by
    rw [gaveUp] at ended
    cases ended
  have links : w.Links :=
    (World.links_of_unlinked w (by simp [w, echoPlaceholderWorld, NodeBody.queueState?])).1
  have alive : w.Alive := World.alive_of_live w (by simp [w, echoPlaceholderWorld])
  have spares : Spares host f (w.resolveArgs host P [] none) P :=
    spares_of_addNode _ _ _ (.job { name := "echo" }) P fun _ => rfl
  exact ⟨links, alive, rfl, spares, rfl, rfl, by rfl, settles,
    placeholder_run host P [] w w' o links alive f none rfl spares rfl rfl (by rfl) settles⟩

-- A placeholder whose factory gives the node named `A`.
def heldFactory : NodeFactory := .host ⟨"placeholder", Json.mkObj [("$ref", .str "A")]⟩

-- The echo job `A`, held by a queue, and a placeholder whose factory gives `A`.
def heldNodeWorld : World where
  nodes := #[{ id := "a", body := .job ⟨"echo", .null⟩, parent := some ⟨1⟩ },
    { id := "q", body := .queue { limit := 1, stats := { total := 1 } }, children := [⟨0⟩] },
    { id := "p", body := .placeholder heldFactory none }]
  named := [("A", ⟨0⟩)]

theorem held_node_not_linked :
    let host := Script.host ⟨0⟩ ⟨0⟩
    let run := process host ⟨2⟩ [] heldNodeWorld
    (makeNode host heldFactory []).run heldNodeWorld = (.ok ⟨0⟩, heldNodeWorld) ∧
      run.1 = .error ((WorkError.of .hasParent).withNode "p") ∧
      ((WorkError.of .hasParent).withNode "p").kind = .typeKind ∧
      run.2.resolvedNode ⟨2⟩ = some ⟨0⟩ ∧ run.2.children ⟨2⟩ = [] ∧
      run.2.parent ⟨0⟩ = some ⟨1⟩ :=
  ⟨by rfl, by rfl, rfl, by rfl, by rfl, by rfl⟩

end Run

end TaskTree
