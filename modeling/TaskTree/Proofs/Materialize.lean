import TaskTree.Proofs.Compile
import TaskTree.Proofs.Agree
import TaskTree.Proofs.Lifecycle

set_option autoImplicit false

namespace TaskTree

-- What a node holds but its children, its listeners and its body.
def NodeData.frame (d : NodeData) : NodeData :=
  { d with children := [], listeners := {}, body := .bare }

@[simp] theorem NodeData.frame_quieted (d : NodeData) : d.quieted.frame = d.frame := rfl

@[simp] theorem NodeData.parent_frame (d : NodeData) : d.frame.parent = d.parent := rfl

@[simp] theorem NodeData.live_frame (d : NodeData) : d.frame.live = d.live := rfl

@[simp] theorem NodeData.settings_frame (d : NodeData) : d.frame.settings = d.settings := rfl

@[simp] theorem NodeData.scope_frame (d : NodeData) : d.frame.scope = d.scope := rfl

-- A view of a node that ignores its listeners is the same for two nodes that agree but for them.
theorem NodeData.eq_of_quieted {β : Type} (view : NodeData → β) (blind : ∀ d, view d.quieted = view d)
    {d d' : NodeData} (same : d'.quieted = d.quieted) : view d' = view d := by
  rw [← blind d', same, blind]

theorem NodeData.body_eq_of_quieted {d d' : NodeData} (same : d'.quieted = d.quieted) :
    d'.body = d.body :=
  eq_of_quieted NodeData.body (fun _ => rfl) same

theorem NodeData.frame_eq_of_quieted {d d' : NodeData} (same : d'.quieted = d.quieted) :
    d'.frame = d.frame :=
  eq_of_quieted NodeData.frame frame_quieted same

-- The loop state of a loop.
def NodeBody.loop? : NodeBody → Option LoopState
  | .loop _ l => some l
  | _ => none

@[simp] theorem NodeBody.loop?_withQueue (b : NodeBody) (q : QueueState) :
    (b.withQueue q).loop? = b.loop? := by
  cases b <;> rfl

@[simp] theorem NodeBody.loop?_uncounted (b : NodeBody) : b.uncounted.loop? = b.loop? := by
  cases b <;> rfl

theorem NodeBody.eq_loop_of_loop? {b : NodeBody} {l : LoopState} (loop : b.loop? = some l) :
    ∃ q, b = .loop q l := by
  cases b with
  | loop q l' =>
    cases loop
    exact ⟨q, rfl⟩
  | _ => cases loop

namespace Engine

-- A loop each of whose steps yields runs its steps one after the other. The body is left
-- abstract, so that it unifies with the body that a `for` loop elaborates to.
theorem forIn_yield {γ : Type} (step : γ → PUnit → Engine (ForInStep PUnit))
    (g : World → γ → World) (yields : ∀ x w, (step x ()).run w = (.ok (.yield ()), g w x)) :
    ∀ (xs : List γ) (w : World), (forIn xs () step).run w = (.ok (), xs.foldl g w)
  | [], _ => rfl
  | x :: rest, w => by
    rw [List.forIn_cons, run_bind, yields x w]
    exact forIn_yield step g yields rest (g w x)

end Engine

namespace World

variable {β : Type}

theorem present_of_loop {w : World} {n : NodeRef} {q : QueueState} {l : LoopState}
    (loop : (w.node n).body = .loop q l) : n.index < w.nodes.size := by
  by_contra absent
  rw [node_of_size_le w n (Nat.le_of_not_lt absent)] at loop
  cases loop

theorem node_modifyStats_ne (w : World) {n m : NodeRef} (f : JobStats → JobStats) (other : m ≠ n) :
    (w.modifyStats n f).node m = w.node m :=
  node_modifyNode_ne w n m _ other

theorem node_scopeSet_ne (w : World) {n m : NodeRef} (key : String) (v : Json) (other : m ≠ n) :
    (w.scopeSet n key v).node m = w.node m :=
  node_modifyNode_ne w n m _ other

theorem node_scopeSet_self (w : World) (n : NodeRef) (key : String) (v : Json)
    (present : n.index < w.nodes.size) :
    (w.scopeSet n key v).node n = { w.node n with scope := (w.node n).scope.insert key v } :=
  node_modifyNode_self w n _ present

theorem size_scopeSet (w : World) (n : NodeRef) (key : String) (v : Json) :
    (w.scopeSet n key v).nodes.size = w.nodes.size :=
  size_modifyNode w n _

-- A view of a node that the counts of a queue do not change is kept by `modifyStats`.
theorem view_modifyStats (w : World) (n m : NodeRef) (f : JobStats → JobStats)
    (view : NodeData → β) (counts : ∀ d q, view { d with body := d.body.withQueue q } = view d) :
    view ((w.modifyStats n f).node m) = view (w.node m) := by
  refine w.view_modifyNode n m _ view fun d => ?_
  dsimp only
  split
  · exact counts d _
  · rfl

-- The limit of a queue or loop is left by changes that keep its body, and by its counts.
theorem maxConcurrency_modifyNode (w : World) (n m : NodeRef) (f : NodeData → NodeData)
    (keeps : ∀ d, (f d).body = d.body) : (w.modifyNode n f).maxConcurrency m = w.maxConcurrency m :=
  w.view_modifyNode n m f (fun d => d.body.queueState?.map QueueState.limit) fun d => by rw [keeps]

theorem maxConcurrency_modifyStats (w : World) (n m : NodeRef) (f : JobStats → JobStats) :
    (w.modifyStats n f).maxConcurrency m = w.maxConcurrency m := by
  refine w.view_modifyNode n m _ (fun d => d.body.queueState?.map QueueState.limit) fun d => ?_
  dsimp only
  split
  · rename_i q has
    cases body : d.body <;> simp_all [NodeBody.withQueue, NodeBody.queueState?]
  · rfl

theorem maxConcurrency_eq_of_quieted {u v : World} {n : NodeRef}
    (same : (v.node n).quieted = (u.node n).quieted) : v.maxConcurrency n = u.maxConcurrency n := by
  unfold World.maxConcurrency
  rw [NodeData.body_eq_of_quieted same]

theorem maxConcurrency_remove (w : World) (p c m : NodeRef) :
    (w.remove p c).1.maxConcurrency m = w.maxConcurrency m := by
  unfold remove
  split
  · rfl
  · dsimp only
    rw [maxConcurrency_modifyStats]
    exact ((w.modifyNode p _).maxConcurrency_modifyNode c m _ fun _ => by rfl).trans
      (w.maxConcurrency_modifyNode p m _ fun _ => by rfl)

theorem node_remove_ne (w : World) {p c m : NodeRef} (notParent : m ≠ p) (notChild : m ≠ c) :
    (w.remove p c).1.node m = w.node m := by
  unfold remove
  split
  · rfl
  · dsimp only
    rw [node_modifyStats_ne _ _ notParent, node_modifyNode_ne _ _ _ _ notChild,
      node_modifyNode_ne _ _ _ _ notParent]

-- Unlinking a child changes the parent's children and counts only.
theorem view_remove_self (w : World) {p c : NodeRef} (differ : c ≠ p) (view : NodeData → β)
    (children : ∀ d l, view { d with children := l } = view d)
    (counts : ∀ d q, view { d with body := d.body.withQueue q } = view d) :
    view ((w.remove p c).1.node p) = view (w.node p) := by
  unfold remove
  split
  · rfl
  · dsimp only
    rw [view_modifyStats _ p p _ view counts, node_modifyNode_ne _ _ _ _ differ.symm]
    exact w.view_modifyNode p p _ view fun d => children d _

theorem children_remove_self (w : World) {p c : NodeRef} (differ : c ≠ p) :
    (w.remove p c).1.children p = (w.children p).erase c := by
  unfold remove
  split
  · rename_i missing
    rw [List.erase_of_not_mem (List.idxOf?_eq_none_iff.mp missing)]
  · rename_i i found
    dsimp only
    simp only [children]
    rw [view_modifyStats _ p p _ NodeData.children (fun _ _ => rfl),
      node_modifyNode_ne _ _ _ _ differ.symm, List.erase_eq_eraseIdx]
    have present : p.index < w.nodes.size := by
      by_contra beyond
      have none : (w.node p).children = [] := by
        rw [node_of_size_le w p (Nat.le_of_not_lt beyond)]
        rfl
      simp [children, none] at found
    rw [node_modifyNode_self w p _ present]
    simp only [children] at found
    rw [found]

theorem size_remove (w : World) (p c : NodeRef) : (w.remove p c).1.nodes.size = w.nodes.size := by
  unfold remove
  split
  · rfl
  · simp only [modifyStats, modifyQueue, size_modifyNode]

theorem parent_remove_child (w : World) {p c : NodeRef} (member : c ∈ w.children p)
    (present : c.index < w.nodes.size) : ((w.remove p c).1.node c).parent = none := by
  have found : (w.children p).idxOf? c ≠ none := fun missing =>
    (List.idxOf?_eq_none_iff.mp missing) member
  unfold remove
  split
  · contradiction
  · dsimp only
    rw [view_modifyStats _ p c _ NodeData.parent (fun _ _ => rfl),
      node_modifyNode_self _ c _ (by rw [size_modifyNode]; exact present)]

theorem live_remove (w : World) (p c m : NodeRef) :
    ((w.remove p c).1.node m).live = (w.node m).live := by
  unfold remove
  split
  · rfl
  · dsimp only
    refine (view_modifyStats _ p m _ NodeData.live fun _ _ => rfl).trans ?_
    refine (view_modifyNode _ c m _ NodeData.live fun _ => ?_).trans ?_
    · rfl
    refine view_modifyNode _ p m _ NodeData.live fun _ => ?_
    rfl

-- The world once `L` has unlinked, one after the other, each node of `made` that is its
-- child.
def unlinkAll (w : World) (L : NodeRef) (made : List NodeRef) : World :=
  made.foldl (fun u c => (u.remove L c).1) w

-- What unlinking the nodes `done` from `L` leaves of `w` in `u`: the other children of `L` in
-- their order, every node but `L` and its children as it was, what `L` itself holds but its
-- children and counts, and no parent for each child unlinked.
structure Unlinked (w u : World) (L : NodeRef) (done : List NodeRef) : Prop where
  children : u.children L = (w.children L).filter (· ∉ done)
  others : ∀ m, m ≠ L → m ∉ w.children L → u.node m = w.node m
  size : u.nodes.size = w.nodes.size
  own : ∀ {β : Type} (view : NodeData → β), (∀ d l, view { d with children := l } = view d) →
    (∀ d q, view { d with body := d.body.withQueue q } = view d) → view (u.node L) = view (w.node L)
  gone : ∀ m ∈ w.children L, m ∈ done → (u.node m).parent = none
  live : ∀ m, (u.node m).live = (w.node m).live

namespace Unlinked

variable {w u : World} {L : NodeRef}

theorem start (w : World) (L : NodeRef) : Unlinked w w L [] where
  children := by simp
  others _ _ _ := rfl
  size := rfl
  own _ _ _ := rfl
  gone _ _ none := absurd none List.not_mem_nil
  live _ := rfl

-- One more unlink: a child of `L` leaves its children, and any other node changes nothing.
theorem step {done : List NodeRef} (links : w.Links) (unlinked : Unlinked w u L done)
    (c : NodeRef) : Unlinked w (u.remove L c).1 L (done ++ [c]) := by
  by_cases member : c ∈ u.children L
  · have original : c ∈ w.children L := by
      rw [unlinked.children] at member
      exact List.mem_of_mem_filter member
    have pending : c ∉ done := by
      rw [unlinked.children] at member
      simpa using (List.mem_filter.mp member).2
    have linked : w.parent c = some L := (links.agree L c).mp original
    have differ : c ≠ L := links.ne_of_parent linked
    have present : c.index < u.nodes.size := by
      rw [unlinked.size]
      exact present_of_link w (link_of_parent w linked)
    have nodup : ((w.children L).filter (· ∉ done)).Nodup := (links.nodup L).filter _
    refine ⟨?_, fun m notL outside => ?_, by rw [size_remove, unlinked.size],
      fun view children counts => ?_, fun m child unlinkedM => ?_,
      fun m => (live_remove u L c m).trans (unlinked.live m)⟩
    · rw [children_remove_self u differ, unlinked.children, nodup.erase_eq_filter,
        List.filter_filter]
      refine List.filter_congr fun x _ => ?_
      by_cases same : x = c <;> simp [same]
    · have notC : m ≠ c := fun same => outside (same ▸ original)
      rw [node_remove_ne u notL notC, unlinked.others m notL outside]
    · rw [view_remove_self u differ view children counts, unlinked.own view children counts]
    · rcases List.mem_append.mp unlinkedM with earlier | now
      · have notC : m ≠ c := fun same => pending (same ▸ earlier)
        have notL : m ≠ L := links.ne_of_parent ((links.agree L m).mp child)
        rw [node_remove_ne u notL notC]
        exact unlinked.gone m child earlier
      · rw [List.mem_singleton.mp now]
        exact parent_remove_child u member present
  · rw [remove_of_not_mem member]
    refine ⟨?_, unlinked.others, unlinked.size, unlinked.own, fun m child unlinkedM => ?_,
      unlinked.live⟩
    · rw [unlinked.children]
      refine List.filter_congr fun x original => ?_
      by_cases earlier : x ∈ done
      · simp [earlier]
      · have notC : x ≠ c := fun same => by
          rw [unlinked.children] at member
          exact member (List.mem_filter.mpr ⟨same ▸ original, by simp [same ▸ earlier]⟩)
        simp [earlier, notC]
    · rcases List.mem_append.mp unlinkedM with earlier | now
      · exact unlinked.gone m child earlier
      · have same : m = c := List.mem_singleton.mp now
        have earlier : m ∈ done := by
          by_contra fresh
          rw [unlinked.children] at member
          exact member (List.mem_filter.mpr ⟨same ▸ child, by simp [same ▸ fresh]⟩)
        exact unlinked.gone m child earlier

end Unlinked

-- The run over `made`, each unlink one more step.
theorem unlinked_foldl {w : World} (links : w.Links) (L : NodeRef) :
    ∀ (made done : List NodeRef) (u : World), Unlinked w u L done →
      Unlinked w (made.foldl (fun u c => (u.remove L c).1) u) L (done ++ made)
  | [], done, _, unlinked => by simpa using unlinked
  | c :: rest, done, u, unlinked => by
    have next := unlinked_foldl links L rest (done ++ [c]) _ (unlinked.step links c)
    simpa using next

theorem unlinked_all {w : World} (links : w.Links) (L : NodeRef) (made : List NodeRef) :
    Unlinked w (w.unlinkAll L made) L made := by
  have all := unlinked_foldl links L made [] w (Unlinked.start w L)
  rw [List.nil_append] at all
  exact all

-- A walk up that ended at a root before its steps ran out is the same walk in any world in
-- which the nodes on it have the same parents, given at least as many steps.
theorem ancestors_eq_of_parents {u u' : World} :
    ∀ (k k' : Nat) (n : NodeRef), (u.ancestors k n).length < k → k ≤ k' →
      (∀ m ∈ n :: u.ancestors k n, u'.parent m = u.parent m) →
      u'.ancestors k' n = u.ancestors k n
  | 0, _, _, short, _, _ => absurd short (Nat.not_lt_zero _)
  | k + 1, k', n, short, more, same => by
    obtain ⟨j, rfl⟩ : ∃ j, k' = j + 1 := ⟨k' - 1, by omega⟩
    have atN := same n List.mem_cons_self
    cases linked : u.parent n with
    | none => simp [ancestors, linked, atN]
    | some p =>
      rw [ancestors_of_parent u k n p linked] at short same ⊢
      rw [ancestors_of_parent u' j n p (atN.trans linked)]
      refine congrArg (p :: ·) (ancestors_eq_of_parents k j p ?_ (by omega) ?_)
      · simpa using short
      · exact fun m member => same m (List.mem_cons_of_mem n member)

-- In a walk up that ended at a root, the parent of every node on it is on it.
theorem parent_mem_ancestors (u : World) :
    ∀ (k : Nat) (n m p : NodeRef), (u.ancestors k n).length < k → m ∈ n :: u.ancestors k n →
      u.parent m = some p → p ∈ u.ancestors k n
  | 0, _, _, _, short, _, _ => absurd short (Nat.not_lt_zero _)
  | k + 1, n, m, p, short, member, linked => by
    cases up : u.parent n with
    | none =>
      simp only [ancestors, up, List.mem_singleton] at member
      rw [member, up] at linked
      cases linked
    | some q =>
      rw [ancestors_of_parent u k n q up] at short member ⊢
      rcases List.mem_cons.mp member with rfl | higher
      · rw [up] at linked
        cases linked
        exact List.mem_cons_self
      · refine List.mem_cons_of_mem q (parent_mem_ancestors u k q m p ?_ higher linked)
        simpa using short

-- The walk up from `n` ends at a root within the world: `n` and its ancestors are nodes of
-- the world, fewer than its nodes.
structure Rooted (u : World) (n : NodeRef) : Prop where
  short : (u.parents n).length < u.nodes.size
  present : ∀ m ∈ n :: u.parents n, m.index < u.nodes.size
  acyclic : n ∉ u.parents n

-- `u'` has every node of `u`, each as live as it was, and the nodes on the walk up from `n`
-- keep all they hold but their children, listeners and bodies.
structure Grown (u u' : World) (n : NodeRef) : Prop where
  grows : u.nodes.size ≤ u'.nodes.size
  walk : ∀ m ∈ n :: u.parents n, (u'.node m).frame = (u.node m).frame
  live : ∀ m, m.index < u.nodes.size → (u'.node m).live = (u.node m).live

-- `n` keeps what it holds, and every other node that was there all but its listeners.
theorem Grown.of_quieted {u u' : World} {n : NodeRef} (present : ∀ m ∈ n :: u.parents n,
      m.index < u.nodes.size) (grows : u.nodes.size ≤ u'.nodes.size)
    (atN : (u'.node n).frame = (u.node n).frame)
    (others : ∀ m, m ≠ n → m.index < u.nodes.size → (u'.node m).quieted = (u.node m).quieted) :
    Grown u u' n where
  grows := grows
  walk m member := by
    by_cases same : m = n
    · rw [same]
      exact atN
    · exact NodeData.frame_eq_of_quieted (others m same (present m member))
  live m old := by
    by_cases same : m = n
    · rw [same]
      simpa using congrArg NodeData.live atN
    · have kept := congrArg NodeData.live (others m same old)
      exact kept

theorem Links.rooted {w : World} (links : w.Links) {n : NodeRef}
    (present : n.index < w.nodes.size) :
    Rooted w n where
  short := by
    cases linked : w.parent n with
    | none =>
      rw [parents_of_parent_none w n linked]
      exact Nat.lt_of_le_of_lt (Nat.zero_le _) present
    | some p => exact links.parents_short linked
  present m member := by
    rcases List.mem_cons.mp member with rfl | above
    · exact present
    · obtain ⟨child, linked⟩ := (above_of_mem_ancestors w _ n m above).top
      exact links.present linked
  acyclic above := links.acyclic n ((links.mem_parents_iff n n).mp above)

-- The arguments a node resolves read its settings and the scopes on the walk up from it.
theorem resolveArgs_eq {u u' : World} {n : NodeRef}
    (settings : (u'.node n).settings = (u.node n).settings) (parents : u'.parents n = u.parents n)
    (scopes : ∀ m ∈ n :: u.parents n, (u'.node m).scope = (u.node m).scope) (host : Host)
    (keeps : ∀ f item, host.argsFor f item u' = host.argsFor f item u)
    (callArgs : List Json) (item : Option Json) :
    u'.resolveArgs host n callArgs item = u.resolveArgs host n callArgs item := by
  have found : ∀ key, u'.scopeGet n key = u.scopeGet n key := fun key => by
    unfold scopeGet
    rw [parents]
    generalize n :: u.parents n = walk at scopes
    induction walk with
    | nil => rfl
    | cons m rest ih =>
      simp only [List.findSome?_cons, scopes m List.mem_cons_self,
        ih fun k member => scopes k (List.mem_cons_of_mem m member)]
  have paths : u'.scopePath n = u.scopePath n := funext fun path => by
    simp only [scopePath, found]
  have substituted : u'.substitute n = u.substitute n := funext fun v => by
    cases v <;> simp only [substitute, paths]
  simp only [resolveArgs, args, settings, substituted, keeps]

namespace Rooted

variable {u u' : World} {n : NodeRef}

-- A node on the walk keeps its parent: its link, and the liveness of the node it names, which
-- is a node of the world, on the walk or not live.
theorem parent_eq (rooted : Rooted u n) (grown : Grown u u' n) {m : NodeRef}
    (member : m ∈ n :: u.parents n) : u'.parent m = u.parent m := by
  have link : (u'.node m).parent = (u.node m).parent := by
    simpa using congrArg NodeData.parent (grown.walk m member)
  unfold parent
  rw [link]
  cases link : (u.node m).parent with
  | none => rfl
  | some p =>
    have pIn : p.index < u.nodes.size := by
      by_cases live : (u.node p).live = true
      · have linked : u.parent m = some p := parent_of_link u m p link live
        exact rooted.present p (List.mem_cons_of_mem n
          (parent_mem_ancestors u _ n m p rooted.short member linked))
      · by_contra beyond
        rw [node_of_size_le u p (Nat.le_of_not_lt beyond)] at live
        exact live rfl
    simp only [grown.live p pIn]

theorem parents_eq (rooted : Rooted u n) (grown : Grown u u' n) : u'.parents n = u.parents n :=
  ancestors_eq_of_parents _ _ n rooted.short grown.grows fun _ member =>
    rooted.parent_eq grown member

theorem grow (rooted : Rooted u n) (grown : Grown u u' n) : Rooted u' n where
  short := by
    rw [rooted.parents_eq grown]
    exact Nat.lt_of_lt_of_le rooted.short grown.grows
  present m member := by
    rw [rooted.parents_eq grown] at member
    exact Nat.lt_of_lt_of_le (rooted.present m member) grown.grows
  acyclic := by
    rw [rooted.parents_eq grown]
    exact rooted.acyclic

-- The loop resolves the same arguments: its settings, its ancestors and their scopes stay.
theorem resolveArgs_eq (rooted : Rooted u n) (grown : Grown u u' n) (host : Host)
    (pure : host.PureArgs) (callArgs : List Json) (item : Option Json) :
    u'.resolveArgs host n callArgs item = u.resolveArgs host n callArgs item :=
  World.resolveArgs_eq (by simpa using congrArg NodeData.settings (grown.walk n List.mem_cons_self))
    (rooted.parents_eq grown)
    (fun m member => by simpa using congrArg NodeData.scope (grown.walk m member))
    host (fun f item => pure f item u u' trivial) callArgs item

end Rooted

-- The nodes above `L` are not among its children, so unlinking leaves the walk up from `L`.
theorem Unlinked.grown {w u : World} {L : NodeRef} {done : List NodeRef} (links : w.Links)
    (unlinked : Unlinked w u L done) : Grown w u L where
  grows := Nat.le_of_eq unlinked.size.symm
  walk m member := by
    rcases List.mem_cons.mp member with rfl | above
    · exact unlinked.own NodeData.frame (fun _ _ => rfl) (fun _ _ => rfl)
    · have higher := (links.mem_parents_iff L m).mp above
      have notL : m ≠ L := fun same => links.acyclic L (same ▸ higher)
      have notChild : m ∉ w.children L := fun child =>
        links.acyclic L (.trans (.single ((links.agree L m).mp child)) higher)
      rw [unlinked.others m notL notChild]
  live m _ := unlinked.live m

-- Growing twice is growing: the walk up is the same after the first growth.
theorem Rooted.grown_trans {u u' u'' : World} {n : NodeRef} (rooted : Rooted u n)
    (first : Grown u u' n) (second : Grown u' u'' n) : Grown u u'' n where
  grows := Nat.le_trans first.grows second.grows
  walk m member := by
    have member' : m ∈ n :: u'.parents n := by
      rw [rooted.parents_eq first]
      exact member
    rw [second.walk m member', first.walk m member]
  live m old := (second.live m (Nat.lt_of_lt_of_le old first.grows)).trans (first.live m old)

theorem node_link_ne (w : World) {p c m : NodeRef} (first : Bool) (notP : m ≠ p) (notC : m ≠ c) :
    (w.link p c first).node m = w.node m := by
  simp only [link]
  rw [node_modifyStats_ne _ _ notP, node_modifyNode_ne _ _ _ _ notP,
    node_modifyNode_ne _ _ _ _ notC]

theorem node_link_child (w : World) {p c : NodeRef} (first : Bool) (differ : c ≠ p)
    (present : c.index < w.nodes.size) :
    (w.link p c first).node c = { w.node c with parent := some p } := by
  simp only [link]
  rw [node_modifyStats_ne _ _ differ, node_modifyNode_ne _ _ _ _ differ,
    node_modifyNode_self w c _ present]

-- The parent gains a child and a count, and keeps all else.
theorem maxConcurrency_link (w : World) (p c m : NodeRef) (first : Bool) :
    (w.link p c first).maxConcurrency m = w.maxConcurrency m := by
  simp only [link]
  rw [maxConcurrency_modifyStats]
  exact ((w.modifyNode c _).maxConcurrency_modifyNode p m _ fun _ => by rfl).trans
    (w.maxConcurrency_modifyNode c m _ fun _ => by rfl)

theorem view_link_parent (w : World) {p c : NodeRef} (first : Bool) (differ : c ≠ p)
    (view : NodeData → β) (children : ∀ d l, view { d with children := l } = view d)
    (counts : ∀ d q, view { d with body := d.body.withQueue q } = view d) :
    view ((w.link p c first).node p) = view (w.node p) := by
  simp only [link]
  rw [view_modifyStats _ p p _ view counts]
  rw [(w.modifyNode c _).view_modifyNode p p _ view fun d => children d _]
  rw [node_modifyNode_ne _ _ _ _ differ.symm]

theorem children_link_last (w : World) {p c : NodeRef} (differ : c ≠ p)
    (present : p.index < w.nodes.size) : (w.link p c false).children p = w.children p ++ [c] := by
  simp only [link, children]
  rw [view_modifyStats _ p p _ NodeData.children fun _ _ => rfl,
    node_modifyNode_self _ p _ (by rw [size_modifyNode]; exact present),
    node_modifyNode_ne _ _ _ _ differ.symm]
  rfl

-- What a factory did for the loop `L`, called on `u` and leaving `u'` with the node `c`: `c` is
-- a node without a parent that is neither `L` nor above it, no node was dropped or forgotten,
-- and `L`, the nodes above it and every node that has a parent are as they were.
structure Supplied (u u' : World) (L c : NodeRef) : Prop where
  grows : u.nodes.size ≤ u'.nodes.size
  present : c.index < u'.nodes.size
  root : (u'.node c).parent = none
  notL : c ≠ L
  below : c ∉ u.parents L
  live : ∀ m, m.index < u.nodes.size → (u'.node m).live = (u.node m).live
  keeps : ∀ m, m.index < u.nodes.size → (m ∈ L :: u.parents L ∨ (u.node m).parent ≠ none) →
    (u'.node m).quieted = (u.node m).quieted

namespace Supplied

variable {u v : World} {L c : NodeRef}

theorem grown (rooted : u.Rooted L) (supplied : Supplied u v L c) : Grown u v L where
  grows := supplied.grows
  walk m member :=
    NodeData.frame_eq_of_quieted (supplied.keeps m (rooted.present m member) (.inl member))
  live := supplied.live

-- The node given was new, or had no parent already.
theorem fresh (supplied : Supplied u v L c) :
    u.nodes.size ≤ c.index ∨ (u.node c).parent = none := by
  by_cases old : c.index < u.nodes.size
  · refine .inr (Classical.byContradiction fun linked => ?_)
    have kept := congrArg NodeData.parent (supplied.keeps c old (.inr linked))
    exact linked (kept.symm.trans supplied.root)
  · exact .inl (Nat.le_of_not_lt old)

end Supplied

theorem attach_supplied {u v : World} {L c : NodeRef} (rooted : u.Rooted L)
    (supplied : Supplied u v L c) :
    v.attach L c false = ((v.link L c false).emit L "add"
      [((v.link L c false).descriptor c).toJson], .ok c) := by
  refine v.attach_of_allowed L c false ?_ (by simp [parent_of_root v c supplied.root])
  rw [rooted.parents_eq (supplied.grown rooted)]
  rintro (same | above)
  · exact supplied.notL same
  · exact supplied.below (List.contains_iff_mem.mp above)

-- What linking `c` last beneath `L` makes of `v`, the world the factory left, with `u` the world
-- before the factory: `L` gains `c` as its last child and keeps all else it held in `u` but its
-- counts, `c` gains `L` as its parent, and every other node keeps all but its listeners.
structure LinkedLast (u v v' : World) (L c : NodeRef) : Prop where
  size : v'.nodes.size = v.nodes.size
  loop : (v'.node L).body.loop? = (u.node L).body.loop?
  frame : (v'.node L).frame = (u.node L).frame
  limit : v'.maxConcurrency L = u.maxConcurrency L
  children : v'.children L = u.children L ++ [c]
  others : ∀ m, m ≠ L → m ≠ c → (v'.node m).quieted = (v.node m).quieted
  child : (v'.node c).quieted = ({ v.node c with parent := some L } : NodeData).quieted

theorem linked_last {u v : World} {L c : NodeRef} (rooted : u.Rooted L)
    (supplied : Supplied u v L c) : ∃ v', v.attach L c false = (v', .ok c) ∧ LinkedLast u v v' L c := by
  have LIn : L.index < u.nodes.size := rooted.present L List.mem_cons_self
  have atL : (v.node L).quieted = (u.node L).quieted :=
    supplied.keeps L LIn (.inl List.mem_cons_self)
  have quiet := quiet_emit (v.link L c false) L "add" [((v.link L c false).descriptor c).toJson]
  refine ⟨_, attach_supplied rooted supplied, ?_⟩
  generalize (v.link L c false).emit L "add" [((v.link L c false).descriptor c).toJson] = v'
    at quiet
  -- the event touches listeners only, so what linking did is what `link` did
  refine ⟨quiet.size.trans (link_size false), ?_, ?_, ?_, ?_, fun m notL notC => ?_, ?_⟩
  · have linked : ((v.link L c false).node L).body.loop? = (v.node L).body.loop? :=
      v.view_link_parent false supplied.notL (fun d => d.body.loop?) (fun _ _ => rfl)
        (fun d q => NodeBody.loop?_withQueue d.body q)
    rw [NodeData.body_eq_of_quieted (quiet.same L), linked, NodeData.body_eq_of_quieted atL]
  · have linked : ((v.link L c false).node L).frame = (v.node L).frame :=
      v.view_link_parent false supplied.notL NodeData.frame (fun _ _ => rfl) (fun _ _ => rfl)
    rw [NodeData.frame_eq_of_quieted (quiet.same L), linked, NodeData.frame_eq_of_quieted atL]
  · rw [maxConcurrency_eq_of_quieted (quiet.same L), maxConcurrency_link,
      maxConcurrency_eq_of_quieted atL]
  · have kept : v.children L = u.children L := NodeData.eq_of_quieted _ (fun _ => rfl) atL
    rw [quiet.children, children_link_last v supplied.notL (Nat.lt_of_lt_of_le LIn supplied.grows),
      kept]
  · rw [quiet.same m, node_link_ne v false notL notC]
  · rw [quiet.same c, node_link_child v false supplied.notL supplied.present]

end World

-- A factory that, called with `args` on any world in which the walk up from `L` ends at a
-- root, gives a node that `L` can take, as `Supplied` says.
def Supplies (host : Host) (f : NodeFactory) (args : List Json) (L : NodeRef) : Prop :=
  ∀ u : World, u.Rooted L → ∃ c u', (makeNode host f args).run u = (.ok c, u') ∧ u.Supplied u' L c

-- The factory, called with `args`, made the node `c` with the static arguments `given`.
def Gives (host : Host) (f : NodeFactory) (args : List Json) (c : NodeRef)
    (given : Option (List Json)) : Prop :=
  ∃ u u', (makeNode host f args).run u = (.ok c, u') ∧ (u'.node c).settings.args = given

-- A host factory that adds one node of a fixed body.
theorem supplies_of_addNode (host : Host) (g : HostFn) (args : List Json) (body : NodeBody)
    (L : NodeRef)
    (adds : ∀ w, host.makeNode g args w = ((w.addNode body).1, .ok (.node (w.addNode body).2))) :
    Supplies host (.host g) args L := by
  intro u rooted
  have fresh := fresh_addNode u body
  have old : ∀ m : NodeRef, m.index < u.nodes.size → (u.addNode body).1.node m = u.node m :=
    fun m below => by rw [World.node_addNode, if_neg (Nat.ne_of_lt below)]
  -- the new node comes after every node of `u`, the loop and the nodes above it among them
  have beyond : ∀ m ∈ L :: u.parents L, m ≠ (u.addNode body).2 := fun m member same =>
    Nat.not_le_of_lt (rooted.present m member) (same ▸ fresh.new)
  refine ⟨(u.addNode body).2, (u.addNode body).1, ?_,
    ⟨Nat.le_of_lt (Nat.lt_of_le_of_lt fresh.new fresh.present), fresh.present, fresh.root,
      fun same => beyond L List.mem_cons_self same.symm,
      fun above => beyond _ (List.mem_cons_of_mem L above) rfl,
      fun m below => by rw [old m below], fun m below _ => by rw [old m below]⟩⟩
  simp only [makeNode, Compile.make, Engine.run_bind, Engine.run_of, adds, Engine.run_pure]

-- The static arguments a loop's child ends with: its own when it has some, else those that the
-- loop resolved for its item.
def keptOrGiven (own : Option (List Json)) (resolved : List Json) : Option (List Json) :=
  match own with
  | some (a :: rest) => some (a :: rest)
  | _ => some resolved

namespace Run

-- The last step of an item: the child `c` takes the arguments the loop `L` resolves for the
-- item, unless it has arguments.
def giveArgs (host : Host) (L c : NodeRef) (callArgs : List Json) (item : Json) (w : World) :
    World :=
  if !w.hasArgs c then w.setArgs c (w.resolveArgs host L callArgs (some item)) else w

theorem node_giveArgs_ne (host : Host) (L : NodeRef) {c m : NodeRef} (callArgs : List Json)
    (item : Json) (w : World) (other : m ≠ c) :
    (giveArgs host L c callArgs item w).node m = w.node m := by
  unfold giveArgs
  split
  · exact w.node_modifyNode_ne c m _ other
  · rfl

-- Giving arguments changes the child's settings alone.
theorem view_giveArgs (host : Host) (L c m : NodeRef) (callArgs : List Json) (item : Json)
    (w : World) {β : Type} (view : NodeData → β)
    (same : ∀ d s, view { d with settings := s } = view d) :
    view ((giveArgs host L c callArgs item w).node m) = view (w.node m) := by
  unfold giveArgs
  split
  · exact w.view_modifyNode c m _ view fun d => same d _
  · rfl

theorem size_giveArgs (host : Host) (L c : NodeRef) (callArgs : List Json) (item : Json)
    (w : World) : (giveArgs host L c callArgs item w).nodes.size = w.nodes.size := by
  unfold giveArgs
  split
  · exact World.size_modifyNode _ _ _
  · rfl

theorem args_giveArgs (host : Host) (L c : NodeRef) (callArgs : List Json) (item : Json)
    (w : World) (present : c.index < w.nodes.size) :
    ((giveArgs host L c callArgs item w).node c).settings.args =
      keptOrGiven (w.node c).settings.args (w.resolveArgs host L callArgs (some item)) := by
  unfold giveArgs
  cases given : w.hasArgs c with
  | true =>
    -- the child keeps the arguments it has, which are not empty
    rw [Bool.not_true, if_neg Bool.false_ne_true]
    unfold World.hasArgs at given
    split at given
    · rename_i a rest stored
      rw [stored]
      rfl
    · cases given
  | false =>
    rw [Bool.not_false, if_pos rfl, World.setArgs, World.modifySettings,
      World.node_modifyNode_self w c _ present]
    unfold keptOrGiven
    split
    · rename_i a rest stored
      simp [World.hasArgs, stored] at given
    · rfl

-- The run of one item, once the factory has made `c` in `v` and linking it beneath `L` gave `v₂`.
theorem placeItem_eq {host : Host} {L : NodeRef} {callArgs : List Json} {f : NodeFactory}
    {var : String} {item : Json} {u v v₂ : World} {c : NodeRef} {q : QueueState} {l : LoopState}
    (made : (makeNode host f callArgs).run u = (.ok c, v))
    (attached : v.attach L c false = (v₂, .ok c)) (body : (v₂.node L).body = .loop q l) :
    (placeItem host L callArgs f var item).run u = (.ok (), giveArgs host L c callArgs item
      ((v₂.modifyNode L fun d =>
        { d with body := .loop q { l with made := l.made ++ [c] } }).scopeSet c var item)) := by
  simp only [placeItem, Engine.run_bind, made, Engine.run_append, attached, Engine.run_of,
    World.modifyLoop_of_loop _ L _ q l body, Engine.run_modify, Engine.run_get, Except.map]
  unfold giveArgs
  split <;> rfl

-- What placing the children `cs` for `items` beneath the loop `L` leaves of `u` in `u'`: each
-- child new or without a parent before, linked last beneath `L` in order and recorded as made,
-- with its item under `var` and its arguments; `L` keeps all else it holds, and the nodes above
-- it and every other node that had a parent keep all but their listeners.
structure Placed (host : Host) (L : NodeRef) (callArgs : List Json) (var : String)
    (f : NodeFactory) (u u' : World) (items : List Json) (cs : List NodeRef) : Prop where
  grows : u.nodes.size ≤ u'.nodes.size
  fresh : ∀ c ∈ cs, u.nodes.size ≤ c.index ∨ (u.node c).parent = none
  present : ∀ c ∈ cs, c.index < u'.nodes.size
  nodup : cs.Nodup
  children : u'.children L = u.children L ++ cs
  made : ∀ l, (u.node L).body.loop? = some l →
    (u'.node L).body.loop? = some { l with made := l.made ++ cs }
  frame : (u'.node L).frame = (u.node L).frame
  limit : u'.maxConcurrency L = u.maxConcurrency L
  walk : ∀ m ∈ u.parents L, (u'.node m).quieted = (u.node m).quieted
  linked : ∀ m, m ≠ L → m.index < u.nodes.size → (u.node m).parent ≠ none →
    (u'.node m).quieted = (u.node m).quieted
  live : ∀ m, m.index < u.nodes.size → (u'.node m).live = (u.node m).live
  each : List.Forall₂ (fun c item => (u'.node c).parent = some L ∧
    KeyMap.find? (u'.node c).scope.toKeyMap var = some item ∧
    ∃ given, Gives host f callArgs c given ∧
      (u'.node c).settings.args = keptOrGiven given (u.resolveArgs host L callArgs (some item)))
    cs items

namespace Placed

variable {host : Host} {L : NodeRef} {callArgs : List Json} {var : String} {f : NodeFactory}
  {u u₁ u' : World} {items : List Json} {cs : List NodeRef}

theorem nil (u : World) : Placed host L callArgs var f u u [] [] where
  grows := Nat.le_refl _
  fresh _ member := absurd member List.not_mem_nil
  present _ member := absurd member List.not_mem_nil
  nodup := List.nodup_nil
  children := (List.append_nil _).symm
  made l loop := by simpa using loop
  frame := rfl
  limit := rfl
  walk _ _ := rfl
  linked _ _ _ _ := rfl
  live _ _ := rfl
  each := .nil

theorem grown (placed : Placed host L callArgs var f u u' items cs) (rooted : u.Rooted L) :
    World.Grown u u' L where
  grows := placed.grows
  walk m member := by
    rcases List.mem_cons.mp member with rfl | above
    · exact placed.frame
    · exact NodeData.frame_eq_of_quieted (placed.walk m above)
  live := placed.live

theorem resolveArgs_eq (placed : Placed host L callArgs var f u u' items cs)
    (rooted : u.Rooted L) (pure : host.PureArgs) (item : Option Json) :
    u'.resolveArgs host L callArgs item = u.resolveArgs host L callArgs item :=
  rooted.resolveArgs_eq (placed.grown rooted) host pure callArgs item

theorem parents_of (placed : Placed host L callArgs var f u u' items cs) :
    ∀ c ∈ cs, (u'.node c).parent = some L :=
  ((List.forall₂_and_left cs items).mp placed.each).1

-- A node that had a parent keeps it: `L` keeps all but its children and counts, and every other
-- such node all but its listeners.
theorem parent_eq (placed : Placed host L callArgs var f u u' items cs) {m : NodeRef}
    (old : m.index < u.nodes.size) (linked : (u.node m).parent ≠ none) :
    (u'.node m).parent = (u.node m).parent := by
  by_cases atL : m = L
  · subst atL
    simpa using congrArg NodeData.parent placed.frame
  · exact NodeData.eq_of_quieted NodeData.parent (fun _ => rfl) (placed.linked m atL old linked)

-- A child placed is not the loop: the loop keeps its parent, and the child gained one.
theorem ne_of_mem (placed : Placed host L callArgs var f u u' items cs) (rooted : u.Rooted L)
    {c : NodeRef} (member : c ∈ cs) : c ≠ L := by
  rintro rfl
  have own := placed.parents_of c member
  rcases placed.fresh c member with new | free
  · exact absurd (rooted.present c List.mem_cons_self) (Nat.not_lt_of_le new)
  · have kept : (u'.node c).parent = (u.node c).parent := by
      simpa using congrArg NodeData.parent placed.frame
    rw [kept, free] at own
    cases own

-- Placing some children and then more places them all, in order: the first ones keep their
-- links, scopes and arguments through the later ones, since they have a parent, and the loop
-- resolves alike all along.
theorem trans {items₂ : List Json} {cs₂ : List NodeRef} (rooted : u.Rooted L)
    (pure : host.PureArgs) (first : Placed host L callArgs var f u u₁ items cs)
    (second : Placed host L callArgs var f u₁ u' items₂ cs₂) :
    Placed host L callArgs var f u u' (items ++ items₂) (cs ++ cs₂) where
  grows := Nat.le_trans first.grows second.grows
  fresh c member := by
    rcases List.mem_append.mp member with early | late
    · exact first.fresh c early
    · rcases second.fresh c late with new | free
      · exact .inl (Nat.le_trans first.grows new)
      · by_cases old : c.index < u.nodes.size
        · refine .inr (Classical.byContradiction fun linked => linked ?_)
          rw [← first.parent_eq old linked]
          exact free
        · exact .inl (Nat.le_of_not_lt old)
  present c member := by
    rcases List.mem_append.mp member with early | late
    · exact Nat.lt_of_lt_of_le (first.present c early) second.grows
    · exact second.present c late
  nodup := by
    refine List.nodup_append.mpr ⟨first.nodup, second.nodup, fun a early b late same => ?_⟩
    -- the first children have a parent in `u₁`; the later ones were new or without one there
    rw [← same] at late
    rcases second.fresh a late with new | free
    · exact absurd (first.present a early) (Nat.not_lt_of_le new)
    · rw [first.parents_of a early] at free
      cases free
  children := by rw [second.children, first.children, List.append_assoc]
  made l loop := by
    rw [second.made _ (first.made l loop), List.append_assoc]
  frame := second.frame.trans first.frame
  limit := second.limit.trans first.limit
  walk m above := by
    have above₁ : m ∈ u₁.parents L := by
      rw [rooted.parents_eq (first.grown rooted)]
      exact above
    exact (second.walk m above₁).trans (first.walk m above)
  linked m notL old linked := by
    have kept := first.linked m notL old linked
    have linked₁ : (u₁.node m).parent ≠ none := by
      rw [NodeData.eq_of_quieted NodeData.parent (fun _ => rfl) kept]
      exact linked
    exact (second.linked m notL (Nat.lt_of_lt_of_le old first.grows) linked₁).trans kept
  live m old := (second.live m (Nat.lt_of_lt_of_le old first.grows)).trans (first.live m old)
  each := by
    have located := (List.forall₂_and_left cs items).mpr
      ⟨fun c member => And.intro member (first.present c member), first.each⟩
    refine List.rel_append (located.imp fun c item facts => ?_)
      (second.each.imp fun c item facts => ?_)
    · obtain ⟨⟨member, present⟩, link, scope, given, gave, args⟩ := facts
      have kept := second.linked c (first.ne_of_mem rooted member) present (by simp [link])
      have keptLink := NodeData.eq_of_quieted NodeData.parent (fun _ => rfl) kept
      have keptScope := NodeData.eq_of_quieted NodeData.scope (fun _ => rfl) kept
      have keptSettings := NodeData.eq_of_quieted NodeData.settings (fun _ => rfl) kept
      exact ⟨keptLink.trans link, keptScope ▸ scope, given, gave, keptSettings ▸ args⟩
    · obtain ⟨link, scope, given, gave, args⟩ := facts
      exact ⟨link, scope, given, gave, args.trans (by rw [first.resolveArgs_eq rooted pure])⟩

end Placed

-- Once the factory gave `c` and `c` is linked: recording it as made, giving it the item and then
-- its arguments. The loop resolves what it resolved in `u`, since it and the nodes above it hold
-- what they held.
theorem placed_of_linked {host : Host} {L : NodeRef} {callArgs : List Json} {var : String}
    {f : NodeFactory} {item : Json} {u v v₂ : World} {c : NodeRef} {q : QueueState}
    {l : LoopState} (rooted : u.Rooted L) (pure : host.PureArgs)
    (made : (makeNode host f callArgs).run u = (.ok c, v))
    (supplied : u.Supplied v L c) (linked : World.LinkedLast u v v₂ L c)
    (loop : (u.node L).body.loop? = some l) (body : (v₂.node L).body = .loop q l) :
    Placed host L callArgs var f u (giveArgs host L c callArgs item
      ((v₂.modifyNode L fun d =>
        { d with body := .loop q { l with made := l.made ++ [c] } }).scopeSet c var item))
      [item] [c] := by
  have LIn : L.index < u.nodes.size := rooted.present L List.mem_cons_self
  have differ : c ≠ L := supplied.notL
  have LIn₂ : L.index < v₂.nodes.size := by
    rw [linked.size]
    exact Nat.lt_of_lt_of_le LIn supplied.grows
  have cIn₂ : c.index < v₂.nodes.size := by rw [linked.size]; exact supplied.present
  -- the loop's body records `c`; then `c` alone changes
  generalize hv₄ : (v₂.modifyNode L fun d =>
    { d with body := .loop q { l with made := l.made ++ [c] } }).scopeSet c var item = v₄
  have atL₄ : v₄.node L = { v₂.node L with body := .loop q { l with made := l.made ++ [c] } } := by
    rw [← hv₄, World.node_scopeSet_ne _ _ _ differ.symm, World.node_modifyNode_self _ L _ LIn₂]
  have atC₄ : v₄.node c = { v₂.node c with scope := (v₂.node c).scope.insert var item } := by
    rw [← hv₄, World.node_scopeSet_self _ _ _ _ (by rw [World.size_modifyNode]; exact cIn₂),
      World.node_modifyNode_ne _ _ _ _ differ]
  have size₄ : v₄.nodes.size = v.nodes.size := by
    rw [← hv₄, World.size_scopeSet, World.size_modifyNode, linked.size]
  have others₄ : ∀ m, m ≠ L → m ≠ c → (v₄.node m).quieted = (v.node m).quieted :=
    fun m notL notC => by
      rw [← hv₄, World.node_scopeSet_ne _ _ _ notC, World.node_modifyNode_ne _ _ _ _ notL,
        linked.others m notL notC]
  have frame₄ : (v₄.node L).frame = (u.node L).frame := by
    rw [atL₄]
    exact linked.frame
  have child₄ : (v₄.node c).parent = some L ∧ (v₄.node c).live = (v.node c).live ∧
      (v₄.node c).settings = (v.node c).settings := by
    have kept := linked.child
    rw [atC₄]
    have link := NodeData.eq_of_quieted NodeData.parent (fun _ => rfl) kept
    have live := NodeData.eq_of_quieted NodeData.live (fun _ => rfl) kept
    have settings := NodeData.eq_of_quieted NodeData.settings (fun _ => rfl) kept
    exact ⟨link, live, settings⟩
  -- the nodes above `L` are neither `L` nor `c`, and keep all but their listeners
  have walk₄ : ∀ m ∈ u.parents L, (v₄.node m).quieted = (u.node m).quieted := fun m above => by
    have notL : m ≠ L := fun same => rooted.acyclic (same ▸ above)
    have notC : m ≠ c := fun same => supplied.below (same ▸ above)
    have onWalk : m ∈ L :: u.parents L := List.mem_cons_of_mem L above
    rw [others₄ m notL notC, supplied.keeps m (rooted.present m onWalk) (.inl onWalk)]
  have live₄ : ∀ m, m.index < u.nodes.size → (v₄.node m).live = (u.node m).live := by
    intro m old
    by_cases atL : m = L
    · rw [atL, ← NodeData.live_frame, frame₄, NodeData.live_frame]
    · rw [← supplied.live m old]
      by_cases atC : m = c
      · rw [atC]
        exact child₄.2.1
      · exact NodeData.eq_of_quieted NodeData.live (fun _ => rfl) (others₄ m atL atC)
  have grown : World.Grown u v₄ L := by
    refine ⟨by rw [size₄]; exact supplied.grows, fun m member => ?_, live₄⟩
    rcases List.mem_cons.mp member with rfl | above
    · exact frame₄
    · exact NodeData.frame_eq_of_quieted (walk₄ m above)
  have resolved : v₄.resolveArgs host L callArgs (some item) =
      u.resolveArgs host L callArgs (some item) :=
    rooted.resolveArgs_eq grown host pure callArgs _
  have atL₅ : (giveArgs host L c callArgs item v₄).node L = v₄.node L :=
    node_giveArgs_ne host L callArgs item v₄ differ.symm
  have size₅ : (giveArgs host L c callArgs item v₄).nodes.size = v.nodes.size := by
    rw [size_giveArgs, size₄]
  refine ⟨by rw [size₅]; exact supplied.grows, fun m member => ?_, fun m member => ?_,
    List.nodup_singleton c, ?_, fun l' loop' => ?_, ?_, ?_, fun m above => ?_,
    fun m notL old parented => ?_, fun m old => ?_, .cons ⟨?_, ?_, ?_⟩ .nil⟩
  · rw [List.mem_singleton.mp member]
    exact supplied.fresh
  · rw [List.mem_singleton.mp member, size₅]
    exact supplied.present
  · rw [World.children, atL₅, atL₄]
    exact linked.children
  · rw [loop] at loop'
    cases loop'
    rw [atL₅, atL₄]
    rfl
  · rw [atL₅]
    exact frame₄
  · -- recording `c` keeps the loop's queue state, and with it its limit
    have given := view_giveArgs host L c L callArgs item v₄
      (fun d => d.body.queueState?.map QueueState.limit) (fun _ _ => rfl)
    have recorded : v₄.maxConcurrency L = v₂.maxConcurrency L := by
      simp only [World.maxConcurrency, atL₄, body, NodeBody.queueState?]
    exact given.trans (recorded.trans linked.limit)
  · have notC : m ≠ c := fun same => supplied.below (same ▸ above)
    rw [node_giveArgs_ne host L callArgs item v₄ notC]
    exact walk₄ m above
  · -- a node with a parent is not `c`, which had none or was new
    have notC : m ≠ c := by
      rintro rfl
      rcases supplied.fresh with new | free
      · exact absurd old (Nat.not_lt_of_le new)
      · exact parented free
    rw [node_giveArgs_ne host L callArgs item v₄ notC, others₄ m notL notC,
      supplied.keeps m old (.inr parented)]
  · rw [view_giveArgs host L c m callArgs item v₄ NodeData.live (fun _ _ => rfl)]
    exact live₄ m old
  · rw [view_giveArgs host L c c callArgs item v₄ NodeData.parent (fun _ _ => rfl)]
    exact child₄.1
  · rw [view_giveArgs host L c c callArgs item v₄ NodeData.scope (fun _ _ => rfl), atC₄]
    exact KeyMap.find?_insert_self _ var item
  · refine ⟨(v.node c).settings.args, ⟨u, v, made, rfl⟩, ?_⟩
    rw [args_giveArgs host L c callArgs item v₄ (by rw [size₄]; exact supplied.present),
      child₄.2.2, resolved]

-- One item: the factory's node is linked last beneath the loop, then recorded and given its
-- item and arguments.
theorem placeItem_run (host : Host) (pure : host.PureArgs) (L : NodeRef) (callArgs : List Json)
    (f : NodeFactory) (var : String) (item : Json) (supplies : Supplies host f callArgs L) (u : World)
    (rooted : u.Rooted L) (l : LoopState) (loop : (u.node L).body.loop? = some l) :
    ∃ c u', (placeItem host L callArgs f var item).run u = (.ok (), u') ∧
      Placed host L callArgs var f u u' [item] [c] := by
  obtain ⟨c, v, made, supplied⟩ := supplies u rooted
  obtain ⟨v₂, attached, linked⟩ := World.linked_last rooted supplied
  obtain ⟨q, body⟩ := NodeBody.eq_loop_of_loop? (linked.loop.trans loop)
  exact ⟨c, _, placeItem_eq made attached body,
    placed_of_linked rooted pure made supplied linked loop body⟩

-- The items one after the other, each placed beneath the loop as `placeItem_run` says.
theorem items_placed (host : Host) (pure : host.PureArgs) (L : NodeRef) (callArgs : List Json)
    (f : NodeFactory) (var : String) (supplies : Supplies host f callArgs L) :
    ∀ (items : List Json) (u : World), u.Rooted L → ∀ l, (u.node L).body.loop? = some l →
      ∃ cs u', (items.forM (placeItem host L callArgs f var)).run u = (.ok (), u') ∧
        Placed host L callArgs var f u u' items cs
  | [], u, _, _, _ => ⟨[], u, rfl, Placed.nil u⟩
  | item :: rest, u, rooted, l, loop => by
    obtain ⟨c, u₁, ran, first⟩ :=
      placeItem_run host pure L callArgs f var item supplies u rooted l loop
    obtain ⟨cs, u', ranRest, second⟩ := items_placed host pure L callArgs f var supplies rest u₁
      (rooted.grow (first.grown rooted)) _ (first.made l loop)
    refine ⟨c :: cs, u', ?_, first.trans rooted pure second⟩
    simp only [List.forM_eq_forM, List.forM_cons, Engine.run_bind, ran]
    exact ranRest

theorem quiet_ctxResolvePath (w : World) (c : ContextRef) (path : String) :
    World.Quiet w (w.ctxResolvePath c path).1 :=
  w.quiet_ctxNotify c _ _

-- Reading a source reads a context at most, and the read raises that context's event only.
theorem evalSource_quiet (src : ItemSource) (w : World) : World.Quiet w (evalSource src w).2 := by
  cases src with
  | clause ctx spec =>
    simp only [evalSource]
    cases spec.of with
    | str path =>
      simp only [bind_apply, change_apply]
      refine (quiet_ctxResolvePath w ctx path).trans ?_
      -- whatever the path resolves to, the answer is given without a change
      cases (w.ctxResolvePath ctx path).snd with
      | none => exact .refl _
      | some v =>
        dsimp only
        cases v.isNull <;> exact .refl _
    | _ => exact .refl w
  | value var v => exact .refl w
  | items var items => exact .refl w

-- What a source binds depends on the contexts alone.
theorem evalSource_contexts (src : ItemSource) {u w : World} (same : u.contexts = w.contexts) :
    (evalSource src u).1 = (evalSource src w).1 := by
  have read : ∀ c path, (u.ctxResolvePath c path).2 = (w.ctxResolvePath c path).2 := by
    intro c path
    simp only [World.ctxResolvePath, World.ctxGet, World.context, same]
  cases src with
  | clause ctx spec =>
    simp only [evalSource]
    cases spec.of with
    | str path =>
      simp only [bind_apply, change_apply, read]
      cases (w.ctxResolvePath ctx path).snd with
      | none => rfl
      | some v =>
        dsimp only
        cases v.isNull <;> rfl
    | _ => rfl
  | value var v => rfl
  | items var items => rfl

structure Materialized (host : Host) (L : NodeRef) (callArgs : List Json) (var : String)
    (f : NodeFactory) (l : LoopState) (w w' : World) (items : List Json) (cs : List NodeRef) :
    Prop where
  children : w'.children L = (w.children L).filter (· ∉ l.made) ++ cs
  made : (w'.node L).body.loop? = some { l with made := cs }
  settings : (w'.node L).settings = (w.node L).settings
  limit : w'.maxConcurrency L = w.maxConcurrency L
  nodup : cs.Nodup
  each : List.Forall₂ (fun c item => (w'.node c).parent = some L ∧
    KeyMap.find? (w'.node c).scope.toKeyMap var = some item ∧
    ∃ given, Gives host f callArgs c given ∧
      (w'.node c).settings.args = keptOrGiven given (w.resolveArgs host L callArgs (some item)))
    cs items

-- What unlinking one child keeps, unlinking the children of the last run keeps.
theorem unlinkAll_keeps {β : Type} (view : World → β) (L : NodeRef)
    (keeps : ∀ u c, view (u.remove L c).1 = view u) :
    ∀ (w : World) (made : List NodeRef), view (w.unlinkAll L made) = view w
  | _, [] => rfl
  | w, c :: rest => (unlinkAll_keeps view L keeps (w.remove L c).1 rest).trans (keeps w c)

-- The loop's work, phase by phase: unlinking, clearing the record of what it made, reading the
-- source, which binds what it binds at the start, and placing the items.
theorem materialize_run (host : Host) (pure : host.PureArgs) (L : NodeRef) (callArgs : List Json)
    (w : World) (links : w.Links) (present : L.index < w.nodes.size) (q : QueueState) (l : LoopState)
    (loop : (w.node L).body = .loop q l) (src : ItemSource) (source : l.source = some src)
    (var : String) (items : List Json) (reads : (evalSource src w).1 = .ok ⟨var, items⟩)
    (f : NodeFactory) (factory : l.factory = some f) (supplies : Supplies host f callArgs L) :
    ∃ cs w', (materialize host L callArgs).run w = (.ok (), w') ∧
      Materialized host L callArgs var f l w w' items cs := by
  -- unlinking the children of the last run
  obtain ⟨u, hu⟩ : ∃ u, w.unlinkAll L l.made = u := ⟨_, rfl⟩
  have unlinked := World.unlinked_all links L l.made
  have contexts := unlinkAll_keeps World.contexts L
    (fun v c => by unfold World.remove; split <;> rfl) w l.made
  rw [hu] at unlinked contexts
  have loop₁ : (u.node L).body.loop? = some l := by
    rw [unlinked.own (fun d => d.body.loop?) (fun _ _ => rfl)
      (fun d q => NodeBody.loop?_withQueue d.body q), loop]
    rfl
  obtain ⟨q₁, body₁⟩ := NodeBody.eq_loop_of_loop? loop₁
  have LIn : L.index < u.nodes.size := by rw [unlinked.size]; exact present
  -- clearing the record, then reading the source, which raises a context's events at most
  obtain ⟨u₁, hu₁⟩ : ∃ u₁,
      u.modifyNode L (fun d => { d with body := .loop q₁ { l with made := [] } }) = u₁ :=
    ⟨_, rfl⟩
  have atL₁ : u₁.node L = { u.node L with body := .loop q₁ { l with made := [] } } := by
    rw [← hu₁, World.node_modifyNode_self _ L _ LIn]
  have other₁ : ∀ m, m ≠ L → u₁.node m = u.node m := fun m notL => by
    rw [← hu₁, World.node_modifyNode_ne _ _ _ _ notL]
  have read : (evalSource src u₁).1 = .ok ⟨var, items⟩ := by
    rw [evalSource_contexts src (show u₁.contexts = w.contexts by rw [← hu₁]; exact contexts),
      reads]
  obtain ⟨u₂, hu₂⟩ : ∃ u₂, (evalSource src u₁).2 = u₂ := ⟨_, rfl⟩
  have quiet : World.Quiet u₁ u₂ := hu₂ ▸ evalSource_quiet src u₁
  have size₂ : u₂.nodes.size = w.nodes.size := by
    rw [quiet.size, ← hu₁, World.size_modifyNode, unlinked.size]
  have others₂ : ∀ m, m ≠ L → (u₂.node m).quieted = (u.node m).quieted := fun m notL => by
    rw [quiet.same m, other₁ m notL]
  have frame₂ : (u₂.node L).frame = (u.node L).frame := by
    rw [NodeData.frame_eq_of_quieted (quiet.same L), atL₁]
    rfl
  have rooted := links.rooted present
  have grown : World.Grown w u₂ L := rooted.grown_trans (unlinked.grown links)
    (.of_quieted (rooted.grow (unlinked.grown links)).present
      (Nat.le_of_eq (by rw [size₂, unlinked.size])) frame₂ fun m notL _ => others₂ m notL)
  have loop₂ : (u₂.node L).body.loop? = some { l with made := [] } := by
    rw [NodeData.body_eq_of_quieted (quiet.same L), atL₁]
    rfl
  -- placing the items
  obtain ⟨cs, u₃, ran, placed⟩ :=
    items_placed host pure L callArgs f var supplies items u₂ (rooted.grow grown) _ loop₂
  have resolved := rooted.resolveArgs_eq grown host pure callArgs
  refine ⟨cs, u₃, ?_, ⟨?_, ?_, ?_, ?_, placed.nodup, ?_⟩⟩
  · simp only [materialize, Engine.run_bind, Engine.run_get, loop, source, factory]
    rw [Engine.forIn_yield _ (fun u c => (u.remove L c).1) (fun _ _ => rfl)]
    simp only [Engine.run_of]
    rw [show List.foldl (fun u c => (u.remove L c).1) w l.made = u from hu,
      World.modifyLoop_of_loop _ L _ q₁ l body₁, hu₁]
    simp only [ExceptT.run_lift, map_apply, read, Engine.run_bind, Engine.run_pure, hu₂]
    exact ran
  · rw [placed.children, quiet.children, World.children, atL₁, ← unlinked.children]
    rfl
  · have recorded := placed.made _ loop₂
    simpa using recorded
  · have kept := congrArg NodeData.settings (placed.frame.trans (frame₂.trans
      (unlinked.own NodeData.frame (fun _ _ => rfl) (fun _ _ => rfl))))
    exact kept
  · have cleared : u₁.maxConcurrency L = u.maxConcurrency L := by
      simp only [World.maxConcurrency, atL₁, body₁, NodeBody.queueState?]
    rw [placed.limit, World.maxConcurrency_eq_of_quieted (quiet.same L), cleared, ← hu]
    exact unlinkAll_keeps (·.maxConcurrency L) L (fun v c => v.maxConcurrency_remove L c L) w l.made
  · refine placed.each.imp fun c item facts => ?_
    obtain ⟨link, scope, given, gave, args⟩ := facts
    exact ⟨link, scope, given, gave, args.trans (by rw [resolved])⟩

namespace Materialized

variable {host : Host} {L : NodeRef} {callArgs : List Json} {var : String} {f : NodeFactory}
  {l : LoopState} {w w₁ w₂ : World} {items : List Json} {cs : List NodeRef}

-- What the work makes of the children reads only what a move of the loop's state leaves.
theorem of_shaped (shaped : World.Shaped w w₁) (pure : host.PureArgs)
    (made : Materialized host L callArgs var f l w₁ w₂ items cs) :
    Materialized host L callArgs var f l w w₂ items cs where
  children := by rw [made.children, shaped.children]
  made := made.made
  settings := by rw [made.settings, shaped.settings]
  limit := by rw [made.limit, shaped.maxConcurrency]
  nodup := made.nodup
  each := made.each.imp fun _ _ facts =>
    ⟨facts.1, facts.2.1, facts.2.2.imp fun _ given => ⟨given.1, by rw [given.2, shaped.resolveArgs host fun f item => pure f item w w₁ trivial]⟩⟩

end Materialized

end Run

end TaskTree
