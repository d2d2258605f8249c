import TaskTree.Proofs.Frames
import Mathlib.Logic.Relation
import Mathlib.Data.List.Perm.Subperm
import Mathlib.Data.List.Nodup

set_option autoImplicit false

namespace TaskTree

def NodeData.quieted (d : NodeData) : NodeData := { d with listeners := {} }

namespace World

def Alive (w : World) : Prop := ∀ n, (w.node n).live = true

def Above (w : World) (a n : NodeRef) : Prop :=
  Relation.TransGen (fun a n => w.parent n = some a) a n

structure Links (w : World) : Prop where
  agree : ∀ p c, c ∈ w.children p ↔ w.parent c = some p
  nodup : ∀ p, (w.children p).Nodup
  acyclic : ∀ n, ¬w.Above n n

def Counted (w : World) : Prop :=
  ∀ p s, w.jobStats p = some s → s.total = (w.children p).length

theorem node_of_size_le (w : World) (n : NodeRef) (beyond : w.nodes.size ≤ n.index) :
    w.node n = default := by
  simp [node, beyond]

theorem node_modifyNode (w : World) (n m : NodeRef) (f : NodeData → NodeData) :
    (w.modifyNode n f).node m =
      if m = n ∧ n.index < w.nodes.size then f (w.node m) else w.node m := by
  by_cases same : m = n
  · subst same
    by_cases present : m.index < w.nodes.size
    · simp [node_modifyNode_self w m f present, present]
    · simp [node, modifyNode, present]
  · simp [node_modifyNode_ne w n m f same, same]

-- A change of a queue's counts changes the body of one node and nothing else.
theorem node_modifyStats (w : World) (n m : NodeRef) (f : JobStats → JobStats) :
    ∃ b, (w.modifyStats n f).node m = { w.node m with body := b } := by
  simp only [modifyStats, modifyQueue]
  rw [node_modifyNode]
  split
  · split
    · exact ⟨_, rfl⟩
    · exact ⟨_, rfl⟩
  · exact ⟨_, rfl⟩

theorem size_modifyNode (w : World) (n : NodeRef) (f : NodeData → NodeData) :
    (w.modifyNode n f).nodes.size = w.nodes.size := by
  simp [modifyNode]

theorem present_of_link (w : World) {m p : NodeRef} (link : (w.node m).parent = some p) :
    m.index < w.nodes.size := by
  by_contra beyond
  rw [node_of_size_le w m (Nat.le_of_not_lt beyond)] at link
  cases link

theorem parent_of_alive {w : World} (alive : w.Alive) (m : NodeRef) :
    w.parent m = (w.node m).parent := by
  cases link : (w.node m).parent with
  | none => exact parent_of_root w m link
  | some p => exact parent_of_link w m p link (alive p)

theorem link_of_parent (w : World) {m p : NodeRef} (linked : w.parent m = some p) :
    (w.node m).parent = some p := by
  unfold parent at linked
  split at linked
  · rename_i q link
    by_cases live : (w.node q).live = true
    · rw [if_pos live] at linked
      rw [link, linked]
    · rw [if_neg live] at linked
      cases linked
  · cases linked

theorem Above.top {w : World} {a n : NodeRef} (above : w.Above a n) : ∃ m, w.parent m = some a := by
  induction above with
  | single linked => exact ⟨_, linked⟩
  | tail _ _ ih => exact ih

-- The first step up from the lower end of a chain.
theorem Above.bottom {w : World} {a n : NodeRef} (above : w.Above a n) :
    ∃ p, w.parent n = some p ∧ (a = p ∨ w.Above a p) := by
  cases above with
  | single linked => exact ⟨a, linked, .inl rfl⟩
  | tail higher linked => exact ⟨_, linked, .inr higher⟩

theorem above_of_mem_ancestors (w : World) :
    ∀ (k : Nat) (n a : NodeRef), a ∈ w.ancestors k n → w.Above a n
  | 0, _, _, member => absurd member List.not_mem_nil
  | k + 1, n, a, member => by
    cases linked : w.parent n with
    | none => simp [ancestors, linked] at member
    | some p =>
      rw [ancestors_of_parent w k n p linked, List.mem_cons] at member
      rcases member with same | later
      · subst same
        exact .single linked
      · exact .tail (above_of_mem_ancestors w k p a later) linked

-- A walk that misses an ancestor used all of its steps.
theorem ancestors_length_of_missing (w : World) :
    ∀ (k : Nat) (n a : NodeRef), w.Above a n → a ∉ w.ancestors k n → (w.ancestors k n).length = k
  | 0, _, _, _, _ => rfl
  | k + 1, n, a, above, missing => by
    obtain ⟨p, linked, higher⟩ := above.bottom
    rw [ancestors_of_parent w k n p linked, List.mem_cons, not_or] at missing
    have above' : w.Above a p := higher.resolve_left missing.1
    rw [ancestors_of_parent w k n p linked, List.length_cons,
      ancestors_length_of_missing w k p a above' missing.2]

-- A walk that stopped before its steps ran out ends at a node without a parent.
theorem ancestors_end (w : World) :
    ∀ (k : Nat) (n : NodeRef), (w.ancestors k n).length < k →
      w.parent ((w.ancestors k n).getLast?.getD n) = none
  | 0, _, short => absurd short (Nat.not_lt_zero _)
  | k + 1, n, short => by
    cases linked : w.parent n with
    | none => simp [ancestors, linked]
    | some p =>
      rw [ancestors_of_parent w k n p linked, List.length_cons] at short
      rw [ancestors_of_parent w k n p linked, List.getLast?_cons, Option.getD_some]
      exact ancestors_end w k p (Nat.lt_of_succ_lt_succ short)

theorem length_le_of_present {l : List NodeRef} {size : Nat} (nodup : l.Nodup)
    (present : ∀ m ∈ l, m.index < size) : l.length ≤ size := by
  have injective : Function.Injective NodeRef.index := fun a b same => by
    cases a
    cases b
    simp_all
  have within : l.map NodeRef.index ⊆ List.range size := fun i member => by
    obtain ⟨m, mem, rfl⟩ := List.mem_map.mp member
    exact List.mem_range.mpr (present m mem)
  simpa using ((List.Nodup.map injective nodup).subperm within).length_le

-- With no cycle, the walk up from a node never comes back to a node it passed.
theorem ancestors_nodup_of_acyclic (w : World) (acyclic : ∀ n, ¬w.Above n n) :
    ∀ (k : Nat) (n : NodeRef), (n :: w.ancestors k n).Nodup
  | 0, n => List.pairwise_singleton _ n
  | k + 1, n => by
    cases linked : w.parent n with
    | none => simp [ancestors, linked]
    | some p =>
      rw [ancestors_of_parent w k n p linked]
      refine List.nodup_cons.mpr ⟨fun member => ?_, ancestors_nodup_of_acyclic w acyclic k p⟩
      rcases List.mem_cons.mp member with same | later
      · subst same
        exact acyclic n (.single linked)
      · exact acyclic n (.tail (above_of_mem_ancestors w k p n later) linked)

-- A walk that misses a node above passes only nodes that have a parent.
theorem linked_of_missing (w : World) :
    ∀ (k : Nat) (n a : NodeRef), w.Above a n → a ∉ w.ancestors k n →
      ∀ m ∈ n :: w.ancestors k n, (w.parent m).isSome
  | 0, n, a, above, _, m, member => by
    obtain ⟨p, linked, -⟩ := above.bottom
    rw [List.mem_singleton.mp member, linked]
    rfl
  | k + 1, n, a, above, missing, m, member => by
    obtain ⟨p, linked, higher⟩ := above.bottom
    rw [ancestors_of_parent w k n p linked, List.mem_cons, not_or] at missing
    rw [ancestors_of_parent w k n p linked] at member
    rcases List.mem_cons.mp member with same | later
    · rw [same, linked]
      rfl
    · exact linked_of_missing w k p a (higher.resolve_left missing.1) missing.2 m later

-- With no cycle, `parents` lists every node above: the walk is cut short by no bound, since
-- the nodes it passes are distinct nodes of the world.
theorem mem_parents_of_above (w : World) (acyclic : ∀ n, ¬w.Above n n) {a n : NodeRef}
    (above : w.Above a n) : a ∈ w.parents n := by
  by_contra missing
  have full := ancestors_length_of_missing w _ n a above missing
  have within : ∀ m ∈ n :: w.parents n, m.index < w.nodes.size := fun m member => by
    obtain ⟨p, linked⟩ := Option.isSome_iff_exists.mp
      (linked_of_missing w _ n a above missing m member)
    exact present_of_link w (link_of_parent w linked)
  have bound := length_le_of_present (ancestors_nodup_of_acyclic w acyclic _ n) within
  rw [List.length_cons, full] at bound
  exact Nat.lt_irrefl _ bound

namespace Links

variable {w : World}

theorem present (links : w.Links) {p c : NodeRef} (linked : w.parent c = some p) :
    p.index < w.nodes.size := by
  have member := (links.agree p c).mpr linked
  by_contra beyond
  rw [children, node_of_size_le w p (Nat.le_of_not_lt beyond)] at member
  cases member

-- No node is its own parent.
theorem ne_of_parent (links : w.Links) {p c : NodeRef} (linked : w.parent c = some p) : c ≠ p :=
  fun same => links.acyclic c (.single (same ▸ linked))

theorem ancestors_nodup (links : w.Links) (k : Nat) (n : NodeRef) :
    (n :: w.ancestors k n).Nodup :=
  ancestors_nodup_of_acyclic w links.acyclic k n

-- The node and its ancestors are distinct nodes of the world, so fewer ancestors than nodes.
theorem parents_short (links : w.Links) {n p : NodeRef}
    (linked : w.parent n = some p) : (w.parents n).length < w.nodes.size := by
  have within : ∀ m ∈ n :: w.parents n, m.index < w.nodes.size := by
    intro m member
    rcases List.mem_cons.mp member with same | later
    · subst same
      exact present_of_link w (link_of_parent w linked)
    · obtain ⟨child, linkedTo⟩ := (above_of_mem_ancestors w _ n m later).top
      exact links.present linkedTo
  have bound := length_le_of_present (links.ancestors_nodup w.nodes.size n) within
  rw [List.length_cons] at bound
  exact bound

theorem mem_parents_iff (links : w.Links) (n a : NodeRef) :
    a ∈ w.parents n ↔ w.Above a n := by
  refine ⟨above_of_mem_ancestors w _ n a, fun above => ?_⟩
  by_contra missing
  have full := ancestors_length_of_missing w _ n a above missing
  obtain ⟨p, linked, -⟩ := above.bottom
  have short := links.parents_short linked
  rw [parents, full] at short
  exact Nat.lt_irrefl _ short

theorem parent_root (links : w.Links) (n : NodeRef) :
    w.parent (w.root n) = none := by
  cases linked : w.parent n with
  | none => simp [root, parents_of_parent_none w n linked, linked]
  | some p => exact ancestors_end w _ n (links.parents_short linked)

end Links

structure Quiet (w w' : World) : Prop where
  size : w'.nodes.size = w.nodes.size
  same : ∀ m, (w'.node m).quieted = (w.node m).quieted

namespace Quiet

variable {w w₁ w₂ : World}

theorem refl (w : World) : Quiet w w := ⟨rfl, fun _ => rfl⟩

theorem trans (first : Quiet w w₁) (second : Quiet w₁ w₂) : Quiet w w₂ :=
  ⟨second.size.trans first.size, fun m => (second.same m).trans (first.same m)⟩

theorem foldl {β : Type} (l : List β) (f : World → β → World) (step : ∀ w b, Quiet w (f w b))
    (w : World) : Quiet w (l.foldl f w) := by
  induction l generalizing w with
  | nil => exact refl w
  | cons b rest ih => exact (step w b).trans (ih (f w b))

theorem of_nodes (nodes : w₁.nodes = w.nodes) : Quiet w w₁ :=
  ⟨by rw [nodes], fun m => by simp only [node, nodes]⟩

theorem children (quiet : Quiet w w₁) (m : NodeRef) : w₁.children m = w.children m := by
  have same := congrArg NodeData.children (quiet.same m)
  exact same

theorem link (quiet : Quiet w w₁) (m : NodeRef) : (w₁.node m).parent = (w.node m).parent := by
  have same := congrArg NodeData.parent (quiet.same m)
  exact same

theorem live (quiet : Quiet w w₁) (m : NodeRef) : (w₁.node m).live = (w.node m).live := by
  have same := congrArg NodeData.live (quiet.same m)
  exact same

theorem state (quiet : Quiet w w₁) (m : NodeRef) : w₁.state m = w.state m := by
  have same := congrArg NodeData.state (quiet.same m)
  exact same

theorem jobStats (quiet : Quiet w w₁) (m : NodeRef) : w₁.jobStats m = w.jobStats m := by
  have same := congrArg NodeData.body (quiet.same m)
  simp only [World.jobStats]
  rw [show (w₁.node m).body = (w.node m).body from same]

theorem parent (quiet : Quiet w w₁) (m : NodeRef) : w₁.parent m = w.parent m :=
  parent_eq_of_link w w₁ m (quiet.link m) quiet.live

theorem alive (quiet : Quiet w w₁) (alive : w.Alive) : w₁.Alive :=
  fun m => (quiet.live m).trans (alive m)

end Quiet

theorem quiet_ctxNotify (w : World) (c : ContextRef) (event : String) (args : List Json) :
    Quiet w (w.ctxNotify c event args) := by
  simp only [ctxNotify]
  refine Quiet.trans ?_ (Quiet.foldl _ _ (fun _ _ => ?_) _) <;> exact Quiet.of_nodes rfl

theorem quiet_handle (w : World) (target : NodeRef) (shown : Descriptor) (event : String)
    (args : List Json) (h : Handler) : Quiet w (w.handle target shown event args h) := by
  cases h with
  | record tag => exact Quiet.of_nodes rfl
  | keepResult ctx key owner =>
    simp only [handle]
    split
    · simp only [ctxSet]
      refine Quiet.trans ?_ (quiet_ctxNotify _ ctx _ _)
      exact Quiet.of_nodes rfl
    · exact Quiet.refl w

theorem quiet_modifyListeners (w : World) (n : NodeRef) (f : Listeners Handler → Listeners Handler) :
    Quiet w (w.modifyListeners n f) :=
  ⟨w.size_modifyNode n _, fun m =>
    w.view_modifyNode n m (fun d => { d with listeners := f d.listeners }) NodeData.quieted
      (fun _ => rfl)⟩

theorem quiet_dispatch (w : World) (hearer target : NodeRef) (event : String)
    (args : List Json) : Quiet w (w.dispatch hearer target event args) :=
  (w.quiet_modifyListeners hearer _).trans
    (Quiet.foldl _ _ (fun w h => w.quiet_handle target _ event args h) _)

theorem quiet_emit (w : World) (n : NodeRef) (event : String) (args : List Json) :
    Quiet w (w.emit n event args) :=
  (w.quiet_dispatch n n event args).trans
    (Quiet.foldl _ _ (fun w a => w.quiet_dispatch a n event args) _)

-- Links read children and parents only.
theorem Links.congr {w w' : World} (links : w.Links) (children : ∀ n, w'.children n = w.children n)
    (parent : ∀ n, w'.parent n = w.parent n) : w'.Links := by
  have above : w'.Above = w.Above := by
    funext a n
    simp only [Above, parent]
  refine ⟨fun p c => ?_, fun p => ?_, fun n => ?_⟩
  · rw [children, parent]
    exact links.agree p c
  · rw [children]
    exact links.nodup p
  · rw [above]
    exact links.acyclic n

theorem Links.quiet {w w' : World} (links : w.Links) (quiet : Quiet w w') : w'.Links :=
  links.congr quiet.children quiet.parent

theorem jobStats_modifyStats (w : World) (n m : NodeRef) (f : JobStats → JobStats)
    (present : n.index < w.nodes.size) :
    (w.modifyStats n f).jobStats m = if m = n then (w.jobStats n).map f else w.jobStats m := by
  by_cases same : m = n
  · subst same
    simp only [jobStats, modifyStats, modifyQueue, node_modifyNode_self w m _ present, if_true]
    cases has : (w.node m).body.queueState? with
    | none => simp [has]
    | some q => cases body : (w.node m).body <;> simp_all [NodeBody.queueState?, NodeBody.withQueue]
  · simp only [if_neg same, jobStats, modifyStats, modifyQueue, node_modifyNode_ne w n m _ same]

def link (w : World) (parent child : NodeRef) (first : Bool) : World :=
  let w := w.modifyNode child fun d => { d with parent := some parent }
  let w := w.modifyNode parent fun d =>
    { d with children := if first then child :: d.children else d.children ++ [child] }
  w.modifyStats parent fun s => { s with total := s.total + 1 }

def Refused (w : World) (parent child : NodeRef) : Prop :=
  child = parent ∨ w.Above child parent ∨ (w.parent child).isSome

theorem attach_of_allowed (w : World) (parent child : NodeRef) (first : Bool)
    (notBelow : ¬(child = parent ∨ (w.parents parent).contains child = true))
    (free : ¬(w.parent child).isSome = true) :
    w.attach parent child first = ((w.link parent child first).emit parent "add"
      [((w.link parent child first).descriptor child).toJson], .ok child) := by
  unfold attach
  rw [if_neg notBelow, if_neg free]
  rfl

structure Attached (w w' : World) (p c : NodeRef) (first : Bool) : Prop where
  children_self : w'.children p = if first then c :: w.children p else w.children p ++ [c]
  parent_self : w'.parent c = some p
  children_other : ∀ m, m ≠ p → w'.children m = w.children m
  parent_other : ∀ m, m ≠ c → w'.parent m = w.parent m
  stats : ∀ m, w'.jobStats m =
    if m = p then (w.jobStats p).map (fun s => { s with total := s.total + 1 }) else w.jobStats m

structure Detached (w w' : World) (p c : NodeRef) : Prop where
  children_self : w'.children p = (w.children p).erase c
  parent_self : w'.parent c = none
  children_other : ∀ m, m ≠ p → w'.children m = w.children m
  parent_other : ∀ m, m ≠ c → w'.parent m = w.parent m
  stats_self : w'.jobStats p = (w.jobStats p).map (fun s => { s with total := s.total - 1 })
  stats_other : ∀ m, m ≠ p → w'.jobStats m = w.jobStats m

theorem Attached.quiet {w w₁ w₂ : World} {p c : NodeRef} {first : Bool}
    (attached : Attached w w₁ p c first) (quiet : Quiet w₁ w₂) : Attached w w₂ p c first where
  children_self := (quiet.children p).trans attached.children_self
  parent_self := (quiet.parent c).trans attached.parent_self
  children_other m other := (quiet.children m).trans (attached.children_other m other)
  parent_other m other := (quiet.parent m).trans (attached.parent_other m other)
  stats m := (quiet.jobStats m).trans (attached.stats m)

section Link

variable {w : World} {p c : NodeRef} (first : Bool)

-- The node data after linking, before the counts change.
theorem node_link_links (differ : c ≠ p) (pIn : p.index < w.nodes.size)
    (cIn : c.index < w.nodes.size) (m : NodeRef) :
    ∃ b, (w.link p c first).node m =
      if m = p then
        { w.node p with
          children := if first then c :: w.children p else w.children p ++ [c]
          body := b }
      else if m = c then { w.node c with parent := some p, body := b }
      else { w.node m with body := b } := by
  obtain ⟨b, counted⟩ := node_modifyStats
    ((w.modifyNode c fun d => { d with parent := some p }).modifyNode p fun d =>
      { d with children := if first then c :: d.children else d.children ++ [c] }) p m
    (fun s => { s with total := s.total + 1 })
  refine ⟨b, ?_⟩
  simp only [link, counted, node_modifyNode, size_modifyNode, pIn, cIn, and_true]
  by_cases atParent : m = p
  · subst atParent
    simp [differ.symm, children]
  · by_cases atChild : m = c
    · subst atChild
      simp [atParent]
    · simp [atParent, atChild]

theorem link_size : (w.link p c first).nodes.size = w.nodes.size := by
  simp only [link, modifyStats, modifyQueue, size_modifyNode]

theorem attached_link (alive : w.Alive) (differ : c ≠ p) (pIn : p.index < w.nodes.size)
    (cIn : c.index < w.nodes.size) : Attached w (w.link p c first) p c first ∧ (w.link p c first).Alive := by
  have node := node_link_links first differ pIn cIn
  have live : ∀ m, ((w.link p c first).node m).live = (w.node m).live := fun m => by
    obtain ⟨b, eq⟩ := node m
    rw [eq]
    by_cases atParent : m = p
    · rw [if_pos atParent, atParent]
    · by_cases atChild : m = c
      · rw [if_neg atParent, if_pos atChild, atChild]
      · rw [if_neg atParent, if_neg atChild]
  have alive' : (w.link p c first).Alive := fun m => (live m).trans (alive m)
  have children : ∀ m, m ≠ p → (w.link p c first).children m = w.children m := fun m other => by
    obtain ⟨b, eq⟩ := node m
    simp only [World.children, eq, if_neg other]
    by_cases atChild : m = c
    · rw [if_pos atChild, atChild]
    · rw [if_neg atChild]
  have parent : ∀ m, m ≠ c → (w.link p c first).parent m = w.parent m := fun m other => by
    obtain ⟨b, eq⟩ := node m
    rw [parent_of_alive alive', parent_of_alive alive, eq]
    by_cases atParent : m = p
    · rw [if_pos atParent, atParent]
    · rw [if_neg atParent, if_neg other]
  refine ⟨⟨?_, ?_, children, parent, fun m => ?_⟩, alive'⟩
  · obtain ⟨b, eq⟩ := node p
    simp only [World.children, eq, if_true]
  · obtain ⟨b, eq⟩ := node c
    rw [parent_of_alive alive', eq, if_neg differ, if_pos rfl]
  · have pIn₂ : p.index < ((w.modifyNode c fun d => { d with parent := some p }).modifyNode p
        fun d => { d with children := if first then c :: d.children else d.children ++ [c] }).nodes.size := by
      simpa only [size_modifyNode] using pIn
    simp only [link]
    rw [jobStats_modifyStats _ _ _ _ pIn₂]
    simp only [jobStats, node_modifyNode, size_modifyNode, pIn, cIn, and_true]
    by_cases atParent : m = p
    · subst atParent
      simp [differ.symm]
    · by_cases atChild : m = c
      · subst atChild
        simp [atParent]
      · simp [atParent, atChild]

end Link

section Remove

variable {w : World} {p c : NodeRef}

theorem remove_of_not_mem (missing : c ∉ w.children p) : w.remove p c = (w, false) := by
  simp only [remove, List.idxOf?_eq_none_iff.mpr missing]

-- The node data after unlinking, with the changed counts left open.
theorem node_remove (member : c ∈ w.children p) (differ : c ≠ p) (pIn : p.index < w.nodes.size)
    (cIn : c.index < w.nodes.size) (m : NodeRef) :
    (w.remove p c).2 = true ∧ ∃ b, (w.remove p c).1.node m =
      if m = p then { w.node p with children := (w.children p).erase c, body := b }
      else if m = c then { w.node c with parent := none, body := b }
      else { w.node m with body := b } := by
  obtain ⟨i, found⟩ := Option.ne_none_iff_exists'.mp
    (fun none => (List.idxOf?_eq_none_iff.mp none) member)
  have erased : (w.node p).children.eraseIdx i = (w.children p).erase c := by
    rw [List.erase_eq_eraseIdx, found]
    rfl
  obtain ⟨b, counted⟩ := node_modifyStats
    ((w.modifyNode p fun d => { d with children := d.children.eraseIdx i }).modifyNode c
      fun d => { d with parent := none }) p m (fun s => { s with total := s.total - 1 })
  refine ⟨by simp only [remove, found], b, ?_⟩
  simp only [remove, found, counted, node_modifyNode, size_modifyNode, pIn, cIn, and_true]
  by_cases atParent : m = p
  · subst atParent
    simp [differ.symm, erased]
  · by_cases atChild : m = c
    · subst atChild
      simp [atParent]
    · simp [atParent, atChild]

theorem jobStats_remove (member : c ∈ w.children p) (differ : c ≠ p)
    (pIn : p.index < w.nodes.size) (cIn : c.index < w.nodes.size) (m : NodeRef) :
    (w.remove p c).1.jobStats m =
      if m = p then (w.jobStats p).map (fun s => { s with total := s.total - 1 }) else w.jobStats m := by
  obtain ⟨i, found⟩ := Option.ne_none_iff_exists'.mp
    (fun none => (List.idxOf?_eq_none_iff.mp none) member)
  have pIn₂ : p.index < ((w.modifyNode p fun d => { d with children := d.children.eraseIdx i }).modifyNode c
      fun d => { d with parent := none }).nodes.size := by
    simpa only [size_modifyNode] using pIn
  simp only [remove, found]
  rw [jobStats_modifyStats _ _ _ _ pIn₂]
  simp only [jobStats, node_modifyNode, size_modifyNode, pIn, cIn, and_true]
  by_cases atParent : m = p
  · subst atParent
    simp [differ.symm]
  · by_cases atChild : m = c
    · subst atChild
      simp [atParent]
    · simp [atParent, atChild]

theorem detached_remove (links : w.Links) (alive : w.Alive) (member : c ∈ w.children p) :
    Detached w (w.remove p c).1 p c ∧ (w.remove p c).1.Alive := by
  have linked : w.parent c = some p := (links.agree p c).mp member
  have differ : c ≠ p := links.ne_of_parent linked
  have pIn : p.index < w.nodes.size := links.present linked
  have cIn : c.index < w.nodes.size :=
    present_of_link w (by rw [← parent_of_alive alive]; exact linked)
  have node := fun m => (node_remove member differ pIn cIn m).2
  have alive' : (w.remove p c).1.Alive := fun m => by
    obtain ⟨b, eq⟩ := node m
    rw [eq]
    by_cases atParent : m = p
    · rw [if_pos atParent]
      exact alive p
    · by_cases atChild : m = c
      · rw [if_neg atParent, if_pos atChild]
        exact alive c
      · rw [if_neg atParent, if_neg atChild]
        exact alive m
  refine ⟨⟨?_, ?_, fun m other => ?_, fun m other => ?_, ?_, fun m other => ?_⟩, alive'⟩
  · obtain ⟨b, eq⟩ := node p
    simp only [World.children, eq, if_true]
  · obtain ⟨b, eq⟩ := node c
    rw [parent_of_alive alive', eq, if_neg differ, if_pos rfl]
  · obtain ⟨b, eq⟩ := node m
    simp only [World.children, eq, if_neg other]
    by_cases atChild : m = c
    · rw [if_pos atChild, atChild]
    · rw [if_neg atChild]
  · obtain ⟨b, eq⟩ := node m
    rw [parent_of_alive alive', parent_of_alive alive, eq]
    by_cases atParent : m = p
    · rw [if_pos atParent, atParent]
    · rw [if_neg atParent, if_neg other]
  · rw [jobStats_remove member differ pIn cIn, if_pos rfl]
  · rw [jobStats_remove member differ pIn cIn, if_neg other]

end Remove

theorem above_of_attached {w w' : World} {p c : NodeRef}
    (edges : ∀ m x, w'.parent m = some x → w.parent m = some x ∨ (m = c ∧ x = p))
    {a n : NodeRef} (above : w'.Above a n) :
    w.Above a n ∨ ((a = p ∨ w.Above a p) ∧ (n = c ∨ w.Above c n)) := by
  induction above with
  | single linked =>
    rcases edges _ _ linked with old | ⟨rfl, rfl⟩
    · exact .inl (.single old)
    · exact .inr ⟨.inl rfl, .inl rfl⟩
  | tail _ linked ih =>
    rcases edges _ _ linked with old | ⟨rfl, rfl⟩
    · rcases ih with before | ⟨top, rfl | below⟩
      · exact .inl (.tail before old)
      · exact .inr ⟨top, .inr (.single old)⟩
      · exact .inr ⟨top, .inr (.tail below old)⟩
    · rcases ih with before | ⟨top, -⟩
      · exact .inr ⟨.inr before, .inl rfl⟩
      · exact .inr ⟨top, .inl rfl⟩

-- A node without a parent is no node's child.
theorem Links.not_mem_children {w : World} {c : NodeRef} (links : w.Links) (free : w.parent c = none)
    (m : NodeRef) : c ∉ w.children m := fun member => by
  rw [links.agree, free] at member
  cases member

namespace Attached

variable {w w' : World} {p c : NodeRef} {first : Bool}

theorem agree (attached : Attached w w' p c first) (links : w.Links) (free : w.parent c = none)
    (m x : NodeRef) : x ∈ w'.children m ↔ w'.parent x = some m := by
  have fresh := links.not_mem_children free m
  by_cases atParent : m = p
  · subst atParent
    rw [attached.children_self]
    by_cases isChild : x = c
    · subst isChild
      cases first <;> simp [attached.parent_self]
    · rw [attached.parent_other x isChild, ← links.agree]
      cases first <;> simp [isChild]
  · rw [attached.children_other m atParent]
    by_cases isChild : x = c
    · subst isChild
      simp only [fresh, false_iff, attached.parent_self, Option.some.injEq]
      exact Ne.symm atParent
    · rw [attached.parent_other x isChild]
      exact links.agree m x

theorem nodup (attached : Attached w w' p c first) (links : w.Links) (free : w.parent c = none)
    (m : NodeRef) : (w'.children m).Nodup := by
  have fresh := links.not_mem_children free m
  by_cases atParent : m = p
  · subst atParent
    rw [attached.children_self]
    cases first
    · exact List.nodup_append.mpr ⟨links.nodup m, List.pairwise_singleton _ c,
        fun a member b other => by
          rw [List.mem_singleton] at other
          subst other
          exact fun same => fresh (same ▸ member)⟩
    · exact List.nodup_cons.mpr ⟨fresh, links.nodup m⟩
  · rw [attached.children_other m atParent]
    exact links.nodup m

theorem acyclic (attached : Attached w w' p c first) (links : w.Links) (differ : ¬c = p)
    (notAbove : ¬w.Above c p) (n : NodeRef) : ¬w'.Above n n := by
  intro cycle
  have edges : ∀ m x, w'.parent m = some x → w.parent m = some x ∨ (m = c ∧ x = p) := by
    intro m x linked
    by_cases isChild : m = c
    · subst isChild
      rw [attached.parent_self] at linked
      exact .inr ⟨rfl, (Option.some.inj linked).symm⟩
    · rw [attached.parent_other m isChild] at linked
      exact .inl linked
  -- A new cycle would have to run from `c` up to `p` in the old world.
  rcases above_of_attached edges cycle with old | ⟨top, bottom⟩
  · exact links.acyclic n old
  · rcases top with rfl | top <;> rcases bottom with same | bottom
    · exact differ same.symm
    · exact notAbove bottom
    · exact notAbove (same ▸ top)
    · exact notAbove (bottom.trans top)

end Attached

theorem Links.attached {w w' : World} {p c : NodeRef} {first : Bool} (links : w.Links)
    (attached : Attached w w' p c first) (allowed : ¬w.Refused p c) : w'.Links := by
  simp only [Refused, not_or, Option.not_isSome_iff_eq_none] at allowed
  obtain ⟨differ, notAbove, free⟩ := allowed
  exact ⟨attached.agree links free, attached.nodup links free, attached.acyclic links differ notAbove⟩

theorem Counted.attached {w w' : World} {p c : NodeRef} {first : Bool} (counted : w.Counted)
    (attached : Attached w w' p c first) : w'.Counted := by
  intro m s
  rw [attached.stats m]
  by_cases atParent : m = p
  · subst atParent
    rw [if_pos rfl, attached.children_self]
    intro grown
    obtain ⟨s₀, has, rfl⟩ := Option.map_eq_some_iff.mp grown
    have before := counted m s₀ has
    cases first <;> simp [before]
  · rw [if_neg atParent, attached.children_other m atParent]
    exact counted m s

namespace Detached

variable {w w' : World} {p c : NodeRef}

theorem agree (detached : Detached w w' p c) (links : w.Links) (member : c ∈ w.children p)
    (m x : NodeRef) : x ∈ w'.children m ↔ w'.parent x = some m := by
  have linked : w.parent c = some p := (links.agree p c).mp member
  by_cases atParent : m = p
  · subst atParent
    rw [detached.children_self, (links.nodup m).mem_erase_iff]
    by_cases isChild : x = c
    · subst isChild
      simp [detached.parent_self]
    · rw [detached.parent_other x isChild, ← links.agree]
      simp [isChild]
  · rw [detached.children_other m atParent]
    by_cases isChild : x = c
    · subst isChild
      rw [links.agree, linked, detached.parent_self]
      simp [Ne.symm atParent]
    · rw [detached.parent_other x isChild]
      exact links.agree m x

theorem nodup (detached : Detached w w' p c) (links : w.Links) (m : NodeRef) :
    (w'.children m).Nodup := by
  by_cases atParent : m = p
  · subst atParent
    rw [detached.children_self]
    exact (links.nodup m).erase c
  · rw [detached.children_other m atParent]
    exact links.nodup m

-- Unlinking only removes parent links, so every chain after it was one before.
theorem acyclic (detached : Detached w w' p c) (links : w.Links) (n : NodeRef) :
    ¬w'.Above n n := by
  have fewer : ∀ m x, w'.parent m = some x → w.parent m = some x := by
    intro m x linked'
    by_cases isChild : m = c
    · subst isChild
      rw [detached.parent_self] at linked'
      cases linked'
    · rwa [detached.parent_other m isChild] at linked'
  exact fun cycle => links.acyclic n (Relation.TransGen.mono (fun x m => fewer m x) n n cycle)

end Detached

theorem Links.detached {w w' : World} {p c : NodeRef} (links : w.Links)
    (detached : Detached w w' p c) (member : c ∈ w.children p) : w'.Links :=
  ⟨detached.agree links member, detached.nodup links, detached.acyclic links⟩

theorem Counted.detached {w w' : World} {p c : NodeRef} (counted : w.Counted)
    (detached : Detached w w' p c) (member : c ∈ w.children p) : w'.Counted := by
  intro m s
  by_cases atParent : m = p
  · subst atParent
    rw [detached.stats_self, detached.children_self, List.length_erase_of_mem member]
    intro shrunk
    obtain ⟨s₀, has, rfl⟩ := Option.map_eq_some_iff.mp shrunk
    simp [counted m s₀ has]
  · rw [detached.stats_other m atParent, detached.children_other m atParent]
    exact counted m s

section Contract

variable {w : World}

theorem contains_parents_iff (links : w.Links) (p c : NodeRef) :
    (w.parents p).contains c = true ↔ w.Above c p := by
  rw [List.contains_iff_mem]
  exact links.mem_parents_iff p c

theorem attach_refused (links : w.Links) {p c : NodeRef} (first : Bool)
    (refused : w.Refused p c) : ∃ e, w.attach p c first = (w, .error e) ∧ e.kind = .typeKind := by
  unfold attach
  by_cases beneath : c = p ∨ (w.parents p).contains c = true
  · rw [if_pos beneath]
    exact ⟨_, rfl, rfl⟩
  · rw [if_neg beneath]
    rw [contains_parents_iff links] at beneath
    have linked : (w.parent c).isSome = true := by
      rcases refused with same | above | linked
      · exact absurd (.inl same) beneath
      · exact absurd (.inr above) beneath
      · exact linked
    rw [if_pos linked]
    exact ⟨_, rfl, rfl⟩

theorem attach_allowed (links : w.Links) {p c : NodeRef} (first : Bool)
    (allowed : ¬w.Refused p c) :
    w.attach p c first = ((w.link p c first).emit p "add"
      [((w.link p c first).descriptor c).toJson], .ok c) := by
  simp only [Refused, not_or] at allowed
  refine attach_of_allowed w p c first ?_ allowed.2.2
  rw [contains_parents_iff links]
  exact fun beneath => beneath.elim allowed.1 allowed.2.1

structure KeepsLinks (w w' : World) : Prop where
  links : w'.Links
  alive : w'.Alive
  size : w'.nodes.size = w.nodes.size
  counted : w.Counted → w'.Counted

-- One attach keeps the invariant, whether it links or is refused.
theorem attach_keeps (links : w.Links) (alive : w.Alive) {p c : NodeRef} (first : Bool)
    (pIn : p.index < w.nodes.size) (cIn : c.index < w.nodes.size) :
    KeepsLinks w (w.attach p c first).1 := by
  by_cases refused : w.Refused p c
  · obtain ⟨e, same, -⟩ := attach_refused links first refused
    rw [same]
    exact ⟨links, alive, rfl, id⟩
  · have differ : c ≠ p := fun same => refused (.inl same)
    obtain ⟨attached, alive'⟩ := attached_link first alive differ pIn cIn
    have quiet := quiet_emit (w.link p c first) p "add" [((w.link p c first).descriptor c).toJson]
    have attached' := attached.quiet quiet
    have kept : KeepsLinks w ((w.link p c first).emit p "add"
        [((w.link p c first).descriptor c).toJson]) :=
      ⟨links.attached attached' refused, quiet.alive alive', quiet.size.trans (link_size first),
        fun counted => counted.attached attached'⟩
    rw [attach_allowed links first refused]
    dsimp only
    exact kept

theorem remove_keeps (links : w.Links) (alive : w.Alive) (p c : NodeRef) :
    KeepsLinks w (w.remove p c).1 := by
  by_cases member : c ∈ w.children p
  · obtain ⟨detached, alive'⟩ := detached_remove links alive member
    refine ⟨links.detached detached member, alive', ?_,
      fun counted => counted.detached detached member⟩
    obtain ⟨i, found⟩ := Option.ne_none_iff_exists'.mp
      (fun none => (List.idxOf?_eq_none_iff.mp none) member)
    simp only [remove, found, modifyStats, modifyQueue, size_modifyNode]
  · rw [remove_of_not_mem member]
    exact ⟨links, alive, rfl, id⟩

structure LinkContract (w : World) : Prop where
  ancestors : ∀ n a, a ∈ w.parents n ↔ w.Above a n
  parents_nodup : ∀ n, (w.parents n).Nodup
  root : ∀ n, w.parent (w.root n) = none
  refused : ∀ p c first,
    (∃ e, w.attach p c first = (w, .error e) ∧ e.kind = .typeKind) ↔ w.Refused p c
  attached : ∀ p c first, p.index < w.nodes.size → c.index < w.nodes.size → ¬w.Refused p c →
    w.attach p c first = ((w.link p c first).emit p "add"
      [((w.link p c first).descriptor c).toJson], .ok c) ∧
    Attached w (w.attach p c first).1 p c first
  removed : ∀ p c, ((w.remove p c).2 = true ↔ c ∈ w.children p) ∧
    (c ∉ w.children p → (w.remove p c).1 = w)
  detached : ∀ p c, c ∈ w.children p → Detached w (w.remove p c).1 p c

theorem linkContract (links : w.Links) (alive : w.Alive) : w.LinkContract where
  ancestors := links.mem_parents_iff
  parents_nodup n := (List.nodup_cons.mp (links.ancestors_nodup w.nodes.size n)).2
  root := links.parent_root
  refused p c first := by
    refine ⟨fun ⟨e, failed, _⟩ => ?_, attach_refused links first⟩
    by_contra allowed
    rw [attach_allowed links first allowed] at failed
    cases congrArg Prod.snd failed
  attached p c first pIn cIn allowed := by
    have differ : c ≠ p := fun same => allowed (.inl same)
    have equation := attach_allowed links first allowed
    obtain ⟨attached, -⟩ := attached_link first alive differ pIn cIn
    refine ⟨equation, ?_⟩
    rw [equation]
    dsimp only
    exact attached.quiet (quiet_emit _ p _ _)
  removed p c := by
    by_cases member : c ∈ w.children p
    · have linked : w.parent c = some p := (links.agree p c).mp member
      have differ : c ≠ p := links.ne_of_parent linked
      have cIn : c.index < w.nodes.size :=
        present_of_link w (by rw [← parent_of_alive alive]; exact linked)
      have removed := (node_remove member differ (links.present linked) cIn p).1
      exact ⟨iff_of_true removed member, fun missing => absurd member missing⟩
    · rw [remove_of_not_mem member]
      exact ⟨iff_of_false Bool.false_ne_true member, fun _ => rfl⟩
  detached p c member := (detached_remove links alive member).1

end Contract

end World

inductive LinkOp where
  | append (parent child : NodeRef)
  | prepend (parent child : NodeRef)
  | remove (parent child : NodeRef)

namespace LinkOp

def parent : LinkOp → NodeRef
  | .append p _ | .prepend p _ | .remove p _ => p

def child : LinkOp → NodeRef
  | .append _ c | .prepend _ c | .remove _ c => c

def Among (op : LinkOp) (w : World) : Prop :=
  op.parent.index < w.nodes.size ∧ op.child.index < w.nodes.size

end LinkOp

namespace World

def applyLink (w : World) : LinkOp → World
  | .append p c => (w.append p c).1
  | .prepend p c => (w.prepend p c).1
  | .remove p c => (w.remove p c).1

def applyLinks (w : World) (ops : List LinkOp) : World :=
  ops.foldl applyLink w

theorem applyLink_keeps {w : World} (links : w.Links) (alive : w.Alive) (op : LinkOp)
    (among : op.Among w) : KeepsLinks w (w.applyLink op) := by
  cases op with
  | append p c => exact attach_keeps links alive false among.1 among.2
  | prepend p c => exact attach_keeps links alive true among.1 among.2
  | remove p c => exact remove_keeps links alive p c

theorem applyLinks_keeps (ops : List LinkOp) :
    ∀ w : World, w.Links → w.Alive → (∀ op ∈ ops, op.Among w) → KeepsLinks w (w.applyLinks ops) := by
  induction ops with
  | nil => exact fun _ links alive _ => ⟨links, alive, rfl, id⟩
  | cons op rest ih =>
    intro w links alive among
    have first := applyLink_keeps links alive op (among op (.head rest))
    have later := ih _ first.links first.alive fun op' member => by
      unfold LinkOp.Among
      rw [first.size]
      exact among op' (.tail op member)
    exact ⟨later.links, later.alive, later.size.trans first.size,
      fun counted => later.counted (first.counted counted)⟩

/-- Over any nodes that stay alive and any sequence of linking and unlinking among them, the
links keep agreeing: children and parents are two views of one relation, no child is listed
twice and there is no cycle. So every world on the way answers each operation by
`LinkContract`; and queues that counted their children still do. -/
theorem tree_links_hold (w : World) (ops : List LinkOp) (links : w.Links) (alive : w.Alive)
    (among : ∀ op ∈ ops, op.Among w) :
    (w.applyLinks ops).Links ∧ (w.applyLinks ops).Alive ∧ (w.applyLinks ops).LinkContract ∧
      (w.Counted → (w.applyLinks ops).Counted) := by
  have kept := applyLinks_keeps ops w links alive among
  exact ⟨kept.links, kept.alive, linkContract kept.links kept.alive, kept.counted⟩

theorem node_default_or_mem (w : World) (n : NodeRef) : w.node n = default ∨ w.node n ∈ w.nodes := by
  by_cases present : n.index < w.nodes.size
  · right
    simp [node, present]
  · exact .inl (node_of_size_le w n (Nat.le_of_not_lt present))

theorem links_of_unlinked (w : World)
    (unlinked : ∀ d ∈ w.nodes, d.parent = none ∧ d.children = [] ∧
      ∀ q, d.body.queueState? = some q → q.stats.total = 0) : w.Links ∧ w.Counted := by
  have bare : ∀ n, (w.node n).parent = none ∧ (w.node n).children = [] ∧
      ∀ q, (w.node n).body.queueState? = some q → q.stats.total = 0 := fun n => by
    rcases w.node_default_or_mem n with blank | member
    · rw [blank]
      exact ⟨rfl, rfl, fun q none => by cases none⟩
    · exact unlinked _ member
  have orphan : ∀ c, w.parent c = none := fun c => parent_of_root w c (bare c).1
  refine ⟨⟨fun p c => ?_, fun p => ?_, fun n cycle => ?_⟩, fun p s has => ?_⟩
  · simp [children, (bare p).2.1, orphan c]
  · simp [children, (bare p).2.1]
  · obtain ⟨p, linked, -⟩ := cycle.bottom
    rw [orphan n] at linked
    cases linked
  · obtain ⟨q, found, rfl⟩ := Option.map_eq_some_iff.mp has
    rw [children, (bare p).2.1, (bare p).2.2 q found]
    rfl

theorem alive_of_live (w : World) (live : ∀ d ∈ w.nodes, d.live = true) : w.Alive := fun n => by
  rcases w.node_default_or_mem n with blank | member
  · rw [blank]
    rfl
  · exact live _ member

theorem queue_links_example :
    let w : World := { nodes := #[{ id := "queue", body := .queue { limit := 1 } },
      { id := "a", body := .bare }, { id := "b", body := .bare }] }
    let ops := [LinkOp.append ⟨0⟩ ⟨1⟩, .prepend ⟨0⟩ ⟨2⟩, .remove ⟨0⟩ ⟨1⟩]
    w.Links ∧ w.Alive ∧ (∀ op ∈ ops, op.Among w) ∧
      ((w.applyLinks ops).Links ∧ (w.applyLinks ops).Alive ∧ (w.applyLinks ops).LinkContract ∧
        (w.Counted → (w.applyLinks ops).Counted)) := by
  intro w ops
  have links : w.Links := (links_of_unlinked w (by simp [w, NodeBody.queueState?])).1
  have alive : w.Alive := alive_of_live w (by simp [w])
  have among : ∀ op ∈ ops, op.Among w := by
    simp [ops, w, LinkOp.Among, LinkOp.parent, LinkOp.child]
  exact ⟨links, alive, among, tree_links_hold w ops links alive among⟩

end World

end TaskTree
