import TaskTree.Planner
import TaskTree.Proofs.Runs

set_option autoImplicit false

namespace TaskTree

structure Steady (w w' : World) : Prop where
  planners : w'.planners = w.planners
  grows : w.nodes.size ≤ w'.nodes.size
  parent : ∀ m, (w'.node m).parent = (w.node m).parent
  live : ∀ m, (w'.node m).live = (w.node m).live

namespace Steady

theorem refl (w : World) : Steady w w :=
  ⟨rfl, Nat.le_refl _, fun _ => rfl, fun _ => rfl⟩

theorem trans {w₁ w₂ w₃ : World} (first : Steady w₁ w₂) (second : Steady w₂ w₃) :
    Steady w₁ w₃ where
  planners := second.planners.trans first.planners
  grows := Nat.le_trans first.grows second.grows
  parent m := (second.parent m).trans (first.parent m)
  live m := (second.live m).trans (first.live m)

-- Events, dispatches and notifications are folds of steady steps.
theorem foldl {β : Type} (l : List β) (f : World → β → World) (step : ∀ w b, Steady w (f w b))
    (w : World) : Steady w (l.foldl f w) := by
  induction l generalizing w with
  | nil => exact refl w
  | cons b rest ih => exact (step w b).trans (ih (f w b))

theorem of_nodes {w w' : World} (nodes : w'.nodes = w.nodes) (planners : w'.planners = w.planners) :
    Steady w w' where
  planners := planners
  grows := nodes ▸ Nat.le_refl _
  parent m := by simp only [World.node, nodes]
  live m := by simp only [World.node, nodes]

end Steady

namespace World

-- Every view of a node that `f` leaves alone, `modifyNode` leaves alone, in bounds or not.
theorem view_modifyNode {β : Type} (w : World) (n m : NodeRef) (f : NodeData → NodeData)
    (view : NodeData → β) (same : ∀ d, view (f d) = view d) :
    view ((w.modifyNode n f).node m) = view (w.node m) := by
  simp only [node, modifyNode, Array.getElem?_modify]
  split
  · cases w.nodes[m.index]? with
    | none => rfl
    | some d => exact same d
  · rfl

theorem steady_modifyNode (w : World) (n : NodeRef) (f : NodeData → NodeData)
    (parent : ∀ d, (f d).parent = d.parent) (live : ∀ d, (f d).live = d.live) :
    Steady w (w.modifyNode n f) where
  planners := rfl
  grows := by simp [modifyNode]
  parent m := w.view_modifyNode n m f NodeData.parent parent
  live m := w.view_modifyNode n m f NodeData.live live

theorem node_addNode (w : World) (body : NodeBody) (m : NodeRef) :
    (w.addNode body).1.node m =
      if m.index = w.nodes.size then { id := nodeIdOf m.index, body } else w.node m := by
  simp only [node, addNode, Array.getElem?_push]
  split
  · rename_i fresh
    rw [fresh]
    rfl
  · rfl

-- A node out of range reads as the default node, which has no parent and is live, like a
-- node just added.
theorem steady_addNode (w : World) (body : NodeBody) : Steady w (w.addNode body).1 where
  planners := rfl
  grows := by simp [addNode]
  parent m := by
    rw [node_addNode]
    split
    · rename_i fresh
      simp [node, fresh]
      rfl
    · rfl
  live m := by
    rw [node_addNode]
    split
    · rename_i fresh
      simp [node, fresh]
      rfl
    · rfl

theorem steady_record (w : World) (e : JournalEntry) : Steady w (w.record e) :=
  Steady.of_nodes rfl rfl

theorem steady_ctxNotify (w : World) (c : ContextRef) (event : String) (args : List Json) :
    Steady w (w.ctxNotify c event args) := by
  simp only [ctxNotify]
  refine Steady.trans ?_ (Steady.foldl _ _ (fun w _ => w.steady_record _) _)
  exact Steady.of_nodes rfl rfl

theorem steady_ctxSet (w : World) (c : ContextRef) (key : String) (v : Json) :
    Steady w (w.ctxSet c key v) := by
  simp only [ctxSet]
  refine Steady.trans ?_ (steady_ctxNotify _ c _ _)
  exact Steady.of_nodes rfl rfl

theorem steady_handle (w : World) (target : NodeRef) (shown : Descriptor) (event : String)
    (args : List Json) (h : Handler) : Steady w (w.handle target shown event args h) := by
  cases h with
  | record tag => exact w.steady_record _
  | keepResult ctx key owner =>
      simp only [handle]
      split
      · exact w.steady_ctxSet ctx _ _
      · exact Steady.refl w

theorem steady_modifyListeners (w : World) (n : NodeRef)
    (f : Listeners Handler → Listeners Handler) : Steady w (w.modifyListeners n f) :=
  w.steady_modifyNode n _ (fun _ => rfl) (fun _ => rfl)

theorem steady_dispatch (w : World) (hearer target : NodeRef) (event : String)
    (args : List Json) : Steady w (w.dispatch hearer target event args) :=
  (w.steady_modifyListeners hearer _).trans
    (Steady.foldl _ _ (fun w h => w.steady_handle target _ event args h) _)

theorem steady_emit (w : World) (n : NodeRef) (event : String) (args : List Json) :
    Steady w (w.emit n event args) :=
  (w.steady_dispatch n n event args).trans
    (Steady.foldl _ _ (fun w a => w.steady_dispatch a n event args) _)

theorem steady_modifySettings (w : World) (n : NodeRef) (f : Settings → Settings) :
    Steady w (w.modifySettings n f) :=
  w.steady_modifyNode n _ (fun _ => rfl) (fun _ => rfl)

theorem steady_scopeSet (w : World) (n : NodeRef) (key : String) (v : Json) :
    Steady w (w.scopeSet n key v) :=
  w.steady_modifyNode n _ (fun _ => rfl) (fun _ => rfl)

theorem steady_storeResult (w : World) (p : PlannerRef) (n : NodeRef) (key : String) :
    Steady w (w.storeResult p n key) := by
  simp only [storeResult, listen]
  exact w.steady_modifyListeners n _

theorem steady_modifyStats (w : World) (n : NodeRef) (f : JobStats → JobStats) :
    Steady w (w.modifyStats n f) := by
  refine w.steady_modifyNode n _ (fun d => ?_) (fun d => ?_) <;> split <;> rfl

theorem steady_modifyLoop (w : World) (n : NodeRef) (f : LoopState → LoopState) :
    Steady w (w.modifyLoop n f).1 := by
  simp only [modifyLoop]
  split
  · exact w.steady_modifyNode n _ (fun _ => rfl) (fun _ => rfl)
  · exact Steady.refl w

-- The parent of a node is its parent link while the parent is live: a change that keeps the
-- link and every node's liveness keeps the parent.
theorem parent_eq_of_link (w w' : World) (m : NodeRef)
    (link : (w'.node m).parent = (w.node m).parent)
    (live : ∀ p, (w'.node p).live = (w.node p).live) : w'.parent m = w.parent m := by
  simp only [parent, link, live]

theorem parent_eq_of_steady {w w' : World} (steady : Steady w w') (m : NodeRef) :
    w'.parent m = w.parent m :=
  parent_eq_of_link w w' m (steady.parent m) steady.live

theorem parent_of_link (w : World) (m p : NodeRef) (link : (w.node m).parent = some p)
    (alive : (w.node p).live = true) : w.parent m = some p := by
  simp [parent, link, alive]

theorem parent_of_root (w : World) (m : NodeRef) (root : (w.node m).parent = none) :
    w.parent m = none := by
  simp [parent, root]

theorem parents_of_parent_none (w : World) (m : NodeRef) (root : w.parent m = none) :
    w.parents m = [] := by
  simp only [parents]
  cases w.nodes.size with
  | zero => rfl
  | succ fuel => simp [ancestors, root]

end World

structure Keeps (links : List NodeRef) (w w' : World) : Prop where
  planners : w'.planners = w.planners
  grows : w.nodes.size ≤ w'.nodes.size
  live : ∀ m, (w'.node m).live = (w.node m).live
  fixed : ∀ m, m ∉ links → m.index < w.nodes.size → (w'.node m).parent = (w.node m).parent
  kept : ∀ m, (w.parent m).isSome → w'.parent m = w.parent m
  linked : ∀ m ∈ links, (w'.parent m).isSome

namespace Keeps

variable {w w' w₁ w₂ w₃ : World}

theorem of_steady (steady : Steady w w') : Keeps [] w w' where
  planners := steady.planners
  grows := steady.grows
  live := steady.live
  fixed m _ _ := steady.parent m
  kept m _ := World.parent_eq_of_steady steady m
  linked _ member := absurd member List.not_mem_nil

theorem trans {L₁ L₂ : List NodeRef} (first : Keeps L₁ w₁ w₂) (second : Keeps L₂ w₂ w₃) :
    Keeps (L₁ ++ L₂) w₁ w₃ where
  planners := second.planners.trans first.planners
  grows := Nat.le_trans first.grows second.grows
  live m := (second.live m).trans (first.live m)
  fixed m outside older := by
    have notFirst : m ∉ L₁ := fun member => outside (List.mem_append_left L₂ member)
    have notSecond : m ∉ L₂ := fun member => outside (List.mem_append_right L₁ member)
    rw [second.fixed m notSecond (Nat.lt_of_lt_of_le older first.grows),
      first.fixed m notFirst older]
  kept m has := by
    have same := first.kept m has
    have still : (w₂.parent m).isSome := by rw [same]; exact has
    rw [second.kept m still, same]
  linked m member := by
    rcases List.mem_append.mp member with early | late
    · have has := first.linked m early
      rw [second.kept m has]
      exact has
    · exact second.linked m late

-- A node that the change added itself needs no account in `links`.
theorem drop_fresh {L : List NodeRef} {n : NodeRef} (keeps : Keeps (L ++ [n]) w w')
    (fresh : w.nodes.size ≤ n.index) : Keeps L w w' where
  planners := keeps.planners
  grows := keeps.grows
  live := keeps.live
  fixed m outside older := by
    have other : m ≠ n := fun same => by subst same; omega
    exact keeps.fixed m (by simp [outside, other]) older
  kept := keeps.kept
  linked m member := keeps.linked m (List.mem_append_left _ member)

end Keeps

-- Nodes that can all be linked beneath new parents: none twice, and none with a parent.
def Linkable (w : World) (links : List NodeRef) : Prop :=
  links.Nodup ∧ ∀ m ∈ links, w.parent m = none

-- Handles to nodes of the world, none past its end.
def Present (w : World) (links : List NodeRef) : Prop :=
  ∀ m ∈ links, m.index < w.nodes.size

theorem present_nil (w : World) : Present w [] :=
  fun _ member => absurd member List.not_mem_nil

theorem present_append {w : World} {L₁ L₂ : List NodeRef} :
    Present w (L₁ ++ L₂) ↔ Present w L₁ ∧ Present w L₂ := by
  simp only [Present, List.mem_append, or_imp, forall_and]

theorem Present.grow {w w' : World} {L : List NodeRef} (present : Present w L)
    (grows : w.nodes.size ≤ w'.nodes.size) : Present w' L :=
  fun m member => Nat.lt_of_lt_of_le (present m member) grows

-- Linking `L₁` and then `L₂` can go through exactly when each can in its own world: the nodes
-- that the first change linked have parents in the second world.
theorem linkable_append {w w₁ : World} {L₁ L₂ : List NodeRef} (keeps : Keeps L₁ w w₁)
    (present : Present w L₂) : Linkable w (L₁ ++ L₂) ↔ Linkable w L₁ ∧ Linkable w₁ L₂ := by
  constructor
  · rintro ⟨nodup, free⟩
    obtain ⟨nodup₁, nodup₂, apart⟩ := List.nodup_append.mp nodup
    refine ⟨⟨nodup₁, fun m member => free m (List.mem_append_left L₂ member)⟩, nodup₂,
      fun m member => ?_⟩
    have outside : m ∉ L₁ := fun early => apart m early m member rfl
    rw [World.parent_eq_of_link w w₁ m (keeps.fixed m outside (present m member)) keeps.live]
    exact free m (List.mem_append_right L₁ member)
  · rintro ⟨⟨nodup₁, free₁⟩, nodup₂, free₂⟩
    refine ⟨List.nodup_append.mpr ⟨nodup₁, nodup₂, fun a early b late same => ?_⟩,
      fun m member => ?_⟩
    · subst same
      have linked := keeps.linked a early
      rw [free₂ a late] at linked
      cases linked
    · rcases List.mem_append.mp member with early | late
      · exact free₁ m early
      · cases has : w.parent m with
        | none => rfl
        | some p =>
            have kept := keeps.kept m (by rw [has]; rfl)
            rw [free₂ m late, has] at kept
            cases kept

theorem Linkable.left {w : World} {L₁ L₂ : List NodeRef} (linkable : Linkable w (L₁ ++ L₂)) :
    Linkable w L₁ :=
  ⟨(List.nodup_append.mp linkable.1).1, fun m member => linkable.2 m (List.mem_append_left L₂ member)⟩

theorem linkable_nil (w : World) : Linkable w [] :=
  ⟨List.nodup_nil, fun _ member => absurd member List.not_mem_nil⟩

theorem linkable_single {w : World} {n : NodeRef} : Linkable w [n] ↔ w.parent n = none :=
  ⟨fun linkable => linkable.2 n (List.mem_singleton_self n), fun free =>
    ⟨List.pairwise_singleton _ n, fun m member => by rw [List.mem_singleton.mp member]; exact free⟩⟩

-- A node that a change added, left live and without a parent.
structure Fresh (w w' : World) (n : NodeRef) : Prop where
  new : w.nodes.size ≤ n.index
  present : n.index < w'.nodes.size
  root : (w'.node n).parent = none
  live : (w'.node n).live = true

namespace Fresh

variable {w w₁ w₂ : World} {n : NodeRef}

theorem keeps {L : List NodeRef} (fresh : Fresh w w₁ n) (keeps : Keeps L w₁ w₂) (outside : n ∉ L) :
    Fresh w w₂ n where
  new := fresh.new
  present := Nat.lt_of_lt_of_le fresh.present keeps.grows
  root := by rw [keeps.fixed n outside fresh.present, fresh.root]
  live := by rw [keeps.live n, fresh.live]

theorem steady (fresh : Fresh w w₁ n) (steady : Steady w₁ w₂) : Fresh w w₂ n :=
  fresh.keeps (Keeps.of_steady steady) List.not_mem_nil

theorem grows (fresh : Fresh w w₁ n) : w.nodes.size ≤ w₁.nodes.size :=
  Nat.le_of_lt (Nat.lt_of_le_of_lt fresh.new fresh.present)

theorem parent_none (fresh : Fresh w w₁ n) : w₁.parent n = none :=
  World.parent_of_root w₁ n fresh.root

-- A node added after `w₁` was added after any older world too.
theorem older {w₀ : World} (fresh : Fresh w w₁ n) (grows : w₀.nodes.size ≤ w.nodes.size) :
    Fresh w₀ w₁ n where
  new := Nat.le_trans grows fresh.new
  present := fresh.present
  root := fresh.root
  live := fresh.live

end Fresh

theorem fresh_addNode (w : World) (body : NodeBody) :
    Fresh w (w.addNode body).1 (w.addNode body).2 where
  new := Nat.le_refl _
  present := by simp [World.addNode]
  root := by rw [World.node_addNode, if_pos (show (w.addNode body).2.index = w.nodes.size from rfl)]
  live := by rw [World.node_addNode, if_pos (show (w.addNode body).2.index = w.nodes.size from rfl)]

namespace World

theorem attach_ok {w w' : World} {parent child c : NodeRef} {first : Bool}
    (attached : w.attach parent child first = (w', .ok c)) :
    c = child ∧ child ≠ parent ∧ (w.parents parent).contains child = false ∧
      w.parent child = none := by
  unfold attach at attached
  by_cases allowed : child = parent ∨ (w.parents parent).contains child = true
  · rw [if_pos allowed] at attached
    cases congrArg Prod.snd attached
  · rw [if_neg allowed] at attached
    by_cases linked : (w.parent child).isSome = true
    · rw [if_pos linked] at attached
      cases congrArg Prod.snd attached
    · rw [if_neg linked] at attached
      have result := congrArg Prod.snd attached
      simp only [Except.ok.injEq] at result
      simp only [not_or, Bool.not_eq_true] at allowed
      rw [Option.not_isSome_iff_eq_none] at linked
      exact ⟨result.symm, allowed.1, allowed.2, linked⟩

-- Linking a free node beneath a live node that is not below it succeeds, and it changes the
-- parent link of that node alone.
theorem keeps_attach (w : World) (parent child : NodeRef) (first : Bool)
    (differ : child ≠ parent) (notBelow : (w.parents parent).contains child = false)
    (free : w.parent child = none) (present : child.index < w.nodes.size)
    (alive : (w.node parent).live = true) :
    (w.attach parent child first).2 = .ok child ∧
      Keeps [child] w (w.attach parent child first).1 := by
  have allowed : ¬(child = parent ∨ (w.parents parent).contains child = true) := by
    rw [notBelow]
    simp [differ]
  have unlinked : ¬((w.parent child).isSome = true) := by simp [free]
  let w₁ := w.modifyNode child fun d => { d with parent := some parent }
  have rest : Steady w₁ (w.attach parent child first).1 := by
    unfold attach
    rw [if_neg allowed, if_neg unlinked]
    dsimp only
    refine Steady.trans ?_ (steady_emit _ parent _ _)
    refine Steady.trans ?_ (steady_modifyStats _ parent _)
    exact steady_modifyNode _ parent _ (fun _ => rfl) (fun _ => rfl)
  have linkOf : ∀ m, m ≠ child → (w₁.node m).parent = (w.node m).parent := fun m other => by
    rw [node_modifyNode_ne w child m _ other]
  have liveOf : ∀ m, (w₁.node m).live = (w.node m).live := fun m =>
    w.view_modifyNode child m _ NodeData.live (fun _ => rfl)
  refine ⟨by unfold attach; rw [if_neg allowed, if_neg unlinked], ?_⟩
  exact {
    planners := rest.planners
    grows := by simpa [w₁, modifyNode] using rest.grows
    live := fun m => (rest.live m).trans (liveOf m)
    fixed := fun m outside _ => by
      rw [rest.parent m, linkOf m (by simpa using outside)]
    kept := fun m has => by
      have other : m ≠ child := by
        rintro rfl
        rw [free] at has
        cases has
      exact parent_eq_of_link _ _ m (by rw [rest.parent m, linkOf m other])
        (fun p => (rest.live p).trans (liveOf p))
    linked := fun m member => by
      rw [List.mem_singleton] at member
      subst member
      have link : ((w.attach parent m first).1.node m).parent = some parent := by
        rw [rest.parent m, node_modifyNode_self w m _ present]
      have live : ((w.attach parent m first).1.node parent).live = true := by
        rw [rest.live, liveOf, alive]
      rw [parent_of_link _ m parent link live]
      rfl }

end World

end TaskTree
