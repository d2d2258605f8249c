import TaskTree.Proofs.Links

set_option autoImplicit false

namespace TaskTree.World

-- `y` is `x` or lies beneath it.
def Subtree (w : World) (x y : NodeRef) : Prop := y = x ∨ w.Above x y

variable {w : World}

theorem present_of_above {x y : NodeRef} (above : w.Above x y) : y.index < w.nodes.size := by
  obtain ⟨p, linked, -⟩ := above.bottom
  exact present_of_link w (link_of_parent w linked)

-- A node has one parent, so two nodes above the same node lie one above the other.
theorem Subtree.related {a b y : NodeRef} (ha : w.Subtree a y) (hb : w.Subtree b y) :
    w.Subtree a b ∨ w.Above b a := by
  rcases ha with rfl | above
  · rcases hb with same | higher
    · exact .inl (.inl same.symm)
    · exact .inr higher
  · revert hb
    induction above with
    | single linked =>
      intro hb
      rcases hb with rfl | higher
      · exact .inl (.inr (.single linked))
      · obtain ⟨q, linked', level⟩ := higher.bottom
        rw [linked] at linked'
        cases linked'
        rcases level with same | higher'
        · exact .inl (.inl same)
        · exact .inr higher'
    | tail chain linked ih =>
      intro hb
      rcases hb with rfl | higher
      · exact .inl (.inr (.tail chain linked))
      · obtain ⟨q, linked', level⟩ := higher.bottom
        rw [linked] at linked'
        cases linked'
        exact ih (level.elim (fun same => .inl same.symm) .inr)

namespace Links

variable (links : w.Links)
include links

-- A child never lies above a sibling: its parent would lie above itself.
theorem not_above_sibling {n c₁ c₂ : NodeRef} (h₁ : w.parent c₁ = some n)
    (h₂ : w.parent c₂ = some n) : ¬w.Above c₁ c₂ := by
  intro above
  obtain ⟨q, linked, level⟩ := above.bottom
  rw [h₂] at linked
  cases linked
  rcases level with rfl | higher
  · exact links.acyclic c₁ (.single h₁)
  · exact links.acyclic c₁ (.tail higher h₁)

theorem subtrees_apart {n c₁ c₂ y : NodeRef} (h₁ : c₁ ∈ w.children n) (h₂ : c₂ ∈ w.children n)
    (s₁ : w.Subtree c₁ y) (s₂ : w.Subtree c₂ y) : c₁ = c₂ := by
  have p₁ := (links.agree n c₁).mp h₁
  have p₂ := (links.agree n c₂).mp h₂
  rcases s₁.related s₂ with (same | above) | above
  · exact same.symm
  · exact absurd above (links.not_above_sibling p₁ p₂)
  · exact absurd above (links.not_above_sibling p₂ p₁)

-- The subtree of a child lies in the subtree of its parent, without the parent.
theorem subtree_of_child {n c y : NodeRef} (child : c ∈ w.children n) (s : w.Subtree c y) :
    w.Subtree n y ∧ y ≠ n := by
  have linked := (links.agree n c).mp child
  have down : w.Above n c := .single linked
  rcases s with rfl | above
  · refine ⟨.inr down, fun same => ?_⟩
    subst same
    exact links.acyclic y down
  · refine ⟨.inr (down.trans above), fun same => ?_⟩
    subst same
    exact links.acyclic y (down.trans above)

end Links

-- The nodes still to be listed: the subtrees of the nodes waiting in `todo`.
def Covers (w : World) (todo : List NodeRef) (y : NodeRef) : Prop :=
  ∃ t ∈ todo, w.Subtree t y

-- The nodes waiting have subtrees that share no node.
def Apart (w : World) (todo : List NodeRef) : Prop :=
  todo.Pairwise fun a b => ∀ y, w.Subtree a y → ¬w.Subtree b y

-- Whether the walk empties its list of waiting nodes before its steps run out.
def Finished (w : World) : Nat → List NodeRef → Prop
  | _, [] => True
  | 0, _ :: _ => False
  | k + 1, n :: rest => Finished w k (w.children n ++ rest)

namespace Links

variable (links : w.Links)
include links

theorem covers_of_step {n : NodeRef} {rest : List NodeRef} {y : NodeRef}
    (covered : w.Covers (w.children n ++ rest) y) : w.Covers (n :: rest) y ∧ y ≠ n ∨
      w.Covers rest y := by
  obtain ⟨t, member, s⟩ := covered
  rcases List.mem_append.mp member with child | later
  · exact .inl ⟨⟨n, List.mem_cons_self, (links.subtree_of_child child s).1⟩,
      (links.subtree_of_child child s).2⟩
  · exact .inr ⟨t, later, s⟩

-- One step of the walk lists the first waiting node and puts its children in its place.
theorem apart_step {n : NodeRef} {rest : List NodeRef} (apart : w.Apart (n :: rest)) :
    w.Apart (w.children n ++ rest) ∧ ¬w.Covers (w.children n ++ rest) n := by
  obtain ⟨fromHead, apartRest⟩ := List.pairwise_cons.mp apart
  have siblings : w.Apart (w.children n) := by
    refine List.Pairwise.imp_of_mem ?_ (links.nodup n)
    intro c₁ c₂ h₁ h₂ differ y s₁ s₂
    exact differ (links.subtrees_apart h₁ h₂ s₁ s₂)
  refine ⟨List.pairwise_append.mpr ⟨siblings, apartRest, ?_⟩, ?_⟩
  · intro c child t later y s₁ s₂
    exact fromHead t later y (links.subtree_of_child child s₁).1 s₂
  · rintro ⟨t, member, s⟩
    rcases List.mem_append.mp member with child | later
    · exact (links.subtree_of_child child s).2 rfl
    · exact fromHead t later n (.inl rfl) s

theorem covers_preorder : ∀ (k : Nat) (todo : List NodeRef) (y : NodeRef),
    y ∈ w.preorder k todo → w.Covers todo y
  | 0, _, _, member => absurd member List.not_mem_nil
  | _ + 1, [], _, member => absurd member List.not_mem_nil
  | k + 1, n :: rest, y, member => by
    rw [preorder_head, List.mem_cons] at member
    rcases member with rfl | later
    · exact ⟨y, List.mem_cons_self, .inl rfl⟩
    · rcases links.covers_of_step (covers_preorder k _ y later) with ⟨covered, -⟩ | covered
      · exact covered
      · obtain ⟨t, member, s⟩ := covered
        exact ⟨t, List.mem_cons_of_mem n member, s⟩

theorem preorder_nodup : ∀ (k : Nat) (todo : List NodeRef), w.Apart todo →
    (w.preorder k todo).Nodup
  | 0, _, _ => List.nodup_nil
  | _ + 1, [], _ => List.nodup_nil
  | k + 1, n :: rest, apart => by
    rw [preorder_head]
    obtain ⟨apart', missing⟩ := links.apart_step apart
    exact List.nodup_cons.mpr ⟨fun member => missing (links.covers_preorder k _ n member),
      preorder_nodup k _ apart'⟩

end Links

theorem preorder_length_of_unfinished : ∀ (k : Nat) (todo : List NodeRef),
    ¬w.Finished k todo → (w.preorder k todo).length = k
  | 0, _, _ => rfl
  | _ + 1, [], unfinished => absurd trivial unfinished
  | k + 1, n :: rest, unfinished => by
    rw [preorder_head, List.length_cons,
      preorder_length_of_unfinished k (w.children n ++ rest) unfinished]

-- A finished walk lists every node it was given, and the children of every node it lists.
theorem preorder_closed : ∀ (k : Nat) (todo : List NodeRef), w.Finished k todo →
    (∀ t ∈ todo, t ∈ w.preorder k todo) ∧
      ∀ m ∈ w.preorder k todo, ∀ c ∈ w.children m, c ∈ w.preorder k todo
  | _, [], _ => ⟨fun _ member => absurd member List.not_mem_nil, by
      intro m member
      cases ‹Nat› <;> exact absurd member List.not_mem_nil⟩
  | 0, _ :: _, finished => absurd finished id
  | k + 1, n :: rest, finished => by
    obtain ⟨given, closed⟩ := preorder_closed k (w.children n ++ rest) finished
    rw [preorder_head]
    refine ⟨fun t member => ?_, fun m member c child => ?_⟩
    · rcases List.mem_cons.mp member with rfl | later
      · exact List.mem_cons_self
      · exact List.mem_cons_of_mem _ (given t (List.mem_append_right _ later))
    · rcases List.mem_cons.mp member with rfl | later
      · exact List.mem_cons_of_mem _ (given c (List.mem_append_left _ child))
      · exact List.mem_cons_of_mem _ (closed m later c child)

-- A walk stays inside any set of nodes that holds its start and the children of its nodes.
theorem preorder_subset {S : NodeRef → Prop} (closed : ∀ m, S m → ∀ c ∈ w.children m, S c) :
    ∀ (k : Nat) (todo : List NodeRef), (∀ t ∈ todo, S t) → ∀ y ∈ w.preorder k todo, S y
  | 0, _, _, _, member => absurd member List.not_mem_nil
  | _ + 1, [], _, _, member => absurd member List.not_mem_nil
  | k + 1, n :: rest, given, y, member => by
    rw [preorder_head, List.mem_cons] at member
    rcases member with rfl | later
    · exact given y List.mem_cons_self
    · refine preorder_subset closed k _ (fun t member' => ?_) y later
      rcases List.mem_append.mp member' with child | after
      · exact closed n (given n List.mem_cons_self) t child
      · exact given t (List.mem_cons_of_mem n after)

-- A walk with fuel to spare lists the same nodes with one step more.
theorem finished_succ : ∀ (k : Nat) (todo : List NodeRef), w.Finished k todo →
    w.Finished (k + 1) todo ∧ w.preorder (k + 1) todo = w.preorder k todo
  | k, [], _ => ⟨by cases k <;> trivial, by cases k <;> rfl⟩
  | 0, _ :: _, finished => absurd finished id
  | k + 1, n :: rest, finished => by
    obtain ⟨finished', same⟩ := finished_succ k (w.children n ++ rest) finished
    exact ⟨finished', by rw [preorder_head, same, ← preorder_head]⟩

-- The nodes waiting first are listed first, and each part of the list finishes on its own.
theorem preorder_append : ∀ (k : Nat) (a b : List NodeRef), w.Finished k (a ++ b) →
    w.Finished k a ∧ w.Finished k b ∧ w.preorder k (a ++ b) = w.preorder k a ++ w.preorder k b
  | k, [], b, finished => ⟨by cases k <;> trivial, finished, by cases k <;> rfl⟩
  | 0, _ :: _, _, finished => absurd finished id
  | k + 1, n :: a, b, finished => by
    have finished' : w.Finished k ((w.children n ++ a) ++ b) := by
      rw [List.append_assoc]
      exact finished
    obtain ⟨first, second, split⟩ := preorder_append k _ b finished'
    obtain ⟨second', spare⟩ := finished_succ k b second
    refine ⟨first, second', ?_⟩
    rw [List.cons_append, preorder_head, preorder_head, ← List.append_assoc, split, spare,
      List.cons_append]

-- A finished walk over several nodes lists the walk of each in turn.
theorem preorder_flatMap (k : Nat) : ∀ (todo : List NodeRef), w.Finished k todo →
    w.preorder k todo = todo.flatMap fun t => w.preorder k [t]
  | [], _ => by cases k <;> rfl
  | t :: rest, finished => by
    obtain ⟨-, finished', split⟩ := preorder_append k [t] rest finished
    rw [List.flatMap_cons, ← preorder_flatMap k rest finished', ← split, List.singleton_append]

theorem mem_traverse_self (r : NodeRef) : r ∈ w.traverse r := by
  rw [traverse, preorder_head]
  exact List.mem_cons_self

namespace Links

variable (links : w.Links)
include links

-- The walk from a node meets distinct nodes of the world, so it cannot take more steps than
-- the world has nodes.
theorem traverse_finished (r : NodeRef) : w.Finished (w.nodes.size + 1) [r] := by
  by_cases present : r.index < w.nodes.size
  · by_contra unfinished
    have long := preorder_length_of_unfinished _ _ unfinished
    have apart : w.Apart [r] := List.pairwise_singleton _ r
    have within : ∀ y ∈ w.preorder (w.nodes.size + 1) [r], y.index < w.nodes.size := by
      intro y member
      obtain ⟨t, given, s⟩ := links.covers_preorder _ _ y member
      rw [List.mem_singleton] at given
      subst given
      rcases s with rfl | above
      · exact present
      · exact present_of_above above
    have short := length_le_of_present (links.preorder_nodup _ _ apart) within
    rw [long] at short
    exact Nat.not_succ_le_self _ short
  · have none : w.children r = [] := by
      rw [children, node_of_size_le w r (Nat.le_of_not_lt present)]
      rfl
    show w.Finished w.nodes.size (w.children r ++ [])
    rw [none]
    cases w.nodes.size <;> trivial

theorem traverse_closed {r m c : NodeRef} (listed : m ∈ w.traverse r) (child : c ∈ w.children m) :
    c ∈ w.traverse r :=
  (preorder_closed _ _ (links.traverse_finished r)).2 m listed c child

theorem traverse_nodup (r : NodeRef) : (w.traverse r).Nodup :=
  links.preorder_nodup _ [r] (List.pairwise_singleton _ r)

-- The walk from a node lists exactly its subtree.
theorem mem_traverse_iff (r m : NodeRef) : m ∈ w.traverse r ↔ w.Subtree r m := by
  constructor
  · intro listed
    obtain ⟨t, given, s⟩ := links.covers_preorder _ [r] m listed
    rw [List.mem_singleton] at given
    exact given ▸ s
  · rintro (rfl | above)
    · exact mem_traverse_self m
    · -- down the chain of parents from `r`, one child at a time
      induction above with
      | single linked => exact links.traverse_closed (mem_traverse_self r) ((links.agree _ _).mpr linked)
      | tail _ linked listed => exact links.traverse_closed listed ((links.agree _ _).mpr linked)

theorem traverse_preorder (r : NodeRef) :
    w.traverse r = r :: (w.children r).flatMap w.traverse := by
  have finished : w.Finished w.nodes.size (w.children r ++ []) := links.traverse_finished r
  rw [List.append_nil] at finished
  rw [traverse, preorder_head, List.append_nil, preorder_flatMap _ _ finished]
  congr 1
  apply List.flatMap_congr
  intro c child
  -- the walk from a child finishes within the fuel of its parent's walk, and one more step
  -- of fuel changes nothing
  obtain ⟨pre, post, split⟩ := List.append_of_mem child
  have below : w.Finished w.nodes.size [c] := by
    rw [split] at finished
    have rest := (preorder_append _ pre (c :: post) finished).2.1
    exact (preorder_append _ [c] post rest).1
  exact (finished_succ _ _ below).2.symm

end Links

end TaskTree.World
