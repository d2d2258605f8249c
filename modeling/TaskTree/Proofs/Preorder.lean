import TaskTree.Proofs.Rerun
import TaskTree.Proofs.Materialize
import Mathlib

set_option autoImplicit false

namespace TaskTree.World

def IsPreorder (w : World) (pre : NodeRef → List NodeRef) : Prop :=
  ∀ m, pre m = m :: (w.children m).flatMap pre

def resetStep (w v : World) (d : NodeRef) : World :=
  (v.modifyNode d fun x => { x with state := .pending }).emit d "reset" [.str (w.state d).name]

theorem indent_eq (k : Nat) :
    String.join (List.replicate k "  ") = String.ofList (List.replicate (2 * k) ' ') := by
  induction k with
  | zero => rfl
  | succ k ih =>
    rw [List.replicate_succ, String.join_cons, ih, Nat.mul_succ, Nat.add_comm,
      List.replicate_add, String.ofList_append]
    rfl

variable {w : World}

namespace Links

variable (links : w.Links)
include links

-- A child's walk is part of its parent's, which is longer by the parent at least.
theorem traverse_length_lt {m c : NodeRef} (child : c ∈ w.children m) :
    (w.traverse c).length < (w.traverse m).length := by
  rw [links.traverse_preorder m, List.length_cons, List.flatMap_def]
  have part : List.Sublist (w.traverse c) ((w.children m).map w.traverse).flatten :=
    List.sublist_flatten_of_mem (List.mem_map_of_mem child)
  exact Nat.lt_succ_of_le part.length_le

theorem preorder_unique {pre : NodeRef → List NodeRef} (solves : w.IsPreorder pre)
    (m : NodeRef) : pre m = w.traverse m := by
  -- by strong induction on the size of the subtree
  induction size : (w.traverse m).length using Nat.strong_induction_on generalizing m with
  | _ k ih =>
    rw [solves m, links.traverse_preorder m]
    congr 1
    refine List.flatMap_congr fun c child => ?_
    exact ih _ (size ▸ links.traverse_length_lt child) c rfl

theorem descendantCount_succ (m : NodeRef) :
    w.descendantCount m + 1 = (w.traverse m).length := by
  rw [descendantCount, links.traverse_preorder m, List.length_cons, Nat.add_sub_cancel]

theorem descendantCount_children (m : NodeRef) :
    w.descendantCount m = ((w.children m).map fun c => w.descendantCount c + 1).sum := by
  rw [descendantCount, links.traverse_preorder m, List.length_cons, Nat.add_sub_cancel,
    List.length_flatMap]
  refine congrArg List.sum (List.map_congr_left fun c _ => ?_)
  exact (links.descendantCount_succ c).symm

-- The walk up from a child passes its parent first and then walks on from there: the walk
-- from the parent ends before its steps run out, so the one step fewer it has changes nothing.
theorem parents_of_parent {m c : NodeRef} (linked : w.parent c = some m) :
    w.parents c = m :: w.parents m := by
  have short := links.parents_short linked
  obtain ⟨k, size⟩ : ∃ k, w.nodes.size = k + 1 :=
    ⟨w.nodes.size - 1, by have := links.present linked; omega⟩
  have up : w.parents c = m :: w.ancestors k m := by
    rw [parents, size, ancestors_of_parent w k c m linked]
  rw [up, List.length_cons, size] at short
  rw [up, parents, size,
    @ancestors_eq_of_parents w w k (k + 1) m (by omega) (by omega) fun _ _ => rfl]

theorem level_of_parent {m c : NodeRef} (linked : w.parent c = some m) :
    w.level c = w.level m + 1 := by
  rw [level, level, links.parents_of_parent linked, List.length_cons]

theorem level_le_of_subtree {n d : NodeRef} (below : w.Subtree n d) : w.level n ≤ w.level d := by
  rcases below with rfl | above
  · exact Nat.le_refl _
  · induction above with
    | single linked => exact (links.level_of_parent linked).symm ▸ Nat.le_succ _
    | tail _ linked ih => exact (links.level_of_parent linked).symm ▸ Nat.le_succ_of_le ih

end Links

-- A reset step touches the state of its node alone.
theorem frame_resetStep (u v : World) (d : NodeRef) : Frame (· = d) v (resetStep u v d) :=
  (Frame.modifyState v (by rfl) .pending).trans (Frame.of_agree (Agree.emit _ d _ _))

-- Over a list without repeats, each node is still in its first state when the fold reaches
-- it, so the state each step announces is the one the node had before the reset.
theorem foldl_resetStep : ∀ (l : List NodeRef) (v : World), l.Nodup →
    (∀ d ∈ l, v.state d = w.state d) → l.foldl (fun u d => resetStep u u d) v =
      l.foldl (resetStep w) v
  | [], _, _, _ => rfl
  | d :: rest, v, nodup, first => by
    obtain ⟨fresh, nodup'⟩ := List.nodup_cons.mp nodup
    have announced : resetStep v v d = resetStep w v d := by
      rw [resetStep, resetStep, first d List.mem_cons_self]
    rw [List.foldl_cons, List.foldl_cons, announced]
    refine foldl_resetStep rest _ nodup' fun e later => ?_
    have differ : e ≠ d := fun same => fresh (same ▸ later)
    rw [(frame_resetStep w v d).state e differ]
    exact first e (List.mem_cons_of_mem d later)

-- The reset leaves the nodes it listed pending and the others as they were.
theorem resetState_state (w : World) (n m : NodeRef) :
    (w.resetState n).state m = if m ∈ w.traverse n then .pending else w.state m := by
  obtain ⟨frame, pending⟩ := resetState_frame w n
  split
  · rename_i listed
    exact pending m listed
  · rename_i unlisted
    exact frame.state m unlisted

theorem resetState_scope (w : World) (n m : NodeRef) :
    ((w.resetState n).node m).scope = (w.node m).scope :=
  (resetState_frame w n).1.toShaped.scope m

theorem Links.resetState_eq (links : w.Links) (n : NodeRef) :
    w.resetState n = (w.traverse n).foldl (resetStep w) w := by
  rw [← foldl_resetStep (w.traverse n) w (links.traverse_nodup n) fun _ _ => rfl]
  rfl

theorem toTree_eq (w : World) (n : NodeRef) :
    w.toTree n = String.join ((w.traverse n).map fun d =>
      String.ofList (List.replicate (2 * (w.level d - w.level n)) ' ') ++ "- " ++ w.display d ++
        "\n") := by
  simp only [toTree, indent_eq]

/-- On a tree, the walk from a node stops within its steps and lists the pre-order of the
subtree, the only lists that satisfy the pre-order equations, each node of the subtree once.
The count of descendants, the reset and the outline read that walk: the reset puts exactly the
subtree back to pending, in pre-order, with one `reset` event on each node carrying the state
it left, and changes no scope; the outline indents each node two spaces for each level below
the top, a difference that never falls below zero since a child lies one level below its
parent. -/
theorem subtree_walk_preorder (links : w.Links) (n : NodeRef) :
    (w.Finished (w.nodes.size + 1) [n] ∧ w.IsPreorder w.traverse ∧
      (∀ pre, w.IsPreorder pre → pre n = w.traverse n) ∧
      (w.traverse n).Nodup ∧ ∀ m, m ∈ w.traverse n ↔ w.Subtree n m) ∧
    (w.descendantCount n + 1 = (w.traverse n).length ∧
      w.descendantCount n = ((w.children n).map fun c => w.descendantCount c + 1).sum) ∧
    (w.resetState n = (w.traverse n).foldl (resetStep w) w ∧
      (∀ m, (w.resetState n).state m = if m ∈ w.traverse n then .pending else w.state m) ∧
      ∀ m, ((w.resetState n).node m).scope = (w.node m).scope) ∧
    (w.toTree n = String.join ((w.traverse n).map fun d =>
        String.ofList (List.replicate (2 * (w.level d - w.level n)) ' ') ++ "- " ++ w.display d ++
          "\n") ∧
      (∀ d ∈ w.traverse n, w.level n ≤ w.level d) ∧
      ∀ m c, c ∈ w.children m → w.level c = w.level m + 1) := by
  refine ⟨⟨links.traverse_finished n, links.traverse_preorder,
      fun pre solves => links.preorder_unique solves n, links.traverse_nodup n,
      links.mem_traverse_iff n⟩,
    ⟨links.descendantCount_succ n, links.descendantCount_children n⟩,
    ⟨links.resetState_eq n, resetState_state w n, resetState_scope w n⟩,
    ⟨toTree_eq w n, fun d listed => ?_, fun m c child => ?_⟩⟩
  · exact links.level_le_of_subtree ((links.mem_traverse_iff n d).mp listed)
  · exact links.level_of_parent ((links.agree m c).mp child)

def nestedNodes : World where
  nodes := #[{ id := "q", body := .queue { limit := 1 } },
    { id := "a", body := .job ⟨"echo", .null⟩, state := .successful },
    { id := "b", body := .job ⟨"echo", .null⟩ },
    { id := "c", body := .job ⟨"echo", .null⟩, state := .failed }]

def nestedWorld : World :=
  nestedNodes.applyLinks [.append ⟨0⟩ ⟨1⟩, .append ⟨0⟩ ⟨2⟩, .append ⟨1⟩ ⟨3⟩]

theorem nested_walk_preorder :
    nestedWorld.Links ∧
      ((nestedWorld.Finished (nestedWorld.nodes.size + 1) [⟨0⟩] ∧
        nestedWorld.IsPreorder nestedWorld.traverse ∧
        (∀ pre, nestedWorld.IsPreorder pre → pre ⟨0⟩ = nestedWorld.traverse ⟨0⟩) ∧
        (nestedWorld.traverse ⟨0⟩).Nodup ∧
        ∀ m, m ∈ nestedWorld.traverse ⟨0⟩ ↔ nestedWorld.Subtree ⟨0⟩ m) ∧
      (nestedWorld.descendantCount ⟨0⟩ + 1 = (nestedWorld.traverse ⟨0⟩).length ∧
        nestedWorld.descendantCount ⟨0⟩ =
          ((nestedWorld.children ⟨0⟩).map fun c => nestedWorld.descendantCount c + 1).sum) ∧
      (nestedWorld.resetState ⟨0⟩ =
          (nestedWorld.traverse ⟨0⟩).foldl (resetStep nestedWorld) nestedWorld ∧
        (∀ m, (nestedWorld.resetState ⟨0⟩).state m =
          if m ∈ nestedWorld.traverse ⟨0⟩ then .pending else nestedWorld.state m) ∧
        ∀ m, ((nestedWorld.resetState ⟨0⟩).node m).scope = (nestedWorld.node m).scope) ∧
      (nestedWorld.toTree ⟨0⟩ = String.join ((nestedWorld.traverse ⟨0⟩).map fun d =>
          String.ofList (List.replicate (2 * (nestedWorld.level d - nestedWorld.level ⟨0⟩)) ' ') ++
            "- " ++ nestedWorld.display d ++ "\n") ∧
        (∀ d ∈ nestedWorld.traverse ⟨0⟩, nestedWorld.level ⟨0⟩ ≤ nestedWorld.level d) ∧
        ∀ m c, c ∈ nestedWorld.children m → nestedWorld.level c = nestedWorld.level m + 1)) := by
  have links : nestedWorld.Links := by
    have unlinked := links_of_unlinked nestedNodes (by simp [nestedNodes, NodeBody.queueState?])
    have alive := alive_of_live nestedNodes (by simp [nestedNodes])
    exact (applyLinks_keeps _ nestedNodes unlinked.1 alive
      (by simp [nestedNodes, LinkOp.Among, LinkOp.parent, LinkOp.child])).links
  exact ⟨links, subtree_walk_preorder links ⟨0⟩⟩

example : nestedWorld.traverse ⟨0⟩ = [⟨0⟩, ⟨1⟩, ⟨3⟩, ⟨2⟩] := by rfl

example : nestedWorld.toTree ⟨0⟩ =
    "- queue: pending\n  - job: successful\n    - job: failed\n  - job: pending\n" := by
  rfl

end TaskTree.World
