import TaskTree.World

namespace TaskTree

set_option autoImplicit false

namespace World

def parent (w : World) (n : NodeRef) : Option NodeRef :=
  match (w.node n).parent with
  | some p => if (w.node p).live then some p else none
  | none => none

def ancestors (w : World) : Nat → NodeRef → List NodeRef
  | 0, _ => []
  | fuel + 1, n =>
    match w.parent n with
    | some p => p :: w.ancestors fuel p
    | none => []

def parents (w : World) (n : NodeRef) : List NodeRef :=
  w.ancestors w.nodes.size n

def level (w : World) (n : NodeRef) : Nat :=
  (w.parents n).length

def root (w : World) (n : NodeRef) : NodeRef :=
  (w.parents n).getLast?.getD n

def children (w : World) (n : NodeRef) : List NodeRef :=
  (w.node n).children

def hasChild (w : World) (n c : NodeRef) : Bool :=
  (w.children n).contains c

def hooks (w : World) (n : NodeRef) : List NodeRef :=
  let s := (w.node n).settings
  [s.onSuccess, s.onFail, s.always].filterMap id

def isHook (w : World) (n c : NodeRef) : Bool :=
  (w.hooks n).contains c

def preorder (w : World) : Nat → List NodeRef → List NodeRef
  | 0, _ => []
  | _, [] => []
  | fuel + 1, n :: rest => n :: w.preorder fuel (w.children n ++ rest)

def traverse (w : World) (n : NodeRef) : List NodeRef :=
  w.preorder (w.nodes.size + 1) [n]

def descendantCount (w : World) (n : NodeRef) : Nat :=
  (w.traverse n).length - 1

theorem ancestors_zero (w : World) (n : NodeRef) : w.ancestors 0 n = [] := rfl

theorem ancestors_of_parent (w : World) (fuel : Nat) (n p : NodeRef)
    (linked : w.parent n = some p) : w.ancestors (fuel + 1) n = p :: w.ancestors fuel p := by
  simp [ancestors, linked]

theorem preorder_head (w : World) (fuel : Nat) (n : NodeRef) (rest : List NodeRef) :
    w.preorder (fuel + 1) (n :: rest) = n :: w.preorder fuel (w.children n ++ rest) := rfl

theorem traverse_head (w : World) (n : NodeRef) : (w.traverse n).head? = some n := by
  simp [traverse, preorder]

end World

end TaskTree
