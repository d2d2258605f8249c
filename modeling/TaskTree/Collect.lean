import TaskTree.Run

namespace TaskTree

set_option autoImplicit false

def Blueprint.nodesWith : Nat → Blueprint → List NodeRef
  | 0, _ => []
  | _, .node n => [n]
  | fuel + 1, .plan p =>
    let nested := p.onFail.toList ++ p.onSuccess.toList ++ p.always.toList ++
      p.queue.getD [] ++ p.node.toList
    nested.flatMap (Blueprint.nodesWith fuel)

def NodeFactory.nodes : NodeFactory → List NodeRef
  | .compile _ plan => Blueprint.nodesWith planDepth (.plan plan)
  | .host _ => []

namespace World

def holds (w : World) (n : NodeRef) : List NodeRef :=
  let d := w.node n
  d.children ++ w.hooks n ++
    match d.body with
    | .placeholder f resolved => resolved.toList ++ f.nodes
    | .loop _ l => l.made ++ (l.factory.map NodeFactory.nodes).getD []
    | _ => []

def mark (w : World) : Nat → List NodeRef → Array Bool → Array Bool
  | 0, _, marks => marks
  | _, [], marks => marks
  | fuel + 1, n :: rest, marks =>
    if marks[n.index]?.getD true then w.mark fuel rest marks
    else w.mark fuel (w.holds n ++ rest) (marks.setIfInBounds n.index true)

def markSteps (w : World) (roots : List NodeRef) : Nat :=
  roots.length + (List.range w.nodes.size).foldl (fun acc i => acc + (w.holds ⟨i⟩).length) 0 + 1

def collect (w : World) (roots : List NodeRef) : World :=
  let marks := w.mark (w.markSteps roots) roots (Array.replicate w.nodes.size false)
  { w with nodes := w.nodes.mapIdx fun i d => { d with live := d.live && marks[i]?.getD false } }

theorem mark_zero (w : World) (todo : List NodeRef) (marks : Array Bool) :
    w.mark 0 todo marks = marks := rfl

end World

end TaskTree
