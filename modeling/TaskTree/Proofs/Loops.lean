import TaskTree.Proofs.Materialize
import TaskTree.Proofs.Results
import TaskTree.Proofs.Batches

set_option autoImplicit false

namespace TaskTree

namespace World

theorem resultsSound_of_unheard {w : World} (links : w.Links)
    (unheard : ∀ d ∈ w.nodes, d.listeners.list = []) : w.ResultsSound where
  own n l member := by
    rcases w.node_default_or_mem n with blank | present
    · rw [blank] at member
      cases member
    · rw [unheard _ present] at member
      cases member
  acyclic := links.acyclic

end World

namespace Run

-- Once its children are made, a loop's work is its queue's.
theorem startWork_loop (host : Host) (L : NodeRef) (callArgs args : List Json) (w w' : World)
    (q : QueueState) (l : LoopState) (loop : (w.node L).body = .loop q l)
    (ran : (materialize host L callArgs).run w = (.ok (), w')) :
    startWork host L callArgs args w = startQueue L w' := by
  simp only [startWork, bind_apply, get_apply, loop, ran]

-- A loop over two items whose factory makes a job that echoes its arguments, alone in its world.
def echoLoop : LoopState where
  source := some (.value "x" (.arr [.nat 1, .nat 2]))
  factory := some (.host ⟨"make_echo", .null⟩)

def echoLoopWorld : World where
  nodes := #[{ id := "l", body := .loop { limit := 1 } echoLoop }]

-- A loop beneath a job, whose factory compiles a queue that holds the job.
def jobQueueFactory : NodeFactory :=
  .compile ⟨0⟩ { type := .queue, queue := some [.node ⟨0⟩] }

def loopBeneathJobWorld : World where
  nodes := #[
    { id := "r", body := .job ⟨"echo", .null⟩, children := [⟨1⟩] },
    { id := "l", body := .loop { limit := 1 }
        { source := some (.value "x" (.arr [.nat 1])), factory := some jobQueueFactory },
      parent := some ⟨0⟩ }]

end Run

end TaskTree
