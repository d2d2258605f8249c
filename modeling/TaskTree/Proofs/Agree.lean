import TaskTree.Proofs.Links

set_option autoImplicit false

namespace TaskTree

-- The body without the counts of a queue or loop.
def NodeBody.uncounted : NodeBody → NodeBody
  | .queue q => .queue { q with stats := {} }
  | .loop q l => .loop { q with stats := {} } l
  | b => b

-- A node as a run reads it, but for its state.
def NodeData.shape (d : NodeData) : NodeData :=
  { d with listeners := {}, state := .pending, body := d.body.uncounted }

namespace NodeBody

theorem kind_uncounted (b : NodeBody) : b.uncounted.kind = b.kind := by
  cases b <;> rfl

theorem limit_uncounted (b : NodeBody) :
    b.uncounted.queueState?.map (·.limit) = b.queueState?.map (·.limit) := by
  cases b <;> rfl

-- A new queue state with the same limit changes only the counts.
theorem uncounted_withQueue (b : NodeBody) (q q' : QueueState) (has : b.queueState? = some q)
    (limit : q'.limit = q.limit) : (b.withQueue q').uncounted = b.uncounted := by
  cases b with
  | queue p =>
    cases has
    simp [withQueue, uncounted, limit]
  | loop p l =>
    cases has
    simp [withQueue, uncounted, limit]
  | _ => cases has

end NodeBody

namespace Host

-- Arguments functions that give the same on worlds related by `R`.
def ArgsKeep (host : Host) (R : World → World → Prop) : Prop :=
  ∀ f item u u', R u u' → host.argsFor f item u' = host.argsFor f item u

-- Arguments functions that read nothing of the world.
def PureArgs (host : Host) : Prop :=
  host.ArgsKeep fun _ _ => True

end Host

namespace World

-- Two worlds whose nodes look the same to a run, states aside.
structure Shaped (u u' : World) : Prop where
  size : u'.nodes.size = u.nodes.size
  shape : ∀ n, (u'.node n).shape = (u.node n).shape

namespace Shaped

variable {u u' u₂ : World}

theorem refl (u : World) : Shaped u u := ⟨rfl, fun _ => rfl⟩

theorem symm (s : Shaped u u') : Shaped u' u := ⟨s.size.symm, fun n => (s.shape n).symm⟩

theorem trans (first : Shaped u u') (second : Shaped u' u₂) : Shaped u u₂ :=
  ⟨second.size.trans first.size, fun n => (second.shape n).trans (first.shape n)⟩

theorem link (s : Shaped u u') (n : NodeRef) : (u'.node n).parent = (u.node n).parent := by
  have same := congrArg NodeData.parent (s.shape n)
  exact same

theorem live (s : Shaped u u') (n : NodeRef) : (u'.node n).live = (u.node n).live := by
  have same := congrArg NodeData.live (s.shape n)
  exact same

theorem children (s : Shaped u u') (n : NodeRef) : u'.children n = u.children n := by
  have same := congrArg NodeData.children (s.shape n)
  exact same

theorem scope (s : Shaped u u') (n : NodeRef) : (u'.node n).scope = (u.node n).scope := by
  have same := congrArg NodeData.scope (s.shape n)
  exact same

theorem settings (s : Shaped u u') (n : NodeRef) : (u'.node n).settings = (u.node n).settings := by
  have same := congrArg NodeData.settings (s.shape n)
  exact same

theorem id (s : Shaped u u') (n : NodeRef) : (u'.node n).id = (u.node n).id := by
  have same := congrArg NodeData.id (s.shape n)
  exact same

theorem body (s : Shaped u u') (n : NodeRef) :
    (u'.node n).body.uncounted = (u.node n).body.uncounted := by
  have same := congrArg NodeData.body (s.shape n)
  exact same

theorem kind (s : Shaped u u') (n : NodeRef) : u'.kind n = u.kind n := by
  rw [World.kind, World.kind, ← NodeBody.kind_uncounted, s.body n, NodeBody.kind_uncounted]

theorem maxConcurrency (s : Shaped u u') (n : NodeRef) :
    u'.maxConcurrency n = u.maxConcurrency n := by
  rw [World.maxConcurrency, World.maxConcurrency, ← NodeBody.limit_uncounted, s.body n,
    NodeBody.limit_uncounted]

theorem parent (s : Shaped u u') (n : NodeRef) : u'.parent n = u.parent n :=
  parent_eq_of_link u u' n (s.link n) s.live

theorem ancestors (s : Shaped u u') : ∀ (k : Nat) (n : NodeRef), u'.ancestors k n = u.ancestors k n
  | 0, _ => rfl
  | k + 1, n => by
    simp only [World.ancestors, s.parent n, ancestors s k]

theorem parents (s : Shaped u u') (n : NodeRef) : u'.parents n = u.parents n := by
  rw [World.parents, World.parents, s.size, s.ancestors]

theorem hasChild (s : Shaped u u') (n c : NodeRef) : u'.hasChild n c = u.hasChild n c := by
  rw [World.hasChild, World.hasChild, s.children]

theorem hooks (s : Shaped u u') (n : NodeRef) : u'.hooks n = u.hooks n := by
  simp only [World.hooks, s.settings n]

theorem isHook (s : Shaped u u') (n c : NodeRef) : u'.isHook n c = u.isHook n c := by
  rw [World.isHook, World.isHook, s.hooks]

theorem scopeGet (s : Shaped u u') (n : NodeRef) (key : String) :
    u'.scopeGet n key = u.scopeGet n key := by
  simp only [World.scopeGet, s.parents n, s.scope]

theorem scopePath (s : Shaped u u') (n : NodeRef) (path : String) :
    u'.scopePath n path = u.scopePath n path := by
  simp only [World.scopePath, s.scopeGet n]

theorem substitute (s : Shaped u u') (n : NodeRef) (v : Json) :
    u'.substitute n v = u.substitute n v := by
  have paths : u'.scopePath n = u.scopePath n := funext (s.scopePath n)
  cases v <;> simp only [World.substitute, paths]

theorem name (s : Shaped u u') (n : NodeRef) : u'.name n = u.name n := by
  simp only [World.name, s.settings n, s.substitute n]

theorem args (s : Shaped u u') (n : NodeRef) : u'.args n = u.args n := by
  have substituted : u'.substitute n = u.substitute n := funext (s.substitute n)
  simp only [World.args, s.settings n, substituted]

theorem hasArgs (s : Shaped u u') (n : NodeRef) : u'.hasArgs n = u.hasArgs n := by
  simp only [World.hasArgs, s.settings n]

theorem resolveArgs (s : Shaped u u') (host : Host)
    (keeps : ∀ f item, host.argsFor f item u' = host.argsFor f item u) (n : NodeRef)
    (callArgs : List Json) (item : Option Json) :
    u'.resolveArgs host n callArgs item = u.resolveArgs host n callArgs item := by
  simp only [World.resolveArgs, s.settings n, s.args n, keeps]

theorem preorder (s : Shaped u u') : ∀ (k : Nat) (todo : List NodeRef),
    u'.preorder k todo = u.preorder k todo
  | 0, _ => rfl
  | _ + 1, [] => rfl
  | k + 1, n :: rest => by
    rw [preorder_head, preorder_head, s.children n, preorder s k]

theorem traverse (s : Shaped u u') (n : NodeRef) : u'.traverse n = u.traverse n := by
  rw [World.traverse, World.traverse, s.size, s.preorder]

-- Links read children and parents only.
theorem links (s : Shaped u u') (links : u.Links) : u'.Links :=
  links.congr s.children s.parent

end Shaped

-- Two worlds that look the same to a run: the same shapes and the same states.
structure Agree (u u' : World) : Prop extends Shaped u u' where
  state : ∀ n, u'.state n = u.state n

namespace Agree

variable {u u' u₂ : World}

theorem refl (u : World) : Agree u u := ⟨Shaped.refl u, fun _ => rfl⟩

theorem symm (a : Agree u u') : Agree u' u := ⟨a.toShaped.symm, fun n => (a.state n).symm⟩

theorem trans (first : Agree u u') (second : Agree u' u₂) : Agree u u₂ :=
  ⟨first.toShaped.trans second.toShaped, fun n => (second.state n).trans (first.state n)⟩

theorem descriptor (a : Agree u u') (n : NodeRef) : u'.descriptor n = u.descriptor n := by
  simp only [World.descriptor, a.id n, a.name n, a.kind n, a.state n]

theorem display (a : Agree u u') (n : NodeRef) : u'.display n = u.display n := by
  simp only [World.display, a.name n, a.settings n, a.kind n, a.state n]

theorem validate (a : Agree u u') (n : NodeRef) : u'.validate n = u.validate n := by
  simp only [World.validate, a.id n, a.toShaped.kind, a.settings n, a.display n]

-- Raising events, writing the journal and the contexts: a run reads none of it.
theorem of_quiet (quiet : Quiet u u') : Agree u u' where
  size := quiet.size
  shape n := by
    have same := congrArg NodeData.shape (quiet.same n)
    exact same
  state n := quiet.state n

theorem emit (u : World) (n : NodeRef) (event : String) (args : List Json) :
    Agree u (u.emit n event args) :=
  of_quiet (quiet_emit u n event args)

theorem emit_twice (u : World) (n : NodeRef) (event event' : String) (args args' : List Json) :
    Agree u ((u.emit n event args).emit n event' args') :=
  (emit u n event args).trans (emit _ n event' args')

theorem modifyStats (u : World) (n : NodeRef) (f : JobStats → JobStats) :
    Agree u (u.modifyStats n f) where
  size := size_modifyNode u n _
  shape m := by
    simp only [World.modifyStats, World.modifyQueue, node_modifyNode]
    split
    · split
      · rename_i q has
        have counts := NodeBody.uncounted_withQueue (u.node m).body q { q with stats := f q.stats }
          has rfl
        simp only [NodeData.shape, counts]
      · rfl
    · rfl
  state m := by
    simp only [World.modifyStats, World.modifyQueue, World.state, node_modifyNode]
    split
    · split <;> rfl
    · rfl

-- The same change of state on both sides keeps them agreeing.
theorem modifyState (a : Agree u u') (n : NodeRef) (s : ExecState) :
    Agree (u.modifyNode n fun d => { d with state := s })
      (u'.modifyNode n fun d => { d with state := s }) where
  size := by rw [size_modifyNode, size_modifyNode, a.size]
  shape m := by
    simp only [node_modifyNode, a.size]
    split
    · exact a.shape m
    · exact a.shape m
  state m := by
    simp only [World.state, node_modifyNode, a.size]
    split
    · rfl
    · exact a.state m

theorem setStateWith (a : Agree u u') (n : NodeRef) (target : ExecState) (args : List Json) :
    (u'.setStateWith n target args).2 = (u.setStateWith n target args).2 ∧
      Agree (u.setStateWith n target args).1 (u'.setStateWith n target args).1 := by
  simp only [World.setStateWith, a.state n, a.id n]
  split
  · exact ⟨rfl, a⟩
  · exact ⟨rfl, a⟩
  · rename_i source reached _
    dsimp only
    refine ⟨rfl, ?_⟩
    -- the move itself, then two events that a run does not read
    have moved := a.modifyState n reached
    have before := emit_twice (u.modifyNode n fun d => { d with state := reached }) n "state"
      reached.name [.str reached.name, .str source.name] args
    have after := emit_twice (u'.modifyNode n fun d => { d with state := reached }) n "state"
      reached.name [.str reached.name, .str source.name] args
    exact before.symm.trans (moved.trans after)

end Agree

-- A change that leaves every node as a run sees it, but for the states of nodes in `T`.
structure Frame (T : NodeRef → Prop) (u u' : World) : Prop extends Shaped u u' where
  state : ∀ n, ¬T n → u'.state n = u.state n

namespace Frame

variable {T : NodeRef → Prop} {u u' u₂ : World}

theorem of_agree (a : Agree u u') : Frame T u u' := ⟨a.toShaped, fun n _ => a.state n⟩

theorem trans (first : Frame T u u') (second : Frame T u' u₂) : Frame T u u₂ :=
  ⟨first.toShaped.trans second.toShaped, fun n outside =>
    (second.state n outside).trans (first.state n outside)⟩

theorem mono {T' : NodeRef → Prop} (frame : Frame T u u') (wider : ∀ n, T n → T' n) :
    Frame T' u u' :=
  ⟨frame.toShaped, fun n outside => frame.state n fun inside => outside (wider n inside)⟩

theorem modifyState (u : World) {n : NodeRef} (inside : T n) (s : ExecState) :
    Frame T u (u.modifyNode n fun d => { d with state := s }) where
  size := size_modifyNode u n _
  shape m := by
    rw [node_modifyNode]
    split
    · rfl
    · rfl
  state m outside := by
    have differ : m ≠ n := fun same => outside (same ▸ inside)
    simp only [World.state, node_modifyNode, differ, false_and, ↓reduceIte]

theorem setStateWith (u : World) {n : NodeRef} (inside : T n) (target : ExecState)
    (args : List Json) : Frame T u (u.setStateWith n target args).1 := by
  simp only [World.setStateWith]
  split
  · exact of_agree (Agree.refl u)
  · exact of_agree (Agree.refl u)
  · rename_i source reached _
    dsimp only
    have events := Agree.emit_twice (u.modifyNode n fun d => { d with state := reached }) n
      "state" reached.name [.str reached.name, .str source.name] args
    exact (modifyState u inside reached).trans (of_agree events)

end Frame

end World

end TaskTree
