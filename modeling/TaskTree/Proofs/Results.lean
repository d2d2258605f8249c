import TaskTree.Proofs.Effects

set_option autoImplicit false

namespace TaskTree

-- An entry that a context's listener wrote into the journal.
def JournalEntry.isContext : JournalEntry → Bool
  | .context .. => true
  | .node .. => false

-- What the contexts show: their entries and listeners, and the events they announced, in order.
structure ContextView where
  contexts : Array ContextData
  announced : List JournalEntry

-- The context and the key of a listener that stores a result.
def Handler.resultKey : Handler → Option (ContextRef × String)
  | .record _ => none
  | .keepResult c key _ => some (c, key)

-- A listener of node `n` that stores a result stores `n`'s own, hears only `successful`, and
-- stays once it heard it.
def Listener.StoresOwn (n : NodeRef) (l : Listener Handler) : Prop :=
  ∀ c key owner, l.handler = .keepResult c key owner →
    owner = n ∧ l.event = some "successful" ∧ l.once = false

-- A move the rules take leaves the current state for the target.
theorem ExecState.moveTo_reached {s target source reached : ExecState}
    (moved : ExecState.moveTo s target = .ok (some (source, reached))) :
    source = s ∧ reached = target := by
  cases s <;> cases target <;> cases moved <;> exact ⟨rfl, rfl⟩

-- Only a node in progress moves to `successful`.
theorem ExecState.moveTo_successful {s source reached : ExecState}
    (moved : ExecState.moveTo s .successful = .ok (some (source, reached))) : s = .inProgress := by
  cases s <;> cases moved
  rfl

theorem ExecState.name_eq_successful {s : ExecState} : s.name = "successful" ↔ s = .successful := by
  cases s <;> simp [ExecState.name]

namespace World

def contextView (w : World) : ContextView :=
  ⟨w.contexts, w.journal.toList.filter JournalEntry.isContext⟩

-- The keys a node stores its result under, with their contexts, in the order they were
-- registered.
def resultKeys (w : World) (n : NodeRef) : List (ContextRef × String) :=
  (w.node n).listeners.list.filterMap (·.handler.resultKey)

-- The writes of a node's result `v`: under each of its keys, rendered in its scope, in order.
def storeWrites (w : World) (n : NodeRef) (v : Json) : World :=
  (w.resultKeys n).foldl
    (fun u key => u.ctxSet key.1 (Token.render (w.substitute n (.str key.2))) v) w

-- Listeners that store results store their own node's, and no node lies above itself.
structure ResultsSound (w : World) : Prop where
  own : ∀ n, ∀ l ∈ (w.node n).listeners.list, l.StoresOwn n
  acyclic : ∀ n, ¬w.Above n n

-- A change that keeps every parent link and every listener that stores a result, and can only
-- drop other listeners: raising an event, writing the journal or a context.
structure Calm (w w' : World) : Prop where
  parent : ∀ m, w'.parent m = w.parent m
  sublist : ∀ m, (w'.node m).listeners.list.Sublist (w.node m).listeners.list
  keys : ∀ m, w'.resultKeys m = w.resultKeys m

-- What a change keeps of the results: sound listeners, and each node's keys, perhaps with more
-- after them.
structure KeepsResults (w w' : World) : Prop where
  sound : w'.ResultsSound
  keys : ∀ m, w.resultKeys m <+: w'.resultKeys m

-- A change that keeps the results and leaves what the contexts show as it was.
structure KeepsContexts (w w' : World) : Prop extends KeepsResults w w' where
  view : w'.contextView = w.contextView

theorem contextView_eq {u u' : World} (contexts : u'.contexts = u.contexts)
    (journal : u'.journal.toList.filter JournalEntry.isContext =
      u.journal.toList.filter JournalEntry.isContext) : u'.contextView = u.contextView := by
  simp only [contextView, contexts, journal]

@[simp] theorem contextView_modifyNode (w : World) (n : NodeRef) (f : NodeData → NodeData) :
    (w.modifyNode n f).contextView = w.contextView := rfl

@[simp] theorem contextView_addNode (w : World) (body : NodeBody) :
    (w.addNode body).1.contextView = w.contextView := rfl

theorem contextView_record_node (w : World) (tag event : String) (target : Descriptor)
    (args : List Json) : (w.record (.node tag event target args)).contextView = w.contextView :=
  contextView_eq rfl (by simp [record, JournalEntry.isContext])

-- Writing the journal, one entry per tag.
theorem foldl_record {β : Type} (entry : β → JournalEntry) :
    ∀ (tags : List β) (u : World), tags.foldl (fun w tag => w.record (entry tag)) u =
      { u with journal := (u.journal.toList ++ tags.map entry).toArray }
  | [], u => by simp
  | tag :: rest, u => by
    rw [List.foldl_cons, foldl_record entry rest]
    simp [record]

theorem contexts_ctxNotify (u : World) (c : ContextRef) (event : String) (args : List Json) :
    (u.ctxNotify c event args).contexts = u.contexts.modify c.index
      fun d => { d with listeners := ((u.context c).listeners.fire event).2 } := by
  simp only [ctxNotify, foldl_record]
  rfl

theorem announced_ctxNotify (u : World) (c : ContextRef) (event : String) (args : List Json) :
    (u.ctxNotify c event args).journal.toList.filter JournalEntry.isContext =
      u.journal.toList.filter JournalEntry.isContext ++
        ((u.context c).listeners.fire event).1.map fun tag => .context tag event args := by
  simp only [ctxNotify, foldl_record, List.toList_toArray, List.filter_append]
  congr 1
  exact List.filter_eq_self.mpr fun e member => by
    obtain ⟨tag, -, rfl⟩ := List.mem_map.mp member
    rfl

theorem nodes_ctxNotify (u : World) (c : ContextRef) (event : String) (args : List Json) :
    (u.ctxNotify c event args).nodes = u.nodes := by
  simp only [ctxNotify, foldl_record]
  rfl

-- What a context announces depends only on what the contexts show.
theorem contextView_ctxNotify {u u' : World} (same : u'.contextView = u.contextView)
    (c : ContextRef) (event : String) (args : List Json) :
    (u'.ctxNotify c event args).contextView = (u.ctxNotify c event args).contextView := by
  have contexts : u'.contexts = u.contexts := congrArg ContextView.contexts same
  have announced := congrArg ContextView.announced same
  have context : u'.context c = u.context c := by simp only [context, contexts]
  refine contextView_eq ?_ ?_
  · rw [contexts_ctxNotify, contexts_ctxNotify, contexts, context]
  · rw [announced_ctxNotify, announced_ctxNotify, context]
    exact congrArg (· ++ _) announced

theorem contextView_ctxSet {u u' : World} (same : u'.contextView = u.contextView)
    (c : ContextRef) (key : String) (v : Json) :
    (u'.ctxSet c key v).contextView = (u.ctxSet c key v).contextView := by
  have contexts : u'.contexts = u.contexts := congrArg ContextView.contexts same
  dsimp only [ctxSet]
  refine contextView_ctxNotify ?_ c _ _
  exact contextView_eq (by simp only [modifyContext, contexts])
    (congrArg ContextView.announced same)

theorem nodes_ctxSet (u : World) (c : ContextRef) (key : String) (v : Json) :
    (u.ctxSet c key v).nodes = u.nodes :=
  nodes_ctxNotify _ c _ _

-- Steps that each leave what the contexts show as it was leave it so together.
theorem contextView_foldl {β : Type} (l : List β) (f : World → β → World)
    (each : ∀ b ∈ l, ∀ u, (f u b).contextView = u.contextView) :
    ∀ u, (l.foldl f u).contextView = u.contextView := by
  induction l with
  | nil => exact fun u => rfl
  | cons b rest ih =>
    intro u
    rw [List.foldl_cons, ih (fun b' member => each b' (List.mem_cons_of_mem b member)),
      each b List.mem_cons_self u]

-- The result the writes of a node's keys give depends only on what the contexts show.
theorem contextView_writes (w : World) (n : NodeRef) (v : Json) :
    ∀ (keys : List (ContextRef × String)) {u u' : World}, u'.contextView = u.contextView →
      (keys.foldl (fun u key => u.ctxSet key.1 (Token.render (w.substitute n (.str key.2))) v)
        u').contextView =
      (keys.foldl (fun u key => u.ctxSet key.1 (Token.render (w.substitute n (.str key.2))) v)
        u).contextView
  | [], _, _, same => same
  | _ :: rest, _, _, same => contextView_writes w n v rest (contextView_ctxSet same _ _ _)

theorem above_congr {w w' : World} (parent : ∀ m, w'.parent m = w.parent m) (a n : NodeRef) :
    w'.Above a n ↔ w.Above a n := by
  have same : (fun a n => w'.parent n = some a) = (fun a n => w.parent n = some a) := by
    funext a n
    rw [parent n]
  simp only [Above, same]

namespace Calm

variable {w w' w₁ w₂ w₃ : World}

theorem refl (w : World) : Calm w w :=
  ⟨fun _ => rfl, fun _ => List.Sublist.refl _, fun _ => rfl⟩

theorem trans (first : Calm w₁ w₂) (second : Calm w₂ w₃) : Calm w₁ w₃ where
  parent m := (second.parent m).trans (first.parent m)
  sublist m := (second.sublist m).trans (first.sublist m)
  keys m := (second.keys m).trans (first.keys m)

-- A change of the nodes that keeps every parent link and every node's listeners.
theorem of_listeners (parent : ∀ m, w'.parent m = w.parent m)
    (listeners : ∀ m, (w'.node m).listeners = (w.node m).listeners) : Calm w w' where
  parent := parent
  sublist m := by rw [listeners m]
  keys m := by simp only [resultKeys, listeners m]

theorem of_nodes (nodes : w'.nodes = w.nodes) : Calm w w' :=
  have same : ∀ m, w'.node m = w.node m := fun m => by simp only [World.node, nodes]
  of_listeners (fun m => parent_eq_of_link w w' m (by rw [same]) fun p => by rw [same])
    fun m => by rw [same]

theorem sound (calm : Calm w w') (sound : w.ResultsSound) : w'.ResultsSound where
  own n l member := sound.own n l ((calm.sublist n).subset member)
  acyclic n := by
    rw [above_congr calm.parent]
    exact sound.acyclic n

theorem keepsResults (calm : Calm w w') (sound : w.ResultsSound) : KeepsResults w w' :=
  ⟨calm.sound sound, fun m => by simp only [calm.keys m, List.prefix_refl]⟩

theorem foldl {β : Type} (l : List β) (f : World → β → World) (each : ∀ u b, Calm u (f u b)) :
    ∀ u, Calm u (l.foldl f u) := by
  induction l with
  | nil => exact fun u => refl u
  | cons b rest ih => exact fun u => (each u b).trans (ih _)

-- Steps that each keep the results calm on a sound world keep them so together.
theorem foldl_sound {β : Type} (l : List β) (f : World → β → World)
    (each : ∀ b ∈ l, ∀ u, u.ResultsSound → Calm u (f u b)) :
    ∀ u, u.ResultsSound → Calm u (l.foldl f u) := by
  induction l with
  | nil => exact fun u _ => refl u
  | cons b rest ih =>
    intro u sound
    have calm := each b List.mem_cons_self u sound
    exact calm.trans (ih (fun b' member => each b' (List.mem_cons_of_mem b member)) _
      (calm.sound sound))

end Calm

namespace KeepsResults

variable {w₁ w₂ w₃ : World}

theorem trans (first : KeepsResults w₁ w₂) (second : KeepsResults w₂ w₃) : KeepsResults w₁ w₃ :=
  ⟨second.sound, fun m => (first.keys m).trans (second.keys m)⟩

end KeepsResults

theorem calm_record (w : World) (e : JournalEntry) : Calm w (w.record e) :=
  Calm.of_nodes rfl

theorem calm_ctxSet (w : World) (c : ContextRef) (key : String) (v : Json) :
    Calm w (w.ctxSet c key v) :=
  Calm.of_nodes (nodes_ctxSet w c key v)

theorem calm_ctxResolvePath (w : World) (c : ContextRef) (path : String) :
    Calm w (w.ctxResolvePath c path).1 :=
  Calm.of_nodes (nodes_ctxNotify w c _ _)

theorem calm_handle (w : World) (target : NodeRef) (shown : Descriptor) (event : String)
    (args : List Json) (h : Handler) : Calm w (w.handle target shown event args h) := by
  cases h with
  | record tag => exact calm_record w _
  | keepResult c key owner =>
    simp only [handle]
    split
    · exact calm_ctxSet w c _ _
    · exact Calm.refl w

-- Setting a node's listeners, when it exists.
theorem listeners_modifyListeners (w : World) (n m : NodeRef) (ls : Listeners Handler) :
    ((w.modifyListeners n fun _ => ls).node m).listeners.list =
      if m = n ∧ n.index < w.nodes.size then ls.list else (w.node m).listeners.list := by
  simp only [modifyListeners, node_modifyNode]
  split <;> rfl

-- A node's listeners once an event has fired: those that hear it only once are gone, which no
-- listener that stores a result is.
theorem calm_fire (w : World) (sound : w.ResultsSound) (n : NodeRef) (event : String) :
    Calm w (w.modifyListeners n fun _ => ((w.node n).listeners.fire event).2) := by
  have kept : ∀ l ∈ (w.node n).listeners.list, l.handler.resultKey ≠ none →
      (!(l.once && l.hears event)) = true := by
    intro l member stores
    cases handler : l.handler with
    | record tag => rw [handler] at stores; exact absurd rfl stores
    | keepResult c key owner =>
      rw [(sound.own n l member c key owner handler).2.2]
      rfl
  have fired : ∀ m, ((w.modifyListeners n fun _ => ((w.node n).listeners.fire event).2).node m).listeners.list =
      if m = n ∧ n.index < w.nodes.size then
        (w.node n).listeners.list.filter fun l => !(l.once && l.hears event)
      else (w.node m).listeners.list :=
    fun m => listeners_modifyListeners w n m _
  refine ⟨fun m => parent_eq_of_steady (w.steady_modifyListeners n _) m, fun m => ?_, fun m => ?_⟩
  · rw [fired m]
    split
    · rename_i here
      rw [here.1]
      exact List.filter_sublist
    · exact List.Sublist.refl _
  · simp only [resultKeys]
    rw [fired m]
    split
    · rename_i here
      rw [here.1, List.filterMap_filter]
      refine List.filterMap_congr fun l member => ?_
      by_cases stores : l.handler.resultKey = none
      · simp [stores]
      · simp [kept l member stores]
    · rfl

theorem calm_dispatch (w : World) (sound : w.ResultsSound) (hearer target : NodeRef)
    (event : String) (args : List Json) : Calm w (w.dispatch hearer target event args) := by
  simp only [dispatch]
  exact (calm_fire w sound hearer event).trans
    (Calm.foldl _ _ (fun u h => calm_handle u target _ event args h) _)

-- A listener that stores a result writes only when its own node raises `successful`.
theorem contextView_handle_quiet {n : NodeRef} {l : Listener Handler} (owns : l.StoresOwn n)
    {target : NodeRef} {event : String} (hears : l.hears event = true)
    (quiet : n ≠ target ∨ event ≠ "successful") (u : World) (shown : Descriptor)
    (args : List Json) : (u.handle target shown event args l.handler).contextView = u.contextView := by
  cases handler : l.handler with
  | record tag => exact contextView_record_node u tag event shown args
  | keepResult c key owner =>
    obtain ⟨rfl, heard, -⟩ := owns c key owner handler
    have successful : event = "successful" := by
      simp only [Listener.hears, heard, beq_iff_eq] at hears
      exact hears.symm
    have other : target ≠ owner := fun same => quiet.elim (· same.symm) (· successful)
    simp only [handle, other, ↓reduceIte]

-- An event that is not a node's own success, heard by any node, leaves the contexts alone.
theorem contextView_dispatch_quiet (w : World) (sound : w.ResultsSound) {hearer target : NodeRef}
    {event : String} (quiet : hearer ≠ target ∨ event ≠ "successful") (args : List Json) :
    (w.dispatch hearer target event args).contextView = w.contextView := by
  simp only [dispatch]
  refine (contextView_foldl _ _ (fun h member u => ?_) _).trans rfl
  obtain ⟨l, owned, picked⟩ := List.mem_filterMap.mp member
  by_cases hears : l.hears event = true
  · simp only [hears, ↓reduceIte, Option.some.injEq] at picked
    rw [← picked]
    exact contextView_handle_quiet (sound.own hearer l owned) hears quiet u _ args
  · simp only [hears, Bool.false_eq_true, ↓reduceIte, reduceCtorEq] at picked

-- A node's own success, heard by the node itself: each of its listeners that stores a result
-- writes, in the order of registration, and no other listener touches the contexts.
theorem contextView_handlers_self (w : World) (n : NodeRef) (shown : Descriptor) (v : Json) :
    ∀ (ls : List (Listener Handler)), (∀ l ∈ ls, l.StoresOwn n) → ∀ (u u' : World), Quiet w u →
      u'.contextView = u.contextView →
      ((ls.filterMap fun l => if l.hears "successful" then some l.handler else none).foldl
          (fun u h => u.handle n shown "successful" [v] h) u).contextView =
        ((ls.filterMap (·.handler.resultKey)).foldl
          (fun u key => u.ctxSet key.1 (Token.render (w.substitute n (.str key.2))) v)
          u').contextView
  | [], _, _, _, _, same => same.symm
  | l :: rest, owns, u, u', quiet, same => by
    have ih := contextView_handlers_self w n shown v rest
      (fun l' member => owns l' (List.mem_cons_of_mem l member))
    cases handler : l.handler with
    | record tag =>
      -- a recording listener writes the journal only, if it hears the event at all
      by_cases hears : l.hears "successful" = true
      · simp only [List.filterMap_cons, hears, ↓reduceIte, handler, Handler.resultKey,
          List.foldl_cons]
        exact ih _ u' (quiet.trans (Quiet.of_nodes rfl))
          (same.trans (contextView_record_node u tag _ _ _).symm)
      · simp only [List.filterMap_cons, hears, Bool.false_eq_true, ↓reduceIte, handler,
          Handler.resultKey]
        exact ih u u' quiet same
    | keepResult c key owner =>
      -- a listener that stores a result is the node's own and hears its success
      obtain ⟨rfl, heard, -⟩ := owns l List.mem_cons_self c key owner handler
      have hears : l.hears "successful" = true := by simp [Listener.hears, heard]
      have rendered : u.substitute owner (.str key) = w.substitute owner (.str key) :=
        (Agree.of_quiet quiet).toShaped.substitute owner _
      simp only [List.filterMap_cons, hears, ↓reduceIte, handler, Handler.resultKey,
        List.foldl_cons, handle, rendered, List.head?_cons, Option.getD_some]
      exact ih _ _ (quiet.trans (Quiet.of_nodes (nodes_ctxSet u c _ v)))
        (contextView_ctxSet same c _ v)

-- Calm steps that each leave what the contexts show, on a sound world, leave it together.
theorem contextView_foldl_sound {β : Type} (l : List β) (f : World → β → World)
    (calm : ∀ b ∈ l, ∀ u, u.ResultsSound → Calm u (f u b))
    (each : ∀ b ∈ l, ∀ u, u.ResultsSound → (f u b).contextView = u.contextView) :
    ∀ u, u.ResultsSound → (l.foldl f u).contextView = u.contextView := by
  induction l with
  | nil => exact fun u _ => rfl
  | cons b rest ih =>
    intro u sound
    rw [List.foldl_cons, ih (fun b' member => calm b' (List.mem_cons_of_mem b member))
      (fun b' member => each b' (List.mem_cons_of_mem b member)) _
      ((calm b List.mem_cons_self u sound).sound sound), each b List.mem_cons_self u sound]

theorem contextView_dispatch_self (w : World) (sound : w.ResultsSound) (n : NodeRef) (v : Json) :
    (w.dispatch n n "successful" [v]).contextView = (w.storeWrites n v).contextView := by
  simp only [dispatch, storeWrites, resultKeys, Listeners.fire]
  exact contextView_handlers_self w n _ v _ (sound.own n) _ w (w.quiet_modifyListeners n _) rfl

theorem calm_emit (w : World) (sound : w.ResultsSound) (n : NodeRef) (event : String)
    (args : List Json) : Calm w (w.emit n event args) := by
  have first := calm_dispatch w sound n n event args
  exact first.trans (Calm.foldl_sound _ _ (fun a _ u sound' => calm_dispatch u sound' a n event args)
    _ (first.sound sound))

-- An event other than `successful` leaves the contexts as they were.
theorem contextView_emit_quiet (w : World) (sound : w.ResultsSound) (n : NodeRef) {event : String}
    (other : event ≠ "successful") (args : List Json) :
    (w.emit n event args).contextView = w.contextView := by
  have first := calm_dispatch w sound n n event args
  simp only [emit]
  rw [contextView_foldl_sound _ _ (fun a _ u sound' => calm_dispatch u sound' a n event args)
    (fun a _ u sound' => contextView_dispatch_quiet u sound' (.inr other) args) _
    (first.sound sound)]
  exact contextView_dispatch_quiet w sound (.inr other) args

-- A node's own success: its listeners that store a result write it, and the ancestors it
-- bubbles up to, which are other nodes, write nothing.
theorem contextView_emit_successful (w : World) (sound : w.ResultsSound) (n : NodeRef)
    (v : Json) : (w.emit n "successful" [v]).contextView = (w.storeWrites n v).contextView := by
  have first := calm_dispatch w sound n n "successful" [v]
  have other : ∀ a ∈ (w.dispatch n n "successful" [v]).parents n, a ≠ n := by
    intro a member same
    rw [(Agree.of_quiet (w.quiet_dispatch n n _ _)).toShaped.parents n, same] at member
    exact sound.acyclic n (above_of_mem_ancestors w w.nodes.size n n member)
  simp only [emit]
  rw [contextView_foldl_sound _ _ (fun a _ u sound' => calm_dispatch u sound' a n _ _)
    (fun a member u sound' => contextView_dispatch_quiet u sound' (.inl (other a member)) _) _
    (first.sound sound)]
  exact contextView_dispatch_self w sound n v

namespace KeepsContexts

variable {w₁ w₂ w₃ : World}

theorem trans (first : KeepsContexts w₁ w₂) (second : KeepsContexts w₂ w₃) :
    KeepsContexts w₁ w₃ :=
  ⟨first.toKeepsResults.trans second.toKeepsResults, second.view.trans first.view⟩

theorem of_eq {w w' : World} (sound : w.ResultsSound) (same : w' = w) : KeepsContexts w w' := by
  subst same
  exact ⟨(Calm.refl _).keepsResults sound, rfl⟩

end KeepsContexts

theorem Calm.keepsContexts {w w' : World} (calm : Calm w w') (sound : w.ResultsSound)
    (view : w'.contextView = w.contextView) : KeepsContexts w w' :=
  ⟨calm.keepsResults sound, view⟩

-- A change that undoes links and makes none keeps every node from lying above itself.
theorem above_of_fewer_links {w w' : World}
    (link : ∀ m, (w'.node m).parent = (w.node m).parent ∨ (w'.node m).parent = none)
    (live : ∀ m, (w'.node m).live = (w.node m).live) {a n : NodeRef} (above : w'.Above a n) :
    w.Above a n := by
  have kept : ∀ a m, w'.parent m = some a → w.parent m = some a := by
    intro a m linked
    rcases link m with same | none
    · simpa only [World.parent, same, live] using linked
    · simp [World.parent, none] at linked
  induction above with
  | single linked => exact .single (kept _ _ linked)
  | tail _ linked chain => exact chain.tail (kept _ _ linked)

theorem view_link {β : Type} (w : World) (p c m : NodeRef) (first : Bool) (view : NodeData → β)
    (parent : ∀ d a, view { d with parent := a } = view d)
    (children : ∀ d l, view { d with children := l } = view d)
    (counts : ∀ d q, view { d with body := d.body.withQueue q } = view d) :
    view ((w.link p c first).node m) = view (w.node m) := by
  simp only [link]
  rw [view_modifyStats _ p m _ view counts, view_modifyNode _ p m _ view fun d => children d _,
    view_modifyNode _ c m _ view fun d => parent d _]

-- Linking `c` beneath `p` gives `c` its parent and changes no other parent link.
theorem parent_link {w : World} {p c : NodeRef} (first : Bool) {a m : NodeRef}
    (linked : (w.link p c first).parent m = some a) :
    w.parent m = some a ∨ (m = c ∧ a = p) := by
  have live : ∀ x, ((w.link p c first).node x).live = (w.node x).live := fun x =>
    view_link w p c x first NodeData.live (fun _ _ => rfl) (fun _ _ => rfl) fun _ _ => rfl
  have link : ((w.link p c first).node m).parent =
      if m = c ∧ c.index < w.nodes.size then some p else (w.node m).parent := by
    simp only [link]
    refine (view_modifyStats _ p m _ NodeData.parent fun _ _ => rfl).trans ?_
    refine (view_modifyNode _ p m _ NodeData.parent fun _ => ?_).trans ?_
    · rfl
    rw [node_modifyNode]
    split <;> rfl
  by_cases here : m = c ∧ c.index < w.nodes.size
  · rw [if_pos here] at link
    have sameParent := link_of_parent _ linked
    rw [link] at sameParent
    exact .inr ⟨here.1, (Option.some.inj sameParent).symm⟩
  · rw [if_neg here] at link
    left
    simpa only [World.parent, link, live] using linked

-- Linking a node that has no parent beneath a node that it does not lie above makes no cycle:
-- a cycle would pass the new link, so the node would lie above its new parent already.
theorem acyclic_link {w : World} (acyclic : ∀ n, ¬w.Above n n) {p c : NodeRef} (first : Bool)
    (differ : c ≠ p) (below : ¬w.Above c p) (free : w.parent c = none) :
    ∀ n, ¬(w.link p c first).Above n n := by
  have old : ∀ a m, w.parent m = some a → (w.link p c first).parent m = some a := by
    intro a m linked
    have other : m ≠ c := fun same => by rw [same, free] at linked; cases linked
    refine parent_eq_of_link w _ m ?_ (fun x => view_link w p c x first NodeData.live
      (fun _ _ => rfl) (fun _ _ => rfl) fun _ _ => rfl) |>.trans linked
    simp only [link]
    refine (view_modifyStats _ p m _ NodeData.parent fun _ _ => rfl).trans ?_
    refine (view_modifyNode _ p m _ NodeData.parent fun _ => ?_).trans ?_
    · rfl
    rw [node_modifyNode_ne _ _ _ _ other]
  -- a chain of the new world is an old one, or passes the new link from `c` up to `p`
  have split : ∀ a m, (w.link p c first).Above a m → w.Above a m ∨
      (Relation.ReflTransGen (fun a m => w.parent m = some a) c m ∧
        Relation.ReflTransGen (fun a m => (w.link p c first).parent m = some a) a p) := by
    intro a m above
    induction above with
    | single linked =>
      rcases parent_link first linked with kept | ⟨rfl, rfl⟩
      · exact .inl (.single kept)
      · exact .inr ⟨.refl, .refl⟩
    | tail higher linked ih =>
      rcases parent_link first linked with kept | ⟨rfl, rfl⟩
      · rcases ih with chain | ⟨fromC, toP⟩
        · exact .inl (chain.tail kept)
        · exact .inr ⟨fromC.tail kept, toP⟩
      · exact .inr ⟨.refl, higher.to_reflTransGen⟩
  intro n cycle
  rcases split n n cycle with chain | ⟨fromC, toP⟩
  · exact acyclic n chain
  · -- then `c` lies above `p` in the new world, and so in the old one
    have reaches := (Relation.ReflTransGen.mono old _ _ fromC).trans toP
    rcases Relation.reflTransGen_iff_eq_or_transGen.mp reaches with same | above
    · exact differ same.symm
    rcases split c p above with chain | ⟨back, -⟩
    · exact below chain
    · rcases Relation.reflTransGen_iff_eq_or_transGen.mp back with same | chain
      · exact differ same.symm
      · exact below chain

-- A node registers a result key as its last listener, when it exists.
theorem listeners_storeResult (w : World) (p : PlannerRef) (n : NodeRef) (key : String)
    (m : NodeRef) : ((w.storeResult p n key).node m).listeners.list =
      if m = n ∧ n.index < w.nodes.size then
        (w.node n).listeners.list ++ [⟨(w.node n).listeners.next, some "successful", false,
          .keepResult (w.planner p).ctx key n⟩]
      else (w.node m).listeners.list :=
  listeners_modifyListeners w n m _

-- A node given a result key stores its result under it, in the planner's context, after the
-- keys it had.
theorem resultKeys_storeResult (w : World) (p : PlannerRef) (n : NodeRef) (key : String)
    (m : NodeRef) : (w.storeResult p n key).resultKeys m =
      if m = n ∧ n.index < w.nodes.size then w.resultKeys n ++ [((w.planner p).ctx, key)]
      else w.resultKeys m := by
  simp only [resultKeys, listeners_storeResult]
  split
  · rw [List.filterMap_append]
    rfl
  · rfl

theorem calm_modifyNode (w : World) (n : NodeRef) (f : NodeData → NodeData)
    (keeps : ∀ d, (f d).parent = d.parent ∧ (f d).listeners = d.listeners ∧ (f d).live = d.live) :
    Calm w (w.modifyNode n f) := by
  refine Calm.of_listeners (fun m => ?_) fun m => ?_
  · exact parent_eq_of_steady
      (w.steady_modifyNode n f (fun d => (keeps d).1) fun d => (keeps d).2.2) m
  · exact w.view_modifyNode n m f NodeData.listeners fun d => (keeps d).2.1

-- A move that the rules take sets the state and raises `state`, then the state's own event.
theorem setStateWith_moved (w : World) (n : NodeRef) {s source reached : ExecState}
    (args : List Json) (moved : ExecState.moveTo (w.state n) s = .ok (some (source, reached))) :
    (w.setStateWith n s args).1 = ((w.modifyNode n fun d => { d with state := s }).emit n
      "state" [.str s.name, .str source.name]).emit n s.name args := by
  obtain ⟨-, rfl⟩ := ExecState.moveTo_reached moved
  unfold setStateWith
  rw [moved]

theorem setStateWith_unmoved (w : World) (n : NodeRef) {s : ExecState} (args : List Json)
    (unmoved : ∀ source reached,
      ExecState.moveTo (w.state n) s ≠ .ok (some (source, reached))) :
    (w.setStateWith n s args).1 = w := by
  unfold setStateWith
  split
  · rfl
  · rfl
  · exact absurd ‹_› (unmoved _ _)

-- A move changes nothing, or sets the state and raises its two events.
theorem setStateWith_cases (w : World) (n : NodeRef) (s : ExecState) (args : List Json) :
    (w.setStateWith n s args).1 = w ∨ ∃ source : ExecState, (w.setStateWith n s args).1 =
      ((w.modifyNode n fun d => { d with state := s }).emit n "state"
        [.str s.name, .str source.name]).emit n s.name args := by
  by_cases moves : ∃ source reached,
      ExecState.moveTo (w.state n) s = .ok (some (source, reached))
  · obtain ⟨source, reached, moved⟩ := moves
    exact .inr ⟨source, setStateWith_moved w n args moved⟩
  · exact .inl (setStateWith_unmoved w n args fun source reached moved =>
      moves ⟨source, reached, moved⟩)

-- Two worlds that show the same contexts and agree on a node's keys and scope give the same
-- writes of its result.
theorem contextView_storeWrites {u u' : World} (n : NodeRef) (v : Json)
    (view : u'.contextView = u.contextView) (keys : u'.resultKeys n = u.resultKeys n)
    (scope : ∀ x, u'.substitute n x = u.substitute n x) :
    (u'.storeWrites n v).contextView = (u.storeWrites n v).contextView := by
  simp only [storeWrites, keys, scope]
  exact contextView_writes u n v _ view

section Operations

variable (w : World) (sound : w.ResultsSound)
include sound

theorem keepsContexts_modifyNode (n : NodeRef) (f : NodeData → NodeData)
    (keeps : ∀ d, (f d).parent = d.parent ∧ (f d).listeners = d.listeners ∧ (f d).live = d.live) :
    KeepsContexts w (w.modifyNode n f) :=
  (calm_modifyNode w n f keeps).keepsContexts sound (contextView_modifyNode w n f)

-- A new node has no listener and no parent, as a node out of range reads.
theorem keepsContexts_addNode (body : NodeBody) : KeepsContexts w (w.addNode body).1 := by
  refine (Calm.of_listeners (parent_eq_of_steady (w.steady_addNode body)) fun m => ?_).keepsContexts
    sound (contextView_addNode w body)
  rw [node_addNode]
  split
  · rename_i fresh
    rw [node_of_size_le w m (Nat.le_of_eq fresh.symm)]
    rfl
  · rfl

theorem keepsContexts_emit (n : NodeRef) {event : String} (other : event ≠ "successful")
    (args : List Json) : KeepsContexts w (w.emit n event args) :=
  (calm_emit w sound n event args).keepsContexts sound (contextView_emit_quiet w sound n other args)

-- A new listener that stores the node's own result, heard on its success and kept after.
theorem keepsContexts_storeResult (p : PlannerRef) (n : NodeRef) (key : String) :
    KeepsContexts w (w.storeResult p n key) := by
  have added := listeners_storeResult w p n key
  refine ⟨⟨⟨fun m l member => ?_, fun m => ?_⟩, fun m => ?_⟩, rfl⟩
  · rw [added m] at member
    split at member
    · rename_i here
      rcases List.mem_append.mp member with old | new
      · exact here.1 ▸ sound.own n l old
      · rw [List.mem_singleton.mp new]
        intro c k owner stores
        cases stores
        exact ⟨here.1.symm, rfl, rfl⟩
    · exact sound.own m l member
  · rw [above_congr (parent_eq_of_steady (w.steady_storeResult p n key))]
    exact sound.acyclic m
  · rw [resultKeys_storeResult]
    split
    · rename_i here
      rw [here.1]
      exact List.prefix_append _ _
    · exact List.prefix_refl _

-- A change that keeps every listener and makes no cycle keeps the results.
theorem keepsResults_of_listeners {w' : World}
    (listeners : ∀ m, (w'.node m).listeners = (w.node m).listeners)
    (acyclic : ∀ n, ¬w'.Above n n) : KeepsResults w w' where
  sound := ⟨fun m l member => by
      rw [listeners m] at member
      exact sound.own m l member, acyclic⟩
  keys m := by simp only [resultKeys, listeners m, List.prefix_refl]

-- Unlinking touches the links of two nodes and the counts of one, never a listener.
theorem keepsContexts_remove (p c : NodeRef) : KeepsContexts w (w.remove p c).1 := by
  have listeners : ∀ m, ((w.remove p c).1.node m).listeners = (w.node m).listeners := by
    intro m
    unfold remove
    split
    · rfl
    · dsimp only
      refine (view_modifyStats _ p m _ NodeData.listeners fun _ _ => rfl).trans ?_
      refine (view_modifyNode _ c m _ NodeData.listeners fun _ => ?_).trans ?_
      · rfl
      exact view_modifyNode _ p m _ NodeData.listeners fun _ => rfl
  have link : ∀ m, ((w.remove p c).1.node m).parent = (w.node m).parent ∨
      ((w.remove p c).1.node m).parent = none := by
    intro m
    unfold remove
    split
    · exact .inl rfl
    · dsimp only
      rw [view_modifyStats _ p m _ NodeData.parent fun _ _ => rfl, node_modifyNode]
      split
      · exact .inr rfl
      · exact .inl (view_modifyNode _ p m _ NodeData.parent fun _ => rfl)
  have view : (w.remove p c).1.contextView = w.contextView := by
    unfold remove
    split <;> rfl
  exact ⟨keepsResults_of_listeners w sound listeners fun m above =>
    sound.acyclic m (above_of_fewer_links link (live_remove w p c) above), view⟩

-- A link is refused, changing nothing, or made: the links keep free of cycles since the node
-- linked has no parent and does not lie above its new parent.
theorem keepsContexts_attach (p c : NodeRef) (first : Bool) :
    KeepsContexts w (w.attach p c first).1 := by
  by_cases allowed : ¬(c = p ∨ (w.parents p).contains c = true) ∧ ¬(w.parent c).isSome = true
  · rw [attach_of_allowed w p c first allowed.1 allowed.2]
    have differ : c ≠ p := fun same => allowed.1 (.inl same)
    have below : ¬w.Above c p := fun above =>
      allowed.1 (.inr (List.contains_iff_mem.mpr (mem_parents_of_above w sound.acyclic above)))
    have free : w.parent c = none := Option.not_isSome_iff_eq_none.mp allowed.2
    have listeners : ∀ m, ((w.link p c first).node m).listeners = (w.node m).listeners :=
      fun m => view_link w p c m first NodeData.listeners (fun _ _ => rfl) (fun _ _ => rfl)
        fun _ _ => rfl
    have linked : KeepsContexts w (w.link p c first) :=
      ⟨keepsResults_of_listeners w sound listeners (acyclic_link sound.acyclic first differ below free),
        rfl⟩
    dsimp only
    exact linked.trans (keepsContexts_emit _ linked.sound p (by simp) _)
  · -- a refused link changes nothing
    have same : (w.attach p c first).1 = w := by
      unfold attach
      split
      · rfl
      · split
        · rfl
        · exact absurd ⟨‹_›, ‹_›⟩ allowed
    exact KeepsContexts.of_eq sound same

-- The part of a move before the state's own event: the state set and `state` raised.
theorem calm_stated (n : NodeRef) (s source : ExecState) :
    Calm w ((w.modifyNode n fun d => { d with state := s }).emit n "state"
      [.str s.name, .str source.name]) :=
  have set := calm_modifyNode w n (fun d => { d with state := s }) fun _ => ⟨rfl, rfl, rfl⟩
  set.trans (calm_emit _ (set.sound sound) n _ _)

theorem keepsContexts_stated (n : NodeRef) (s source : ExecState) :
    KeepsContexts w ((w.modifyNode n fun d => { d with state := s }).emit n "state"
      [.str s.name, .str source.name]) :=
  have set := keepsContexts_modifyNode w sound n (fun d => { d with state := s })
    fun _ => ⟨rfl, rfl, rfl⟩
  set.trans (keepsContexts_emit _ set.sound n (by simp) _)

-- A move to any state but `successful` raises events that no result listener hears.
theorem keepsContexts_setStateWith (n : NodeRef) {s : ExecState} (other : s ≠ .successful)
    (args : List Json) : KeepsContexts w (w.setStateWith n s args).1 := by
  rcases setStateWith_cases w n s args with same | ⟨source, moved⟩
  · exact KeepsContexts.of_eq sound same
  · rw [moved]
    have stated := keepsContexts_stated w sound n s source
    exact stated.trans (keepsContexts_emit _ stated.sound n
      (mt ExecState.name_eq_successful.mp other) args)

-- A move to `successful` keeps every result listener, whether the rules take it or not.
theorem keepsResults_succeed (n : NodeRef) (v : Json) :
    KeepsResults w (w.setStateWith n .successful [v]).1 := by
  rcases setStateWith_cases w n .successful [v] with same | ⟨source, moved⟩
  · exact (KeepsContexts.of_eq sound same).toKeepsResults
  · rw [moved]
    have stated := calm_stated w sound n .successful source
    exact (stated.trans (calm_emit _ (stated.sound sound) n _ _)).keepsResults sound

-- A node's success from `inProgress` writes its result under each of its keys, rendered in its
-- scope as it stood before the move, and nothing else.
theorem contextView_succeed (n : NodeRef) (running : w.state n = .inProgress) (v : Json) :
    (w.setStateWith n .successful [v]).1.contextView = (w.storeWrites n v).contextView := by
  have moved : ExecState.moveTo (w.state n) .successful =
      .ok (some (.inProgress, .successful)) := by
    rw [running]
    rfl
  rw [setStateWith_moved w n [v] moved]
  have stated := keepsContexts_stated w sound n .successful .inProgress
  -- the state and its event change neither the node's keys nor its scope
  have calm := calm_stated w sound n .successful .inProgress
  have shaped : Frame (n = ·) w ((w.modifyNode n fun d => { d with state := .successful }).emit n
      "state" [.str ExecState.successful.name, .str ExecState.inProgress.name]) :=
    (Frame.modifyState w rfl _).trans (Frame.of_agree (Agree.emit _ n _ _))
  exact (contextView_emit_successful _ stated.sound n v).trans
    (contextView_storeWrites n v stated.view (calm.keys n) (shaped.toShaped.substitute n))

end Operations

end World

end TaskTree
