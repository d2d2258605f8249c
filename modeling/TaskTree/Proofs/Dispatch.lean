import TaskTree.Emitter
import TaskTree.Proofs.Agree

set_option autoImplicit false

namespace TaskTree

namespace Listeners

variable {η : Type}

-- Removing the first entry that `p` picks out, where no two entries are picked out, keeps
-- exactly the others.
theorem eraseIdx_of_findIdx? {α : Type} (p : α → Bool) :
    ∀ (l : List α) (i : Nat), l.Pairwise (fun a b => ¬(p a = true ∧ p b = true)) →
      l.findIdx? p = some i → l.eraseIdx i = l.filter (fun a => !p a)
  | [], _, _, found => by simp at found
  | a :: rest, i, apart, found => by
    obtain ⟨first, apart⟩ := List.pairwise_cons.mp apart
    rw [List.findIdx?_cons] at found
    by_cases picked : p a = true
    · rw [if_pos picked] at found
      cases found
      have kept : rest.filter (fun a => !p a) = rest :=
        List.filter_eq_self.mpr fun b member => by simpa [picked] using first b member
      simp [picked, kept]
    · rw [if_neg picked] at found
      obtain ⟨j, inner, rfl⟩ := Option.map_eq_some_iff.mp found
      simp [picked, eraseIdx_of_findIdx? p rest j apart inner]

theorem ids_nodup {ls : Listeners η} (increasing : (ls.list.map (·.id)).Pairwise (· < ·)) :
    (ls.list.map (·.id)).Nodup :=
  increasing.imp Nat.ne_of_lt

theorem off_list (ls : Listeners η) (event : String) (id : Nat)
    (increasing : (ls.list.map (·.id)).Pairwise (· < ·)) :
    (ls.off event id).1.list =
      ls.list.filter fun l => !(l.id == id && l.event.getD "*" == event) := by
  have apart : ls.list.Pairwise fun a b =>
      ¬((a.id == id && a.event.getD "*" == event) = true ∧
        (b.id == id && b.event.getD "*" == event) = true) := by
    refine (List.pairwise_map.mp increasing).imp fun less both => ?_
    simp only [Bool.and_eq_true, beq_iff_eq] at both
    omega
  unfold off
  dsimp only
  split
  · rename_i i found
    exact eraseIdx_of_findIdx? _ ls.list i apart found
  · rename_i missing
    refine (List.filter_eq_self.mpr fun l member => ?_).symm
    have unnamed : (l.id == id && l.event.getD "*" == event) = false :=
      List.findIdx?_eq_none_iff.mp missing l member
    rw [unnamed]
    rfl

end Listeners

namespace Emitter

variable {η : Type}

def spent (s : Session η) : List (Listener η) :=
  (s.invoked ++ s.todo.filterMap Pending.owed).filter (·.once)

theorem owed_calls (calls : List (Call η)) :
    (calls.map Pending.call).filterMap Pending.owed = [] := by
  induction calls with
  | nil => rfl
  | cons c rest ih => simpa only [List.map_cons, List.filterMap_cons, Pending.owed] using ih

theorem owed_invokes (ls : List (Listener η)) (event : String) :
    (ls.map (Pending.invoke · event)).filterMap Pending.owed = ls := by
  induction ls with
  | nil => rfl
  | cons l rest ih => simp only [List.map_cons, List.filterMap_cons, Pending.owed, ih]

theorem spent_call (ls ls' : Listeners η) (c : Call η) (rest : List (Pending η))
    (invoked : List (Listener η)) :
    spent ⟨ls', rest, invoked⟩ = spent ⟨ls, .call c :: rest, invoked⟩ := rfl

-- An invocation moves its listener from the owed to the invoked, and the calls of its handler
-- owe nothing yet.
theorem spent_invoke (ls : Listeners η) (l : Listener η) (event : String) (calls : List (Call η))
    (rest : List (Pending η)) (invoked : List (Listener η)) :
    spent ⟨ls, calls.map .call ++ rest, invoked ++ [l]⟩ =
      spent ⟨ls, .invoke l event :: rest, invoked⟩ := by
  simp only [spent, List.filterMap_append, owed_calls, List.filterMap_cons, Pending.owed,
    List.nil_append, List.append_assoc, List.singleton_append]

theorem spent_dispatch (ls ls' : Listeners η) (event : String) (rest : List (Pending η))
    (invoked : List (Listener η)) :
    spent ⟨ls', (ls.hearing event).map (.invoke · event) ++ rest, invoked⟩ =
      invoked.filter (·.once) ++ (ls.hearing event).filter (·.once) ++
        (rest.filterMap Pending.owed).filter (·.once) := by
  simp only [spent, List.filterMap_append, owed_invokes, List.filter_append, List.append_assoc]

structure Sound (s : Session η) : Prop where
  increasing : (s.listeners.list.map (·.id)).Pairwise (· < ·)
  below : ∀ l ∈ s.listeners.list, l.id < s.listeners.next
  spentOnce : ((spent s).map (·.id)).Nodup
  spentGone : ∀ l ∈ spent s, ∀ m ∈ s.listeners.list, m.id ≠ l.id
  spentBelow : ∀ l ∈ spent s, l.id < s.listeners.next

namespace Sound

theorem start (calls : List (Call η)) : Sound (Emitter.start calls) := by
  have none : spent (Emitter.start calls) = [] := by
    simp only [spent, Emitter.start, owed_calls, List.append_nil]
    rfl
  refine ⟨List.Pairwise.nil, fun _ member => absurd member List.not_mem_nil, ?_, ?_, ?_⟩ <;>
    simp [none]

-- A registration takes the next id, above every id given out before.
theorem on {ls : Listeners η} {event : Option String} {once : Bool} {handler : η}
    {rest : List (Pending η)} {invoked : List (Listener η)}
    (sound : Sound ⟨ls, .call (.on event once handler) :: rest, invoked⟩) :
    Sound ⟨(ls.add event once handler).1, rest, invoked⟩ where
  increasing := by
    simpa [List.pairwise_append] using ⟨sound.increasing, sound.below⟩
  below l member := by
    simp only [Listeners.add_list, List.mem_append, List.mem_singleton] at member
    rcases member with old | rfl
    · simpa using Nat.lt_succ_of_lt (sound.below l old)
    · simp
  spentOnce := by rw [spent_call]; exact sound.spentOnce
  spentGone l spentL m member := by
    rw [spent_call] at spentL
    simp only [Listeners.add_list, List.mem_append, List.mem_singleton] at member
    rcases member with old | rfl
    · exact sound.spentGone l spentL m old
    · exact Nat.ne_of_gt (sound.spentBelow l spentL)
  spentBelow l spentL := by
    rw [spent_call] at spentL
    simpa using Nat.lt_succ_of_lt (sound.spentBelow l spentL)

theorem off {ls : Listeners η} {event : String} {id : Nat} {rest : List (Pending η)}
    {invoked : List (Listener η)}
    (sound : Sound ⟨ls, .call (.off event id) :: rest, invoked⟩) :
    Sound ⟨(ls.off event id).1, rest, invoked⟩ where
  increasing := sound.increasing.sublist ((ls.off_sublist event id).map _)
  below l member := by
    simpa using sound.below l ((ls.off_sublist event id).subset member)
  spentOnce := by rw [spent_call]; exact sound.spentOnce
  spentGone l spentL m member := by
    rw [spent_call] at spentL
    exact sound.spentGone l spentL m ((ls.off_sublist event id).subset member)
  spentBelow l spentL := by
    rw [spent_call] at spentL
    simpa using sound.spentBelow l spentL

-- The once-listeners a dispatch owes are registered until then, so they are new to the spent
-- ones; the dispatch unregisters them.
theorem dispatch {ls : Listeners η} {event : String} {rest : List (Pending η)}
    {invoked : List (Listener η)}
    (sound : Sound ⟨ls, .call (.dispatch event) :: rest, invoked⟩) :
    Sound ⟨(ls.fire event).2, (ls.hearing event).map (.invoke · event) ++ rest, invoked⟩ := by
  have before : spent ⟨ls, .call (.dispatch event) :: rest, invoked⟩ =
      invoked.filter (·.once) ++ (rest.filterMap Pending.owed).filter (·.once) := by
    rw [← List.filter_append]
    rfl
  have spentOnce := sound.spentOnce
  have spentGone := sound.spentGone
  have spentBelow := sound.spentBelow
  rw [before] at spentOnce spentGone spentBelow
  have taken : ((ls.hearing event).filter (·.once)).Sublist ls.list :=
    List.filter_sublist.trans List.filter_sublist
  have kept : (ls.list.filter fun l => !(l.once && l.hears event)).Sublist ls.list :=
    List.filter_sublist
  have distinct := Listeners.ids_nodup sound.increasing
  -- a registered listener is told apart by its id
  have same : ∀ l ∈ ls.list, ∀ m ∈ ls.list, m.id = l.id → m = l :=
    fun l lIn m mIn equal => List.inj_on_of_nodup_map distinct mIn lIn equal
  refine ⟨?_, ?_, ?_, ?_, ?_⟩
  · simpa using sound.increasing.sublist (kept.map _)
  · intro l member
    simpa using sound.below l (kept.subset member)
  · rw [spent_dispatch]
    have moved : (invoked.filter (·.once) ++ (ls.hearing event).filter (·.once) ++
        (rest.filterMap Pending.owed).filter (·.once)).Perm
        ((ls.hearing event).filter (·.once) ++
          (invoked.filter (·.once) ++ (rest.filterMap Pending.owed).filter (·.once))) := by
      simpa [List.append_assoc] using
        (@List.perm_append_comm _ (invoked.filter (·.once)) ((ls.hearing event).filter (·.once))).append_right
          ((rest.filterMap Pending.owed).filter (·.once))
    refine ((moved.map _).nodup_iff).mpr ?_
    rw [List.map_append, List.nodup_append]
    refine ⟨distinct.sublist (taken.map _), spentOnce, ?_⟩
    intro a aIn b bIn
    obtain ⟨l, lIn, rfl⟩ := List.mem_map.mp aIn
    obtain ⟨m, mIn, rfl⟩ := List.mem_map.mp bIn
    exact spentGone m mIn l (taken.subset lIn)
  · rw [spent_dispatch]
    intro l lIn m mIn
    simp only [List.mem_append] at lIn
    rcases lIn with (old | fresh) | old
    · exact spentGone l (List.mem_append_left _ old) m (kept.subset mIn)
    · intro equal
      have lOnce : l.once ∧ l.hears event := by
        simp [Listeners.hearing] at fresh
        exact fresh.2
      rw [same l (taken.subset fresh) m (kept.subset mIn) equal] at mIn
      simp [lOnce.1, lOnce.2] at mIn
    · exact spentGone l (List.mem_append_right _ old) m (kept.subset mIn)
  · rw [spent_dispatch]
    intro l lIn
    simp only [List.mem_append] at lIn
    rcases lIn with (old | fresh) | old
    · simpa using spentBelow l (List.mem_append_left _ old)
    · simpa using sound.below l (taken.subset fresh)
    · simpa using spentBelow l (List.mem_append_right _ old)

theorem invoke {ls : Listeners η} {l : Listener η} {event : String} {calls : List (Call η)}
    {rest : List (Pending η)} {invoked : List (Listener η)}
    (sound : Sound ⟨ls, .invoke l event :: rest, invoked⟩) :
    Sound ⟨ls, calls.map .call ++ rest, invoked ++ [l]⟩ := by
  have same := spent_invoke ls l event calls rest invoked
  exact ⟨sound.increasing, sound.below, same ▸ sound.spentOnce, same ▸ sound.spentGone,
    same ▸ sound.spentBelow⟩

theorem step {s s' : Session η} (sound : Sound s) (next : Step s s') : Sound s' := by
  cases next with
  | on => exact sound.on
  | off => exact sound.off
  | dispatch => exact sound.dispatch
  | invoke => exact sound.invoke

end Sound

theorem sound_of_reached {calls : List (Call η)} {s : Session η}
    (reached : Relation.ReflTransGen Step (start calls) s) : Sound s := by
  induction reached with
  | refl => exact Sound.start calls
  | tail _ next sound => exact sound.step next

structure Laws (s : Session η) : Prop where
  increasing : (s.listeners.list.map (·.id)).Pairwise (· < ·)
  fresh : ∀ l ∈ s.listeners.list, l.id < s.listeners.next
  onceAtMostOnce : ((s.invoked.filter (·.once)).map (·.id)).Nodup
  dispatch : ∀ event rest s', s.todo = .call (.dispatch event) :: rest → Step s s' →
    s'.listeners.list = s.listeners.list.filter (fun l => !(l.once && l.hears event)) ∧
    s'.todo = (s.listeners.list.filter (·.hears event)).map (.invoke · event) ++ rest ∧
    ((s.listeners.list.filter (·.hears event)).map (·.id)).Nodup ∧
    s'.invoked = s.invoked
  off : ∀ event id, (s.listeners.off event id).1.list =
    s.listeners.list.filter fun l => !(l.id == id && l.event.getD "*" == event)

theorem Sound.invoked_once {s : Session η} (sound : Sound s) :
    ((s.invoked.filter (·.once)).map (·.id)).Nodup := by
  have whole := sound.spentOnce
  rw [spent, List.filter_append, List.map_append] at whole
  exact (List.nodup_append.mp whole).1

theorem dispatch_step {ls : Listeners η} {event : String} {rest : List (Pending η)}
    {invoked : List (Listener η)} {s' : Session η}
    (next : Step ⟨ls, .call (.dispatch event) :: rest, invoked⟩ s') :
    s' = ⟨(ls.fire event).2, (ls.hearing event).map (.invoke · event) ++ rest, invoked⟩ := by
  cases next
  rfl

theorem Sound.laws {s : Session η} (sound : Sound s) : Laws s where
  increasing := sound.increasing
  fresh := sound.below
  onceAtMostOnce := sound.invoked_once
  dispatch event rest s' pending next := by
    obtain ⟨ls, todo, invoked⟩ := s
    dsimp only at pending
    subst pending
    rw [dispatch_step next]
    exact ⟨rfl, rfl, (Listeners.ids_nodup sound.increasing).sublist
      (List.filter_sublist.map _), rfl⟩
  off event id := s.listeners.off_list event id sound.increasing

end Emitter

namespace World

inductive UpChain (w : World) : NodeRef → List NodeRef → Prop
  | top (n : NodeRef) : w.parent n = none → UpChain w n []
  | up (n p : NodeRef) (rest : List NodeRef) : w.parent n = some p → UpChain w p rest →
      UpChain w n (p :: rest)

-- A walk up that stopped before its steps ran out followed every parent link.
theorem upChain_ancestors (w : World) :
    ∀ (k : Nat) (n : NodeRef), (w.ancestors k n).length < k → w.UpChain n (w.ancestors k n)
  | 0, _, short => absurd short (Nat.not_lt_zero _)
  | k + 1, n, short => by
    cases linked : w.parent n with
    | none => simpa [ancestors, linked] using UpChain.top n linked
    | some p =>
      rw [ancestors_of_parent w k n p linked] at short ⊢
      exact .up n p _ linked (upChain_ancestors w k p (Nat.lt_of_succ_lt_succ short))

theorem Links.upChain_parents {w : World} (links : w.Links) (n : NodeRef) :
    w.UpChain n (w.parents n) := by
  cases linked : w.parent n with
  | none =>
    rw [parents_of_parent_none w n linked]
    exact .top n linked
  | some p => exact upChain_ancestors w _ n (links.parents_short linked)

structure Bubbles (w : World) (n : NodeRef) (event : String) (args : List Json) : Prop where
  chain : w.UpChain n (w.parents n)
  order : w.emit n event args = (n :: w.parents n).foldl (fun v a => v.dispatch a n event args) w

-- The first dispatch touches listeners only, so the ancestors after it are those before.
theorem emit_eq_foldl (w : World) (n : NodeRef) (event : String) (args : List Json) :
    w.emit n event args = (n :: w.parents n).foldl (fun v a => v.dispatch a n event args) w := by
  have same : (w.dispatch n n event args).parents n = w.parents n :=
    (Agree.of_quiet (w.quiet_dispatch n n event args)).toShaped.parents n
  simp only [emit, List.foldl_cons, same]

end World

/-- The emitter's contract. Every session of a new emitter, whatever its handlers call while a
dispatch runs, keeps the laws of `Emitter.Laws`; and in a world whose links agree, raising an
event on a node hands it to the node and then to its ancestors, nearest first. -/
theorem emitter_contract :
    (∀ {η : Type} (calls : List (Emitter.Call η)) (s : Emitter.Session η),
      Relation.ReflTransGen Emitter.Step (Emitter.start calls) s → Emitter.Laws s) ∧
    (∀ (w : World), w.Links → ∀ n event args, w.Bubbles n event args) :=
  ⟨fun _ _ reached => (Emitter.sound_of_reached reached).laws,
    fun w links n event args => ⟨links.upChain_parents n, w.emit_eq_foldl n event args⟩⟩

theorem redispatch_once_bubbles :
    let calls : List (Emitter.Call String) := [.on (some "ping") true "again", .dispatch "ping"]
    let heard : Listener String := ⟨0, some "ping", true, "again"⟩
    let s : Emitter.Session String := ⟨⟨1, []⟩, [], [heard]⟩
    let loose : World := { nodes := #[{ id := "queue", body := .queue { limit := 1 } },
      { id := "a", body := .bare }] }
    let w : World := (loose.attach ⟨0⟩ ⟨1⟩ false).1
    (Relation.ReflTransGen Emitter.Step (Emitter.start calls) s ∧ Emitter.Laws s) ∧
      (w.Links ∧ w.Bubbles ⟨1⟩ "done" []) := by
  intro calls heard s loose w
  have first : Emitter.Step (Emitter.start calls)
      ⟨⟨1, [heard]⟩, [.call (.dispatch "ping")], []⟩ :=
    .on {} (some "ping") true "again" [.call (.dispatch "ping")] []
  have second : Emitter.Step ⟨⟨1, [heard]⟩, [.call (.dispatch "ping")], []⟩
      ⟨⟨1, []⟩, [.invoke heard "ping"], []⟩ :=
    .dispatch ⟨1, [heard]⟩ "ping" [] []
  -- the handler dispatches the event again, which finds no listener left
  have third : Emitter.Step ⟨⟨1, []⟩, [.invoke heard "ping"], []⟩
      ⟨⟨1, []⟩, [.call (.dispatch "ping")], [heard]⟩ :=
    .invoke ⟨1, []⟩ heard "ping" [.dispatch "ping"] [] []
  have fourth : Emitter.Step ⟨⟨1, []⟩, [.call (.dispatch "ping")], [heard]⟩ s :=
    .dispatch ⟨1, []⟩ "ping" [] [heard]
  have reached : Relation.ReflTransGen Emitter.Step (Emitter.start calls) s :=
    .tail (.tail (.tail (.single first) second) third) fourth
  have looseLinks : loose.Links :=
    (World.links_of_unlinked loose (by simp [loose, NodeBody.queueState?])).1
  have alive : loose.Alive := World.alive_of_live loose (by simp [loose])
  have links : w.Links := (World.attach_keeps looseLinks alive false (by decide) (by decide)).links
  exact ⟨⟨reached, emitter_contract.1 calls s reached⟩, links,
    emitter_contract.2 w links ⟨1⟩ "done" []⟩

end TaskTree
