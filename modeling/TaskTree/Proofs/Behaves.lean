import TaskTree.Proofs.Frames

set_option autoImplicit false

namespace TaskTree

namespace Engine

variable {α β : Type}

@[simp] theorem run_pure (a : α) (w : World) : (pure a : Engine α).run w = (.ok a, w) := rfl

@[simp] theorem run_throw (e : WorkError) (w : World) :
    (throw e : Engine α).run w = (.error e, w) := rfl

@[simp] theorem run_modify (f : World → World) (w : World) :
    (modify f : Engine Unit).run w = (.ok (), f w) := rfl

@[simp] theorem run_get (w : World) : (get : Engine World).run w = (.ok w, w) := rfl

@[simp] theorem run_ofExcept (r : Except WorkError α) (w : World) :
    (ofExcept r).run w = (r, w) := rfl

@[simp] theorem run_of (f : World → World × Except WorkError α) (w : World) :
    (of f).run w = ((f w).2, (f w).1) := rfl

@[simp] theorem run_modifyGet (f : World → α × World) (w : World) :
    (modifyGet f : Engine α).run w = (.ok (f w).1, (f w).2) := rfl

@[simp] theorem run_addNode (body : NodeBody) (w : World) :
    (addNode body).run w = (.ok (w.addNode body).2, (w.addNode body).1) := rfl

theorem run_bind_of_ok (x : Engine α) (f : α → Engine β) {w w₁ : World} {a : α}
    (ran : x.run w = (.ok a, w₁)) : (x >>= f).run w = (f a).run w₁ := by
  simp only [ExceptT.run_bind, Run.bind_apply, ran]

theorem run_bind_of_error (x : Engine α) (f : α → Engine β) {w w₁ : World} {e : WorkError}
    (ran : x.run w = (.error e, w₁)) : (x >>= f).run w = (.error e, w₁) := by
  simp only [ExceptT.run_bind, Run.bind_apply, ran]
  rfl

@[simp] theorem run_bind (x : Engine α) (f : α → Engine β) (w : World) :
    (x >>= f).run w = match x.run w with
      | (.ok a, w₁) => (f a).run w₁
      | (.error e, w₁) => (.error e, w₁) := by
  rcases ran : x.run w with ⟨e | a, w₁⟩
  · exact run_bind_of_error x f ran
  · exact run_bind_of_ok x f ran

theorem run_bind_ok {x : Engine α} {f : α → Engine β} {w w' : World} {b : β}
    (ran : (x >>= f).run w = (.ok b, w')) :
    ∃ a w₁, x.run w = (.ok a, w₁) ∧ (f a).run w₁ = (.ok b, w') := by
  rcases first : x.run w with ⟨e | a, w₁⟩
  · rw [run_bind_of_error x f first] at ran
    cases ran
  · exact ⟨a, w₁, rfl, by rwa [run_bind_of_ok x f first] at ran⟩

theorem run_append (parent child : NodeRef) (w : World) :
    (append parent child).run w =
      ((w.attach parent child false).2.map fun _ => (), (w.attach parent child false).1) := by
  have mapped : append parent child =
      (fun _ => ()) <$> of (fun w => w.attach parent child false) := rfl
  rw [mapped, ExceptT.run_map, Run.map_apply]
  rfl

end Engine

structure Behaves {α : Type} (m : Engine α) (w : World) (holds : Prop) (links : List NodeRef)
    (post : α → World → Prop) : Prop where
  ok_iff : (∃ a w', m.run w = (.ok a, w')) ↔ holds ∧ Linkable w links
  frame : ∀ a w', m.run w = (.ok a, w') → Keeps links w w' ∧ post a w'

namespace Behaves

variable {α β : Type} {w : World} {holds : Prop} {links : List NodeRef}
  {post : α → World → Prop}

theorem conseq {m : Engine α} {holds' : Prop} {post' : α → World → Prop}
    (behaved : Behaves m w holds links post) (same : holds ↔ holds')
    (weaker : ∀ a w', post a w' → post' a w') : Behaves m w holds' links post' where
  ok_iff := by rw [behaved.ok_iff, same]
  frame a w' ran := by
    obtain ⟨keeps, holdsAfter⟩ := behaved.frame a w' ran
    exact ⟨keeps, weaker a w' holdsAfter⟩

-- The same computation, with its success condition restated.
theorem of_iff {m : Engine α} {holds' : Prop} (behaved : Behaves m w holds links post)
    (same : holds ↔ holds') : Behaves m w holds' links post :=
  behaved.conseq same fun _ _ after => after

-- A weaker post-condition that may use what the step kept of the world.
theorem conseq_frame {m : Engine α} {post' : α → World → Prop}
    (behaved : Behaves m w holds links post)
    (weaker : ∀ a w', Keeps links w w' → post a w' → post' a w') : Behaves m w holds links post' where
  ok_iff := behaved.ok_iff
  frame a w' ran := by
    obtain ⟨keeps, after⟩ := behaved.frame a w' ran
    exact ⟨keeps, weaker a w' keeps after⟩

theorem of_links {m : Engine α} {links' : List NodeRef} (behaved : Behaves m w holds links post)
    (same : links = links') : Behaves m w holds links' post :=
  same ▸ behaved

theorem of_pure (a : α) (after : post a w) : Behaves (pure a) w True [] post where
  ok_iff := ⟨fun _ => ⟨trivial, linkable_nil w⟩, fun _ => ⟨a, w, rfl⟩⟩
  frame b w' ran := by
    rw [Engine.run_pure] at ran
    cases ran
    exact ⟨Keeps.of_steady (Steady.refl _), after⟩

theorem of_throw (e : WorkError) : Behaves (throw e : Engine α) w False links post where
  ok_iff := ⟨fun ⟨_, _, ran⟩ => (by cases ran), fun failed => failed.1.elim⟩
  frame a w' ran := by cases ran

theorem of_error {m : Engine α} {e : WorkError} {w' : World} (ran : m.run w = (.error e, w')) :
    Behaves m w False links post where
  ok_iff := ⟨fun ⟨_, _, ran'⟩ => (by rw [ran] at ran'; cases ran'), fun failed => failed.1.elim⟩
  frame a w'' ran' := by
    rw [ran] at ran'
    cases ran'

-- A step that always succeeds and links nothing.
theorem of_steady {m : Engine α} {a : α} {w' : World} (ran : m.run w = (.ok a, w'))
    (steady : Steady w w') (after : post a w') : Behaves m w True [] post where
  ok_iff := ⟨fun _ => ⟨trivial, linkable_nil w⟩, fun _ => ⟨a, w', ran⟩⟩
  frame b w'' ran' := by
    rw [ran, Prod.mk.injEq, Except.ok.injEq] at ran'
    obtain ⟨rfl, rfl⟩ := ran'
    exact ⟨Keeps.of_steady steady, after⟩

theorem map {m : Engine α} (f : α → β) (behaved : Behaves m w holds links post) :
    Behaves (f <$> m) w holds links (fun b w' => ∃ a, b = f a ∧ post a w') := by
  have ran : ∀ w, (f <$> m).run w = ((m.run w).1.map f, (m.run w).2) := fun w => by
    rw [ExceptT.run_map, Run.map_apply]
  constructor
  · rw [← behaved.ok_iff, ran]
    rcases m.run w with ⟨e | a, w'⟩
    · exact ⟨fun ⟨_, _, failed⟩ => (by cases failed), fun ⟨_, _, failed⟩ => (by cases failed)⟩
    · exact ⟨fun _ => ⟨a, w', rfl⟩, fun _ => ⟨f a, w', rfl⟩⟩
  · intro b w' mapped
    rw [ran] at mapped
    rcases first : m.run w with ⟨e | a, w₁⟩
    · rw [first] at mapped
      cases mapped
    · rw [first] at mapped
      cases mapped
      obtain ⟨keeps, after⟩ := behaved.frame a w₁ first
      exact ⟨keeps, a, rfl, after⟩

-- The rule of sequence. What the rest must meet may not depend on the first step's result,
-- and the nodes it links must be nodes of the world before the first step.
theorem bind {x : Engine α} {f : α → Engine β} {holds₁ holds₂ : Prop}
    {links₁ links₂ : List NodeRef} {post₁ : α → World → Prop} {post₂ : β → World → Prop}
    (first : Behaves x w holds₁ links₁ post₁) (present : Present w links₂)
    (rest : ∀ a w₁, x.run w = (.ok a, w₁) → Keeps links₁ w w₁ → post₁ a w₁ →
      Behaves (f a) w₁ holds₂ links₂ post₂) :
    Behaves (x >>= f) w (holds₁ ∧ holds₂) (links₁ ++ links₂) post₂ where
  ok_iff := by
    constructor
    · rintro ⟨b, w', ran⟩
      obtain ⟨a, w₁, ranFirst, ranRest⟩ := Engine.run_bind_ok ran
      obtain ⟨keeps, after⟩ := first.frame a w₁ ranFirst
      obtain ⟨holdsFirst, linkableFirst⟩ := first.ok_iff.mp ⟨a, w₁, ranFirst⟩
      obtain ⟨holdsRest, linkableRest⟩ := (rest a w₁ ranFirst keeps after).ok_iff.mp ⟨b, w', ranRest⟩
      exact ⟨⟨holdsFirst, holdsRest⟩, (linkable_append keeps present).mpr ⟨linkableFirst, linkableRest⟩⟩
    · rintro ⟨⟨holdsFirst, holdsRest⟩, linkable⟩
      obtain ⟨a, w₁, ranFirst⟩ := first.ok_iff.mpr ⟨holdsFirst, linkable.left⟩
      obtain ⟨keeps, after⟩ := first.frame a w₁ ranFirst
      have linkableRest := ((linkable_append keeps present).mp linkable).2
      obtain ⟨b, w', ranRest⟩ :=
        (rest a w₁ ranFirst keeps after).ok_iff.mpr ⟨holdsRest, linkableRest⟩
      exact ⟨b, w', by rw [Engine.run_bind_of_ok x f ranFirst]; exact ranRest⟩
  frame b w' ran := by
    obtain ⟨a, w₁, ranFirst, ranRest⟩ := Engine.run_bind_ok ran
    obtain ⟨keeps, after⟩ := first.frame a w₁ ranFirst
    obtain ⟨keepsRest, afterRest⟩ := (rest a w₁ ranFirst keeps after).frame b w' ranRest
    exact ⟨keeps.trans keepsRest, afterRest⟩

-- A first step that succeeds and links nothing can be stepped over.
theorem of_bind_ok {x : Engine α} {f : α → Engine β} {post' : β → World → Prop} {a : α}
    {w₁ : World} (ran : x.run w = (.ok a, w₁)) (steady : Steady w w₁) (present : Present w links)
    (rest : Behaves (f a) w₁ holds links post') : Behaves (x >>= f) w holds links post' := by
  have first : Behaves x w True [] (fun b w' => b = a ∧ w' = w₁) := of_steady ran steady ⟨rfl, rfl⟩
  refine (first.bind present fun b w' _ _ same => ?_).of_iff (by rw [true_and])
  obtain ⟨rfl, rfl⟩ := same
  exact rest

-- A steady change of the world, then the rest.
theorem after_modify {f : World → World} {k : Unit → Engine β} {post' post'' : β → World → Prop}
    (steady : Steady w (f w)) (rest : Behaves (k ()) (f w) holds [] post')
    (weaker : ∀ b w', post' b w' → post'' b w') : Behaves (modify f >>= k) w holds [] post'' :=
  (of_bind_ok (Engine.run_modify f w) steady (present_nil w) rest).conseq Iff.rfl weaker

theorem of_bind_error {x : Engine α} {f : α → Engine β} {post' : β → World → Prop} {e : WorkError}
    {w₁ : World} (ran : x.run w = (.error e, w₁)) : Behaves (x >>= f) w False links post' :=
  of_error (Engine.run_bind_of_error x f ran)

-- A loop whose every step goes on to the next behaves as its steps together.
theorem forIn {γ : Type} (step : γ → Unit → Engine (ForInStep Unit)) (need : γ → Prop)
    (linksOf : γ → List NodeRef) (inv : World → Prop) :
    ∀ (xs : List γ), (∀ x ∈ xs, ∀ w, inv w → Present w (linksOf x) →
      Behaves (step x ()) w (need x) (linksOf x) (fun r w' => r = .yield () ∧ inv w')) →
    ∀ w, inv w → Present w (xs.flatMap linksOf) →
      Behaves (forIn xs () step) w (∀ x ∈ xs, need x) (xs.flatMap linksOf) (fun _ w' => inv w')
  | [], _, w, holds, _ =>
      (of_pure () holds).of_iff (by simp)
  | x :: rest, steps, w, holds, present => by
      rw [List.forIn_cons, List.flatMap_cons]
      rw [List.flatMap_cons] at present
      obtain ⟨presentFirst, presentRest⟩ := present_append.mp present
      refine ((steps x List.mem_cons_self w holds presentFirst).bind presentRest
        fun r w₁ _ keeps after => ?_).of_iff List.forall_mem_cons.symm
      obtain ⟨rfl, holds₁⟩ := after
      exact forIn step need linksOf inv rest (fun y member => steps y (List.mem_cons_of_mem x member))
        w₁ holds₁ (presentRest.grow keeps.grows)

-- The rule of sequence when the first step makes the node that the rest links: the node is
-- new, so it needs no account in the links of the whole.
theorem bind_fresh {x : Engine NodeRef} {f : NodeRef → Engine β} {holds₁ holds₂ : Prop}
    {links₁ : List NodeRef} {post₂ : β → World → Prop}
    (first : Behaves x w holds₁ links₁ (fun c w₁ => Fresh w w₁ c))
    (rest : ∀ c w₁, x.run w = (.ok c, w₁) → Keeps links₁ w w₁ → Fresh w w₁ c →
      Behaves (f c) w₁ holds₂ [c] post₂) :
    Behaves (x >>= f) w (holds₁ ∧ holds₂) links₁ post₂ where
  ok_iff := by
    constructor
    · rintro ⟨b, w', ran⟩
      obtain ⟨c, w₁, ranFirst, ranRest⟩ := Engine.run_bind_ok ran
      obtain ⟨keeps, fresh⟩ := first.frame c w₁ ranFirst
      obtain ⟨holdsFirst, linkable⟩ := first.ok_iff.mp ⟨c, w₁, ranFirst⟩
      obtain ⟨holdsRest, _⟩ := (rest c w₁ ranFirst keeps fresh).ok_iff.mp ⟨b, w', ranRest⟩
      exact ⟨⟨holdsFirst, holdsRest⟩, linkable⟩
    · rintro ⟨⟨holdsFirst, holdsRest⟩, linkable⟩
      obtain ⟨c, w₁, ranFirst⟩ := first.ok_iff.mpr ⟨holdsFirst, linkable⟩
      obtain ⟨keeps, fresh⟩ := first.frame c w₁ ranFirst
      obtain ⟨b, w', ranRest⟩ := (rest c w₁ ranFirst keeps fresh).ok_iff.mpr
        ⟨holdsRest, linkable_single.mpr fresh.parent_none⟩
      exact ⟨b, w', by rw [Engine.run_bind_of_ok x f ranFirst]; exact ranRest⟩
  frame b w' ran := by
    obtain ⟨c, w₁, ranFirst, ranRest⟩ := Engine.run_bind_ok ran
    obtain ⟨keeps, fresh⟩ := first.frame c w₁ ranFirst
    obtain ⟨keepsRest, after⟩ := (rest c w₁ ranFirst keeps fresh).frame b w' ranRest
    exact ⟨(keeps.trans keepsRest).drop_fresh fresh.new, after⟩

end Behaves

-- Appending a child to a live node with no parent succeeds exactly when the child has no
-- parent, and links the child alone.
theorem append_behaves (w : World) (parent child : NodeRef) (differ : child ≠ parent)
    (root : w.parent parent = none) (present : child.index < w.nodes.size)
    (alive : (w.node parent).live = true) :
    Behaves (Engine.append parent child) w True [child] (fun _ _ => True) where
  ok_iff := by
    rw [Engine.run_append]
    constructor
    · rintro ⟨_, _, ran⟩
      rcases attached : w.attach parent child false with ⟨w₁, e | c⟩
      · rw [attached] at ran
        cases ran
      · obtain ⟨-, -, -, free⟩ := World.attach_ok attached
        exact ⟨trivial, linkable_single.mpr free⟩
    · rintro ⟨-, linkable⟩
      have notBelow : (w.parents parent).contains child = false := by
        rw [World.parents_of_parent_none w parent root]
        rfl
      obtain ⟨attached, -⟩ := w.keeps_attach parent child false differ notBelow
        (linkable_single.mp linkable) present alive
      exact ⟨(), _, by rw [attached]; rfl⟩
  frame a w' ran := by
    rw [Engine.run_append] at ran
    rcases attached : w.attach parent child false with ⟨w₁, e | c⟩
    · rw [attached] at ran
      cases ran
    · obtain ⟨-, -, notBelow, free⟩ := World.attach_ok attached
      obtain ⟨-, keeps⟩ := w.keeps_attach parent child false differ notBelow free present alive
      rw [attached] at ran keeps
      cases ran
      exact ⟨keeps, trivial⟩

-- A computation that succeeds on every world, with a steady change.
def Steadily {α : Type} (m : Engine α) : Prop :=
  ∀ w, ∃ a w', m.run w = (.ok a, w') ∧ Steady w w'

namespace Steadily

variable {α β : Type}

theorem of_pure (a : α) : Steadily (pure a : Engine α) :=
  fun w => ⟨a, w, rfl, Steady.refl w⟩

theorem of_modify {f : World → World} (steady : ∀ w, Steady w (f w)) :
    Steadily (modify f : Engine Unit) :=
  fun w => ⟨(), f w, rfl, steady w⟩

theorem bind {x : Engine α} {f : α → Engine β} (first : Steadily x) (rest : ∀ a, Steadily (f a)) :
    Steadily (x >>= f) := fun w => by
  obtain ⟨a, w₁, ran, steady⟩ := first w
  obtain ⟨b, w', ran', steady'⟩ := rest a w₁
  exact ⟨b, w', by rw [Engine.run_bind_of_ok x f ran, ran'], steady.trans steady'⟩

theorem forIn {γ : Type} (step : γ → Unit → Engine (ForInStep Unit))
    (steps : ∀ x, Steadily (step x ())) : ∀ xs : List γ, Steadily (forIn xs () step)
  | [] => of_pure ()
  | x :: rest => by
      rw [List.forIn_cons]
      refine bind (steps x) fun r => ?_
      cases r with
      | done b => exact of_pure b
      | yield b => exact forIn step steps rest

theorem behaves {m : Engine α} (steadily : Steadily m) (w : World) :
    Behaves m w True [] (fun _ w' => Steady w w') := by
  obtain ⟨a, w', ran, steady⟩ := steadily w
  exact Behaves.of_steady ran steady steady

end Steadily

end TaskTree
