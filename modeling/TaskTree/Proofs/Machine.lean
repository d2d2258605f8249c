import TaskTree.State.Machine

set_option autoImplicit false

namespace TaskTree

namespace Machine

variable {σ : Type} [DecidableEq σ]

def Edge (rules : List (Rule σ)) (source target : σ) : Prop :=
  ∃ r ∈ rules, source ∈ r.sources ∧ target ∈ r.targets

def Target (rules : List (Rule σ)) (target : σ) : Prop :=
  ∃ r ∈ rules, target ∈ r.targets

theorem allows_iff (rules : List (Rule σ)) (source target : σ) :
    allows rules source target = true ↔ Edge rules source target := by
  simp [allows, Edge]

theorem any_targets_iff (rules : List (Rule σ)) (target : σ) :
    (rules.any fun r => r.targets.contains target) = true ↔ Target rules target := by
  simp [Target]

omit [DecidableEq σ] in
theorem Edge.target {rules : List (Rule σ)} {source target : σ} (edge : Edge rules source target) :
    Target rules target :=
  let ⟨r, member, _, reached⟩ := edge
  ⟨r, member, reached⟩

inductive Call (σ : Type) where
  | query (target : σ)
  | set (target : σ)
  | reset

variable (name : σ → String)

def perform (m : Machine σ) : Call σ → Machine σ
  | .query _ => m
  | .set target =>
    match m.setState name target with
    | .ok (moved, _) => moved
    | .error _ => m
  | .reset => m.reset.1

def performAll (m : Machine σ) (calls : List (Call σ)) : Machine σ :=
  calls.foldl (perform name) m

@[simp] theorem performAll_nil (m : Machine σ) : m.performAll name [] = m := rfl

@[simp] theorem performAll_cons (m : Machine σ) (c : Call σ) (calls : List (Call σ)) :
    m.performAll name (c :: calls) = (m.perform name c).performAll name calls := rfl

theorem setState_edge (m : Machine σ) (target : σ) (moving : target ≠ m.current)
    (edge : Edge m.rules m.current target) :
    m.setState name target = .ok ({ m with current := target }, some (m.current, target)) :=
  setState_ok name m target ((allows_iff _ _ _).mpr edge) (Ne.symm moving)

theorem setState_unknown (m : Machine σ) (target : σ) (moving : target ≠ m.current)
    (unknown : ¬Target m.rules target) :
    m.setState name target = .error (.of (.unknownState (name target))) := by
  have none : (m.rules.any fun r => r.targets.contains target) = false :=
    Bool.eq_false_iff.mpr fun found => unknown ((any_targets_iff _ _).mp found)
  simp only [setState, if_neg (Ne.symm moving), none, Bool.not_false, if_true]

theorem setState_blocked (m : Machine σ) (target : σ) (moving : target ≠ m.current)
    (reached : Target m.rules target) (noEdge : ¬Edge m.rules m.current target) :
    m.setState name target = .error (.of (.moveRefused (name target)
      (((m.rules.filter fun r => r.targets.contains target).flatMap (·.sources)).map name)
      (name m.current))) := by
  have known : (m.rules.any fun r => r.targets.contains target) = true :=
    (any_targets_iff _ _).mpr reached
  have refused : allows m.rules m.current target = false :=
    Bool.eq_false_iff.mpr fun allowed => noEdge ((allows_iff _ _ _).mp allowed)
  simp only [setState, if_neg (Ne.symm moving), known, refused, Bool.not_true, Bool.false_eq_true,
    if_false]

-- The refusal of an unknown target and that of a known one differ in their first letter.
theorem moveRefused_message_ne (target current other : String) (origins : List String) :
    (Fault.moveRefused target origins current).message ≠ "invalid state: " ++ other := by
  show "can only move to '" ++ target ++ "' from " ++ Fault.originText origins ++ " (not '" ++
    current ++ "')" ≠ "invalid state: " ++ other
  intro same
  have letters := congrArg String.toList same
  simp [String.toList_append] at letters

theorem setState_refused (m : Machine σ) (target : σ) (moving : target ≠ m.current)
    (noEdge : ¬Edge m.rules m.current target) :
    ∃ e, m.setState name target = .error e ∧ e.kind = .invalidMove ∧
      (e.message = "invalid state: " ++ name target ↔ ¬Target m.rules target) := by
  by_cases reached : Target m.rules target
  · refine ⟨_, setState_blocked name m target moving reached noEdge, rfl, ?_⟩
    simp only [reached, not_true, iff_false]
    exact moveRefused_message_ne _ _ _ _
  · refine ⟨_, setState_unknown name m target moving reached, rfl, ?_⟩
    simp only [reached, not_false_eq_true, iff_true]
    rfl

theorem canMoveTo_iff_setState (m : Machine σ) (target : σ) :
    m.canMoveTo target = true ↔ ∃ r, m.setState name target = .ok r := by
  by_cases staying : target = m.current
  · subst staying
    simp [canMoveTo, setState_self]
  · by_cases edge : Edge m.rules m.current target
    · have allowed : allows m.rules m.current target = true := (allows_iff _ _ _).mpr edge
      simp [canMoveTo, allowed, setState_edge name m target staying edge]
    · obtain ⟨e, refused, -⟩ := setState_refused name m target staying edge
      have notAllowed : allows m.rules m.current target = false :=
        Bool.eq_false_iff.mpr fun allowed => edge ((allows_iff _ _ _).mp allowed)
      simp [canMoveTo, notAllowed, refused, Ne.symm staying]

theorem perform_refused (m : Machine σ) (target : σ) (moving : target ≠ m.current)
    (noEdge : ¬Edge m.rules m.current target) : m.perform name (.set target) = m := by
  obtain ⟨e, refused, -⟩ := setState_refused name m target moving noEdge
  simp only [perform, refused]

-- A call keeps the machine as it is or changes its current state only.
theorem perform_eq (m : Machine σ) (c : Call σ) :
    m.perform name c = m ∨ ∃ t, m.perform name c = { m with current := t } := by
  cases c with
  | query => exact .inl rfl
  | reset => exact .inr ⟨m.initial, rfl⟩
  | set target =>
    by_cases staying : target = m.current
    · subst staying
      exact .inl (by simp [perform, setState_self])
    · by_cases edge : Edge m.rules m.current target
      · exact .inr ⟨target, by simp only [perform, setState_edge name m target staying edge]⟩
      · exact .inl (perform_refused name m target staying edge)

@[simp] theorem perform_rules (m : Machine σ) (c : Call σ) :
    (m.perform name c).rules = m.rules := by
  rcases perform_eq name m c with same | ⟨t, moved⟩
  · rw [same]
  · rw [moved]

@[simp] theorem perform_initial (m : Machine σ) (c : Call σ) :
    (m.perform name c).initial = m.initial := by
  rcases perform_eq name m c with same | ⟨t, moved⟩
  · rw [same]
  · rw [moved]

theorem perform_current (m : Machine σ) (c : Call σ) :
    (m.perform name c).current = m.current ∨
      (c = .reset ∧ (m.perform name c).current = m.initial) ∨
      Edge m.rules m.current (m.perform name c).current := by
  cases c with
  | query => exact .inl rfl
  | reset => exact .inr (.inl ⟨rfl, rfl⟩)
  | set target =>
    by_cases staying : target = m.current
    · subst staying
      simp [perform, setState_self]
    · by_cases edge : Edge m.rules m.current target
      · simp only [perform, setState_edge name m target staying edge]
        exact .inr (.inr edge)
      · rw [perform_refused name m target staying edge]
        exact .inl rfl

@[simp] theorem performAll_rules (m : Machine σ) (calls : List (Call σ)) :
    (m.performAll name calls).rules = m.rules := by
  induction calls generalizing m with
  | nil => rfl
  | cons c rest ih => rw [performAll_cons, ih, perform_rules]

@[simp] theorem performAll_initial (m : Machine σ) (calls : List (Call σ)) :
    (m.performAll name calls).initial = m.initial := by
  induction calls generalizing m with
  | nil => rfl
  | cons c rest ih => rw [performAll_cons, ih, perform_initial]

def Visited (m : Machine σ) : Prop :=
  m.current = m.initial ∨ Target m.rules m.current

theorem visited_perform (m : Machine σ) (c : Call σ) (visited : Visited m) :
    Visited (m.perform name c) := by
  unfold Visited
  rw [perform_rules, perform_initial]
  rcases perform_current name m c with same | ⟨-, back⟩ | edge
  · rw [same]
    exact visited
  · exact .inl back
  · exact .inr edge.target

theorem visited_performAll (m : Machine σ) (calls : List (Call σ)) (visited : Visited m) :
    Visited (m.performAll name calls) := by
  induction calls generalizing m with
  | nil => exact visited
  | cons c rest ih => exact ih _ (visited_perform name m c visited)

structure Obeys (T : List (Rule σ)) (initial : σ) (m : Machine σ) : Prop where
  query : ∀ t, m.canMoveTo t = true ↔ ∃ r, m.setState name t = .ok r
  stay : m.setState name m.current = .ok (m, none)
  move : ∀ t, t ≠ m.current → Edge T m.current t →
    m.setState name t = .ok ({ m with current := t }, some (m.current, t))
  refuse : ∀ t, t ≠ m.current → ¬Edge T m.current t →
    m.perform name (.set t) = m ∧ ∃ e, m.setState name t = .error e ∧ e.kind = .invalidMove ∧
      (e.message = "invalid state: " ++ name t ↔ ∀ r ∈ T, t ∉ r.targets)
  reset : m.reset = ({ m with current := initial }, m.current)

theorem obeys (m : Machine σ) : Obeys name m.rules m.initial m where
  query := canMoveTo_iff_setState name m
  stay := setState_self name m
  move := setState_edge name m
  refuse t moving noEdge := by
    refine ⟨perform_refused name m t moving noEdge, ?_⟩
    obtain ⟨e, refused, kind, message⟩ := setState_refused name m t moving noEdge
    exact ⟨e, refused, kind, by simpa [Target] using message⟩
  reset := rfl

/-- A machine started in `initial` with the table `T`, after any sequence of calls, still
answers every call by the table; it is in `initial` or in the target of a rule; and any call
but a reset keeps its state or follows an edge of `T`. -/
theorem machine_follows_table (T : List (Rule σ)) (initial : σ) (calls : List (Call σ)) :
    let m := (start initial T).performAll name calls
    Obeys name T initial m ∧ (m.current = initial ∨ ∃ r ∈ T, m.current ∈ r.targets) ∧
      ∀ c, c ≠ .reset → (m.perform name c).current = m.current ∨
        ∃ r ∈ T, m.current ∈ r.sources ∧ (m.perform name c).current ∈ r.targets := by
  intro m
  have rules : m.rules = T := performAll_rules name _ calls
  have first : m.initial = initial := performAll_initial name _ calls
  have visited : Visited m := visited_performAll name _ calls (.inl rfl)
  refine ⟨rules ▸ first ▸ obeys name m, ?_, fun c notReset => ?_⟩
  · rw [Visited, rules, first] at visited
    exact visited
  · rcases perform_current name m c with same | ⟨isReset, -⟩ | edge
    · exact .inl same
    · exact absurd isReset notReset
    · rw [rules] at edge
      exact .inr edge

end Machine

end TaskTree
