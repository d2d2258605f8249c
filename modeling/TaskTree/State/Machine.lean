import TaskTree.Error

namespace TaskTree

set_option autoImplicit false

structure Rule (σ : Type) where
  sources : List σ
  targets : List σ
deriving Repr

structure Machine (σ : Type) where
  initial : σ
  current : σ
  rules : List (Rule σ)

namespace Machine

variable {σ : Type} [DecidableEq σ]

def start (initial : σ) (rules : List (Rule σ)) : Machine σ := ⟨initial, initial, rules⟩

def allows (rules : List (Rule σ)) (source target : σ) : Bool :=
  rules.any fun r => r.sources.contains source && r.targets.contains target

def canMoveTo (m : Machine σ) (target : σ) : Bool :=
  m.current == target || allows m.rules m.current target

def setState (name : σ → String) (m : Machine σ) (target : σ) :
    Except WorkError (Machine σ × Option (σ × σ)) :=
  if m.current = target then .ok (m, none)
  else if !m.rules.any (fun r => r.targets.contains target) then
    .error (.of (.unknownState (name target)))
  else if allows m.rules m.current target then
    .ok ({ m with current := target }, some (m.current, target))
  else
    let origins := (m.rules.filter fun r => r.targets.contains target).flatMap (·.sources)
    .error (.of (.moveRefused (name target) (origins.map name) (name m.current)))

def reset (m : Machine σ) : Machine σ × σ :=
  ({ m with current := m.initial }, m.current)

theorem setState_self (name : σ → String) (m : Machine σ) :
    m.setState name m.current = .ok (m, none) := by
  simp [setState]

theorem setState_ok (name : σ → String) (m : Machine σ) (target : σ)
    (allowed : allows m.rules m.current target = true) (moving : m.current ≠ target) :
    m.setState name target = .ok ({ m with current := target }, some (m.current, target)) := by
  have reached : ∃ r, r ∈ m.rules ∧ target ∈ r.targets := by
    simp only [allows, List.any_eq_true, Bool.and_eq_true, List.contains_iff_mem] at allowed
    obtain ⟨r, mem, _, hit⟩ := allowed
    exact ⟨r, mem, hit⟩
  simp [setState, moving, reached, allowed]

end Machine

end TaskTree
