import TaskTree.World

namespace TaskTree

set_option autoImplicit false

namespace Listeners

variable {η : Type}

def hearing (ls : Listeners η) (event : String) : List (Listener η) :=
  ls.list.filter (·.hears event)

theorem fire_handlers (ls : Listeners η) (event : String) :
    (ls.fire event).1 = (ls.hearing event).map (·.handler) := by
  simp only [fire, hearing]
  induction ls.list with
  | nil => rfl
  | cons l rest ih => by_cases hears : l.hears event <;> simp [hears, ih]

@[simp] theorem fire_list (ls : Listeners η) (event : String) :
    (ls.fire event).2.list = ls.list.filter fun l => !(l.once && l.hears event) := rfl

@[simp] theorem fire_next (ls : Listeners η) (event : String) :
    (ls.fire event).2.next = ls.next := rfl

@[simp] theorem add_list (ls : Listeners η) (event : Option String) (once : Bool) (handler : η) :
    (ls.add event once handler).1.list = ls.list ++ [⟨ls.next, event, once, handler⟩] := rfl

@[simp] theorem add_next (ls : Listeners η) (event : Option String) (once : Bool) (handler : η) :
    (ls.add event once handler).1.next = ls.next + 1 := rfl

@[simp] theorem off_next (ls : Listeners η) (event : String) (id : Nat) :
    (ls.off event id).1.next = ls.next := by
  simp only [off]
  split <;> rfl

theorem off_sublist (ls : Listeners η) (event : String) (id : Nat) :
    (ls.off event id).1.list.Sublist ls.list := by
  simp only [off]
  split
  · exact List.eraseIdx_sublist _ _
  · exact List.Sublist.refl _

end Listeners

namespace Emitter

inductive Call (η : Type) where
  | on (event : Option String) (once : Bool) (handler : η)
  | off (event : String) (id : Nat)
  | dispatch (event : String)

inductive Pending (η : Type) where
  | call (c : Call η)
  | invoke (l : Listener η) (event : String)

def Pending.owed {η : Type} : Pending η → Option (Listener η)
  | .call _ => none
  | .invoke l _ => some l

structure Session (η : Type) where
  listeners : Listeners η
  todo : List (Pending η)
  invoked : List (Listener η)

variable {η : Type}

def start (calls : List (Call η)) : Session η :=
  ⟨{}, calls.map .call, []⟩

inductive Step : Session η → Session η → Prop
  | on (ls : Listeners η) (event : Option String) (once : Bool) (handler : η)
      (rest : List (Pending η)) (invoked : List (Listener η)) :
      Step ⟨ls, .call (.on event once handler) :: rest, invoked⟩
        ⟨(ls.add event once handler).1, rest, invoked⟩
  | off (ls : Listeners η) (event : String) (id : Nat) (rest : List (Pending η))
      (invoked : List (Listener η)) :
      Step ⟨ls, .call (.off event id) :: rest, invoked⟩ ⟨(ls.off event id).1, rest, invoked⟩
  | dispatch (ls : Listeners η) (event : String) (rest : List (Pending η))
      (invoked : List (Listener η)) :
      Step ⟨ls, .call (.dispatch event) :: rest, invoked⟩
        ⟨(ls.fire event).2, (ls.hearing event).map (.invoke · event) ++ rest, invoked⟩
  | invoke (ls : Listeners η) (l : Listener η) (event : String) (calls : List (Call η))
      (rest : List (Pending η)) (invoked : List (Listener η)) :
      Step ⟨ls, .invoke l event :: rest, invoked⟩
        ⟨ls, calls.map .call ++ rest, invoked ++ [l]⟩

end Emitter

end TaskTree
