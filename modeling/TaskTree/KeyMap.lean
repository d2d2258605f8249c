namespace TaskTree

set_option autoImplicit false

abbrev KeyMap (α : Type) := List (String × α)

namespace KeyMap

variable {α : Type}

def find? : KeyMap α → String → Option α
  | [], _ => none
  | (k, v) :: rest, key => if k = key then some v else find? rest key

def contains (m : KeyMap α) (key : String) : Bool :=
  (m.find? key).isSome

def insert : KeyMap α → String → α → KeyMap α
  | [], key, value => [(key, value)]
  | (k, v) :: rest, key, value =>
    if key < k then (key, value) :: (k, v) :: rest
    else if key = k then (key, value) :: rest
    else (k, v) :: insert rest key value

def erase : KeyMap α → String → KeyMap α
  | [], _ => []
  | (k, v) :: rest, key => if k = key then rest else (k, v) :: erase rest key

def keys (m : KeyMap α) : List String :=
  m.map Prod.fst

def union (m other : KeyMap α) : KeyMap α :=
  other.foldl (fun acc entry => acc.insert entry.1 entry.2) m

def ofList (pairs : List (String × α)) : KeyMap α :=
  union [] pairs

@[simp] theorem find?_nil (key : String) : find? ([] : KeyMap α) key = none := rfl

theorem find?_insert_self (m : KeyMap α) (key : String) (value : α) :
    (m.insert key value).find? key = some value := by
  induction m with
  | nil => simp [insert, find?]
  | cons entry rest ih =>
    obtain ⟨k, v⟩ := entry
    unfold insert
    by_cases lt : key < k
    · simp [lt, find?]
    · by_cases same : key = k
      · simp [same, find?]
      · have differ : k ≠ key := fun h => same h.symm
        simp [lt, same, find?, differ, ih]

theorem find?_insert_ne (m : KeyMap α) (key other : String) (value : α) (differ : other ≠ key) :
    (m.insert key value).find? other = m.find? other := by
  induction m with
  | nil => simp [insert, find?, Ne.symm differ]
  | cons entry rest ih =>
    obtain ⟨k, v⟩ := entry
    unfold insert
    by_cases lt : key < k
    · simp [lt, find?, Ne.symm differ]
    · by_cases same : key = k
      · subst same
        simp [find?, Ne.symm differ]
      · simp [lt, same, find?, ih]

def Ordered (m : KeyMap α) : Prop :=
  m.keys.Pairwise (· < ·)

instance (m : KeyMap α) : Decidable m.Ordered :=
  inferInstanceAs (Decidable (m.keys.Pairwise (· < ·)))

theorem Ordered.nodup {m : KeyMap α} (ordered : m.Ordered) : m.keys.Nodup :=
  ordered.imp String.ne_of_lt

theorem mem_keys_insert {m : KeyMap α} {key k : String} {value : α}
    (member : k ∈ (m.insert key value).keys) : k = key ∨ k ∈ m.keys := by
  induction m with
  | nil => simpa [insert, keys] using member
  | cons entry rest ih =>
    obtain ⟨e, v⟩ := entry
    unfold insert at member
    split at member
    · simpa [keys, or_assoc] using member
    · split at member
      · simp only [keys, List.map_cons, List.mem_cons] at member ⊢
        rcases member with same | later
        · exact .inl same
        · exact .inr (.inr later)
      · simp only [keys, List.map_cons, List.mem_cons] at member ih ⊢
        rcases member with here | later
        · exact .inr (.inl here)
        · rcases ih later with same | later
          · exact .inl same
          · exact .inr (.inr later)

theorem Ordered.insert {m : KeyMap α} (ordered : m.Ordered) (key : String) (value : α) :
    (m.insert key value).Ordered := by
  induction m with
  | nil => exact List.pairwise_singleton _ _
  | cons entry rest ih =>
    obtain ⟨k, v⟩ := entry
    have split : (∀ e ∈ keys rest, k < e) ∧ Ordered rest := List.pairwise_cons.mp ordered
    unfold KeyMap.insert
    by_cases below : key < k
    · -- the key goes in front, below every key of the map
      simp only [below, if_true]
      refine List.pairwise_cons.mpr ⟨fun e member => ?_, ordered⟩
      rcases List.mem_cons.mp member with same | later
      · exact same ▸ below
      · exact String.lt_trans below (split.1 e later)
    · by_cases same : key = k
      · -- the key's value is replaced, and the keys stay as they were
        subst same
        simp only [String.lt_irrefl, if_false, if_true]
        exact ordered
      · -- the key goes further in, above `k`
        have above : k < key := Std.lt_of_le_of_ne (String.not_lt.mp below) (Ne.symm same)
        simp only [below, same, if_false]
        refine List.pairwise_cons.mpr ⟨fun e member => ?_, ih split.2⟩
        rcases mem_keys_insert member with inserted | kept
        · exact inserted ▸ above
        · exact split.1 e kept

theorem erase_sublist (m : KeyMap α) (key : String) : (m.erase key).Sublist m := by
  induction m with
  | nil => exact List.Sublist.slnil
  | cons entry rest ih =>
    obtain ⟨k, v⟩ := entry
    unfold erase
    split
    · exact List.sublist_cons_self _ _
    · exact ih.cons_cons _

theorem Ordered.erase {m : KeyMap α} (ordered : m.Ordered) (key : String) :
    (m.erase key).Ordered :=
  ordered.sublist ((erase_sublist m key).map Prod.fst)

end KeyMap

structure SortedMap (α : Type) where
  toKeyMap : KeyMap α
  ordered : toKeyMap.Ordered

namespace SortedMap

variable {α : Type}

def empty : SortedMap α := ⟨[], List.Pairwise.nil⟩

instance : Inhabited (SortedMap α) := ⟨empty⟩

def insert (m : SortedMap α) (key : String) (value : α) : SortedMap α :=
  ⟨m.toKeyMap.insert key value, m.ordered.insert key value⟩

def erase (m : SortedMap α) (key : String) : SortedMap α :=
  ⟨m.toKeyMap.erase key, m.ordered.erase key⟩

@[simp] theorem toKeyMap_insert (m : SortedMap α) (key : String) (value : α) :
    (m.insert key value).toKeyMap = m.toKeyMap.insert key value := rfl

theorem nodup (m : SortedMap α) : m.toKeyMap.keys.Nodup :=
  m.ordered.nodup

end SortedMap

end TaskTree
