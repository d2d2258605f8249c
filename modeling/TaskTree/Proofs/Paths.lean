import TaskTree.Proofs.Links
import Mathlib.Data.List.TakeWhile
import Mathlib.Data.List.TakeDrop

set_option autoImplicit false

namespace TaskTree

namespace KeyMap

variable {α : Type}

theorem find?_eq_none_of_not_mem (m : KeyMap α) (key : String) (missing : key ∉ m.keys) :
    m.find? key = none := by
  induction m with
  | nil => rfl
  | cons entry rest ih =>
    obtain ⟨k, v⟩ := entry
    simp only [keys, List.map_cons, List.mem_cons, not_or] at missing
    simp [find?, Ne.symm missing.1, ih missing.2]

theorem find?_union (m other : KeyMap α) (key : String) (keyed : other.keys.Nodup) :
    (m.union other).find? key = (other.find? key).or (m.find? key) := by
  induction other generalizing m with
  | nil => rfl
  | cons entry rest ih =>
    obtain ⟨k, v⟩ := entry
    simp only [keys, List.map_cons, List.nodup_cons] at keyed
    have merged : m.union ((k, v) :: rest) = (m.insert k v).union rest := rfl
    rw [merged, ih _ keyed.2]
    by_cases same : k = key
    · subst same
      have unseen := find?_eq_none_of_not_mem rest k keyed.1
      simp [unseen, find?_insert_self, find?]
    · simp [find?_insert_ne m k key v (Ne.symm same), find?, same]

theorem find?_map {β : Type} (m : KeyMap α) (f : α → β) (key : String) :
    KeyMap.find? (m.map fun (k, v) => (k, f v)) key = (m.find? key).map f := by
  induction m with
  | nil => rfl
  | cons entry rest ih =>
    obtain ⟨k, v⟩ := entry
    by_cases same : k = key <;> simp [find?, same, ih]

end KeyMap

namespace Token

theorem pathParts_eq (path : String) :
    pathParts path = (splitPath path).1 :: ((splitPath path).2.map pathParts).getD [] := by
  have undotted : '.' ∉ path.toList.takeWhile (· ≠ '.') := fun member => by
    simpa using List.mem_takeWhile_imp member
  have whole := @List.takeWhile_append_dropWhile _ (fun c => decide (c ≠ '.')) path.toList
  unfold pathParts splitPath
  rw [List.span_eq_takeWhile_dropWhile]
  cases rest : path.toList.dropWhile (· ≠ '.') with
  | nil =>
    -- no dot: the whole path is one part
    rw [rest, List.append_nil] at whole
    have parts : path.toList.splitOn '.' = [path.toList.takeWhile (· ≠ '.')] := by
      conv_lhs => rw [← whole]
      exact List.splitOn_eq_singleton undotted
    simp [parts]
  | cons c after =>
    -- the walk stopped at the first dot
    have dot : c = '.' := by
      have stop := List.head?_dropWhile_not (fun c => decide (c ≠ '.')) path.toList
      rw [rest] at stop
      simpa using stop
    subst dot
    rw [rest] at whole
    have parts : path.toList.splitOn '.' =
        path.toList.takeWhile (· ≠ '.') :: after.splitOn '.' := by
      conv_lhs => rw [← whole]
      exact List.splitOn_append_cons_self_of_not_mem undotted after
    simp [parts]

theorem valueAtPath_eq (root : Json) (path : String) :
    valueAtPath root path = (step root (splitPath path).1).bind fun v =>
      match (splitPath path).2 with
      | some rest => valueAtPath v rest
      | none => some v := by
  rw [valueAtPath, pathParts_eq]
  cases (splitPath path).2 <;> rfl

end Token

namespace World

def ScopesKeyed (w : World) : Prop :=
  ∀ n, (w.node n).scope.toKeyMap.keys.Nodup

-- Every scope keeps its keys in order, so no key of it appears twice.
theorem scopesKeyed (w : World) : w.ScopesKeyed := fun n =>
  (w.node n).scope.nodup

-- Merging a chain of scopes from its far end: a key is answered by the first scope of the
-- chain that has it, else by the map the merge started from.
theorem find?_merge (scopeOf : NodeRef → KeyMap Json) (key : String) :
    ∀ (chain : List NodeRef) (start : KeyMap Json), (∀ m ∈ chain, (scopeOf m).keys.Nodup) →
      KeyMap.find? (chain.reverse.foldl (fun acc m => acc.union (scopeOf m)) start) key =
        (chain.findSome? fun m => KeyMap.find? (scopeOf m) key).or (KeyMap.find? start key)
  | [], _, _ => rfl
  | m :: chain, start, keyed => by
    rw [List.reverse_cons, List.foldl_append, List.foldl_cons, List.foldl_nil,
      KeyMap.find?_union _ _ _ (keyed m List.mem_cons_self),
      find?_merge scopeOf key chain start fun k member => keyed k (List.mem_cons_of_mem m member),
      List.findSome?_cons]
    cases KeyMap.find? (scopeOf m) key <;> rfl

theorem find?_effectiveScope (w : World) (n : NodeRef) (key : String) :
    KeyMap.find? (w.effectiveScope n) key = w.scopeGet n key := by
  rw [effectiveScope, find?_merge _ key _ [] fun m _ => w.scopesKeyed m, KeyMap.find?_nil,
    Option.or_none]
  rfl

theorem scopePath_eq_valueAtPath (w : World) (n : NodeRef) (path : String) :
    w.scopePath n path = Token.valueAtPath (.obj (w.effectiveScope n)) path := by
  rw [Token.valueAtPath_eq, Token.step, find?_effectiveScope]
  rfl

theorem find?_ctxSnapshot (w : World) (c : ContextRef) (key : String) :
    KeyMap.find? (w.ctxSnapshot c) key = (KeyMap.find? (w.context c).entries key).map Entry.resolve :=
  KeyMap.find?_map _ _ key

theorem ctxResolvePath_eq (w : World) (c : ContextRef) (path : String) :
    w.ctxResolvePath c path =
      (w.ctxNotify c "ctx-read" [.str (Token.splitPath path).1,
          (KeyMap.find? (w.ctxSnapshot c) (Token.splitPath path).1).getD .null],
        Token.valueAtPath (.obj (w.ctxSnapshot c)) path) := by
  rw [Token.valueAtPath_eq, Token.step, find?_ctxSnapshot]
  rfl

/-- A path read from a node is the path walked into the node's merged scope, in which the
nearest scope of the chain from the node to the root wins each key; so every token of a text
resolves against that merge. A path read from a context is one announced read of the path's
first part and the path walked into the context's snapshot. -/
theorem paths_resolve_through_merge (w : World) :
    (∀ n key, KeyMap.find? (w.effectiveScope n) key = w.scopeGet n key) ∧
    (∀ n path, w.scopePath n path = Token.valueAtPath (.obj (w.effectiveScope n)) path) ∧
    (∀ n text, w.substitute n (.str text) =
      Token.substitute text (Token.valueAtPath (.obj (w.effectiveScope n)))) ∧
    ∀ c path, w.ctxResolvePath c path =
      (w.ctxNotify c "ctx-read" [.str (Token.splitPath path).1,
          (KeyMap.find? (w.ctxSnapshot c) (Token.splitPath path).1).getD .null],
        Token.valueAtPath (.obj (w.ctxSnapshot c)) path) := by
  refine ⟨find?_effectiveScope w, scopePath_eq_valueAtPath w, fun n text => ?_,
    ctxResolvePath_eq w⟩
  have paths : w.scopePath n = Token.valueAtPath (.obj (w.effectiveScope n)) :=
    funext (scopePath_eq_valueAtPath w n)
  rw [substitute, paths]

def shadowWorld : World where
  nodes := #[
    { id := "root", body := .bare, children := [⟨1⟩],
      scope := ⟨[("count", .nat 3), ("user", .obj [("name", .str "ada")])], by decide⟩ },
    { id := "child", body := .bare, parent := some ⟨0⟩,
      scope := ⟨[("user", .obj [("langs", .arr [.str "rust", .str "c"])])], by decide⟩ }]
  contexts := #[{ entries := [("items", .value (.arr [.nat 1, .nat 2]))] }]

theorem shadowed_paths_resolve :
    shadowWorld.ScopesKeyed ∧
      ((∀ n key, KeyMap.find? (shadowWorld.effectiveScope n) key = shadowWorld.scopeGet n key) ∧
      (∀ n path, shadowWorld.scopePath n path =
        Token.valueAtPath (.obj (shadowWorld.effectiveScope n)) path) ∧
      (∀ n text, shadowWorld.substitute n (.str text) =
        Token.substitute text (Token.valueAtPath (.obj (shadowWorld.effectiveScope n)))) ∧
      ∀ c path, shadowWorld.ctxResolvePath c path =
        (shadowWorld.ctxNotify c "ctx-read" [.str (Token.splitPath path).1,
            (KeyMap.find? (shadowWorld.ctxSnapshot c) (Token.splitPath path).1).getD .null],
          Token.valueAtPath (.obj (shadowWorld.ctxSnapshot c)) path)) := by
  exact ⟨shadowWorld.scopesKeyed, paths_resolve_through_merge shadowWorld⟩

example : shadowWorld.scopePath ⟨1⟩ "user.name" = none := by decide

end World

end TaskTree
