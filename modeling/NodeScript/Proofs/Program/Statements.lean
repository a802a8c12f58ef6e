import Mathlib.Data.List.Basic
import NodeScript.Proofs.Entries
import NodeScript.Proofs.Program.Order
import NodeScript.Proofs.Program.Strict

namespace NodeScript

section

variable {α β : Type}

theorem flatMap_filter_perm [DecidableEq β] (key : α → β) {keys : List β} (distinct : keys.Nodup)
    (l : List α) :
    (keys.flatMap fun b => l.filter fun a => decide (key a = b)).Perm
      (l.filter fun a => decide (key a ∈ keys)) := by
  induction keys with
  | nil => simp
  | cons b rest ih =>
      obtain ⟨new, tail⟩ := List.nodup_cons.mp distinct
      have first : (l.filter fun a => decide (key a ∈ b :: rest)).filter (fun a => decide (key a = b)) =
          l.filter fun a => decide (key a = b) := by
        rw [List.filter_filter]
        apply List.filter_congr
        intro a _
        by_cases same : key a = b <;> simp [same]
      have others : (l.filter fun a => decide (key a ∈ b :: rest)).filter
          (fun a => !decide (key a = b)) = l.filter fun a => decide (key a ∈ rest) := by
        rw [List.filter_filter]
        apply List.filter_congr
        intro a _
        by_cases same : key a = b <;> simp [same, new]
      have both := List.filter_append_perm (fun a => decide (key a = b))
        (l.filter fun a => decide (key a ∈ b :: rest))
      rw [first, others] at both
      rw [List.flatMap_cons]
      exact ((ih tail).append_left _).trans both

/-- What each of some places of distinct names tells of the elements of its name is told of all of them
once. -/
theorem gather [DecidableEq β] {γ δ : Type} {places : List γ} {name : γ → β} {key : α → β} {l : List α}
    {part : γ → List δ} {view : α → δ} (distinct : (places.map name).Nodup)
    (each : ∀ p ∈ places, (part p).Perm ((l.filter fun a => decide (key a = name p)).map view))
    (all : ∀ a ∈ l, key a ∈ places.map name) : (places.flatMap part).Perm (l.map view) := by
  have whole : l.filter (fun a => decide (key a ∈ places.map name)) = l := by
    apply List.filter_eq_self.mpr
    intro a member
    exact decide_eq_true (all a member)
  have sorted := flatMap_filter_perm key distinct l
  rw [whole] at sorted
  calc (places.flatMap part).Perm
        (places.flatMap fun p => (l.filter fun a => decide (key a = name p)).map view) :=
      List.Perm.flatMap_left places each
    _ = ((places.map name).flatMap fun b => l.filter fun a => decide (key a = b)).map view := by
      rw [List.flatMap_map, List.map_flatMap]
    List.Perm _ (l.map view) := sorted.map view

theorem toList_find?_reverse [DecidableEq β] {key : α → β} {l : List α} (distinct : (l.map key).Nodup)
    (b : β) :
    (l.reverse.find? fun a => decide (key a = b)).toList = l.filter fun a => decide (key a = b) := by
  induction l with
  | nil => rfl
  | cons a rest ih =>
      obtain ⟨new, tail⟩ := List.nodup_cons.mp distinct
      have others := ih tail
      rw [List.reverse_cons, List.find?_append]
      by_cases same : key a = b
      · have none : rest.reverse.find? (fun x => decide (key x = b)) = none := by
          simp only [List.find?_eq_none, List.mem_reverse, decide_eq_true_eq]
          intro x member equal
          have repeated : key a ∈ rest.map key := same ▸ equal ▸ List.mem_map_of_mem member
          exact new repeated
        rw [none] at others
        simp [none, same, ← others]
      · simp [same, others]

end

theorem get?_overlay (base top : Members) (name : Text) :
    (base.overlay top).get? name = (Members.get? top.reverse name).or (base.get? name) := by
  induction top generalizing base with
  | nil => rfl
  | cons m rest ih =>
      have step : base.overlay (m :: rest) = (base.put m.1 m.2).overlay rest := rfl
      have last : Members.get? (m :: rest).reverse name =
          (Members.get? rest.reverse name).or (Members.get? [m] name) := by
        unfold Members.get?
        rw [List.reverse_cons, List.lookup_append]
      rw [step, ih, last]
      unfold Members.get? Members.put
      rw [Entries.lookup_put, Entries.lookup_cons]
      by_cases same : name = m.1 <;> simp [same]

namespace Wiring

section

variable {c : Catalog} {w : Wiring} {order rest : List Text} {index : Nat} {st : Statement}

theorem mem_statementsFrom :
    st ∈ w.statementsFrom c order index rest ↔ ∃ i n t, rest[i]? = some n.id ∧
      w.node? n.id = some n ∧ c.find? n.type = some t ∧ st = w.statement c order (index + i) n t := by
  induction rest generalizing index with
  | nil => simp [statementsFrom]
  | cons id rest ih =>
      have tail : st ∈ w.statementsFrom c order (index + 1) rest ↔ ∃ i n t,
          (id :: rest)[i + 1]? = some n.id ∧ w.node? n.id = some n ∧ c.find? n.type = some t ∧
            st = w.statement c order (index + (i + 1)) n t := by
        have shift (i : Nat) : index + (i + 1) = index + 1 + i := by omega
        rw [ih]
        refine exists_congr fun i => ?_
        rw [shift i, List.getElem?_cons_succ]
      rw [← Nat.or_exists_add_one, ← tail, List.getElem?_cons_zero]
      simp only [statementsFrom]
      split
      · rename_i n t found at_
        obtain ⟨m, found', typed⟩ := templateAt?_eq_some.mp at_
        cases found.symm.trans found'
        have named := node?_id found
        rw [List.mem_cons]
        apply or_congr_left
        constructor
        · intro same
          exact ⟨n, t, by rw [named], by rw [named, found], typed, same⟩
        · intro head
          rcases head with ⟨m, u, same, found', typed', equal⟩
          have one : n = m := by
            rw [← Option.some.inj same, found] at found'
            exact Option.some.inj found'
          subst one
          cases typed.symm.trans typed'
          exact equal
      · rename_i missing
        rw [or_iff_right]
        intro head
        rcases head with ⟨m, u, same, found, typed, _⟩
        cases same
        exact missing m u found (templateAt?_eq_some.mpr ⟨m, found, typed⟩)

/-- Where the types are known, each node has its statement, at the place that it has itself. -/
theorem statementsFrom_places (order : List Text) (index : Nat)
    (known : ∀ id ∈ rest, (w.templateAt? c id).isSome = true) :
    (w.statementsFrom c order index rest).map (fun st => (st.node, st.index)) = rest.zipIdx index := by
  induction rest generalizing index with
  | nil => rfl
  | cons id rest ih =>
      obtain ⟨t, at_⟩ := Option.isSome_iff_exists.mp (known id List.mem_cons_self)
      obtain ⟨n, found, _⟩ := templateAt?_eq_some.mp at_
      have tail := ih (index + 1) fun other member => known other (List.mem_cons_of_mem id member)
      simp only [statementsFrom, found, at_, List.map_cons, tail, statement, node?_id found, List.zipIdx_cons]

theorem statementsFrom_nodes (index : Nat) (known : ∀ id ∈ rest, (w.templateAt? c id).isSome = true) :
    (w.statementsFrom c order index rest).map Statement.node = rest := by
  simpa [Function.comp_def] using congrArg (List.map Prod.fst) (statementsFrom_places order index known)

theorem statementsFrom_index (index : Nat) (known : ∀ id ∈ rest, (w.templateAt? c id).isSome = true) :
    (w.statementsFrom c order index rest).map Statement.index = List.range' index rest.length := by
  simpa [Function.comp_def] using congrArg (List.map Prod.snd) (statementsFrom_places order index known)

end

end Wiring

end NodeScript
