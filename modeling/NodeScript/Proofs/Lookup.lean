import Mathlib.Data.List.Nodup
import NodeScript.Script

namespace NodeScript

theorem find?_key {α β : Type} [DecidableEq β] {key : α → β} {l : List α}
    (distinct : (l.map key).Nodup) {a : α} (member : a ∈ l) :
    l.find? (fun x => decide (key x = key a)) = some a := by
  induction l with
  | nil => cases member
  | cons b rest ih =>
      obtain ⟨head, tail⟩ := List.nodup_cons.mp distinct
      rcases List.mem_cons.mp member with rfl | later
      · simp
      · have other : key b ≠ key a := by
          intro same
          exact head (same ▸ List.mem_map_of_mem later)
        rw [List.find?_cons_of_neg (by simpa using other)]
        exact ih tail later

section

variable {nodes more : List Node} {id : Text} {n : Node}

theorem lastNode?_mem (found : lastNode? nodes id = some n) : n ∈ nodes ∧ n.id = id := by
  have member := List.mem_of_find?_eq_some found
  have named := List.find?_some found
  exact ⟨List.mem_reverse.mp member, by simpa using named⟩

theorem lastNode?_eq_none : lastNode? nodes id = none ↔ id ∉ nodes.map Node.id := by
  simp [lastNode?]

theorem lastNode?_isSome : (lastNode? nodes id).isSome = true ↔ id ∈ nodes.map Node.id := by
  simp [lastNode?]

theorem lastNode?_of_mem (distinct : (nodes.map Node.id).Nodup) (member : n ∈ nodes) :
    lastNode? nodes n.id = some n := by
  have reversed : (nodes.reverse.map Node.id).Nodup := by
    rw [List.map_reverse]
    exact List.nodup_reverse.mpr distinct
  exact find?_key reversed (List.mem_reverse.mpr member)

theorem lastNode?_iff (distinct : (nodes.map Node.id).Nodup) :
    lastNode? nodes id = some n ↔ n ∈ nodes ∧ n.id = id := by
  constructor
  · exact lastNode?_mem
  · rintro ⟨member, rfl⟩
    exact lastNode?_of_mem distinct member

theorem lastNode?_append :
    lastNode? (nodes ++ more) id = (lastNode? more id).or (lastNode? nodes id) := by
  simp [lastNode?]

theorem lastNode?_append_old (old : id ∉ more.map Node.id) :
    lastNode? (nodes ++ more) id = lastNode? nodes id := by
  rw [lastNode?_append, lastNode?_eq_none.mpr old, Option.none_or]

end

namespace Script

variable {s : Script} {id : Text} {n : Node} {k : Connection}

theorem node?_mem (found : s.node? id = some n) : n ∈ s.nodes ∧ n.id = id := by
  have named := List.find?_some found
  exact ⟨List.mem_of_find?_eq_some found, by simpa using named⟩

theorem connection?_mem (found : s.connection? id = some k) : k ∈ s.connections ∧ k.id = id := by
  have named := List.find?_some found
  exact ⟨List.mem_of_find?_eq_some found, by simpa using named⟩

theorem node?_of_mem (distinct : (s.nodes.map Node.id).Nodup) (member : n ∈ s.nodes) :
    s.node? n.id = some n :=
  find?_key distinct member

end Script

end NodeScript
