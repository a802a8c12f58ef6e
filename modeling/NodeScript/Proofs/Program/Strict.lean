import NodeScript.Proofs.Program.Members
import NodeScript.Proofs.Program.Order
import NodeScript.Proofs.Script.Edit

namespace NodeScript

deriving instance DecidableEq for Root

namespace Wiring

def requireNode (w : Wiring) (id : Text) : Except GraphError Node :=
  match w.node? id with
  | some n => .ok n
  | none => .error (.nodeNotFound id)

end Wiring

section

variable {ε α β : Type}

theorem findSome?_flatMap {γ : Type} {f : β → Option γ} {g : α → List β} {l : List α} :
    (l.flatMap g).findSome? f = l.findSome? fun a => (g a).findSome? f := by
  induction l with
  | nil => rfl
  | cons a rest ih =>
      rw [List.flatMap_cons, List.findSome?_append, ih, List.findSome?_cons]
      cases (g a).findSome? f <;> rfl

end

namespace Wiring

section

variable {c : Catalog} {w : Wiring} {members order : List Text} {id : Text} {n : Node} {t : Template}

theorem requireNode_ok (found : w.node? id = some n) : w.requireNode id = .ok n := by
  simp only [requireNode, found]

theorem templateAt?_eq_some :
    w.templateAt? c id = some t ↔ ∃ n, w.node? id = some n ∧ c.find? n.type = some t :=
  Option.bind_eq_some_iff

theorem mem_arriving {k : Connection} :
    k ∈ w.incoming id ++ w.reentering id ↔ k ∈ w.active ++ w.loopBack ∧ k.toNode = id := by
  simp only [incoming, reentering, List.mem_append, List.mem_filter, decide_eq_true_eq, or_and_right]

theorem node?_id (found : w.node? id = some n) : n.id = id := (lastNode?_mem found).2

theorem unknownMembers_eq_nil :
    w.unknownMembers c members = [] ↔ ∀ id ∈ members, (w.templateAt? c id).isSome = true := by
  simp [unknownMembers, List.filter_eq_nil_iff, Option.isSome_iff_ne_none]

end

section

variable {c : Catalog} {s : Script} {event id : Text}

theorem node?_isSome : ((ofScript c s).node? id).isSome = true ↔ id ∈ s.nodes.map Node.id :=
  lastNode?_isSome

end

end Wiring

theorem event_named {c : Catalog} {s : Script} {event : Text} (listed : event ∈ s.events c) :
    event ∈ s.nodes.map Node.id :=
  List.map_subset _ (List.filter_subset_self _) listed

end NodeScript
