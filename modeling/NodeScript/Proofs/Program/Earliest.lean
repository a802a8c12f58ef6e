import NodeScript.Proofs.Program.Counting
import NodeScript.Proofs.Program.Coverage

/-!
The order that is taken. Of all orders of the members in which sources come before targets, the
compiler takes the one that is earliest in the script: at the first place where another order
differs it has a later node. To count the connections, parallel ones apart, finds the same order.
-/
namespace NodeScript

section

variable {α : Type} [DecidableEq α] {edges : List (α × α)} {rest : List α} {key : α → Nat}

omit [DecidableEq α] in
theorem key_le_of_find? {p : α → Bool} {a b : α} (sorted : rest.Pairwise fun a b => key a < key b)
    (found : rest.find? p = some a) (member : b ∈ rest) (good : p b = true) (other : b ≠ a) :
    key a < key b := by
  obtain ⟨_, before, after, rfl, none⟩ := List.find?_eq_some_iff_append.mp found
  have later : b ∈ after := by
    rcases List.mem_append.mp member with early | here
    · simpa [good] using none b early
    · exact (List.mem_cons.mp here).resolve_left other
  exact List.rel_of_pairwise_cons (List.pairwise_append.mp sorted).2.1 later

/-- Of the orders in which sources come before targets `schedule` gives the one with the least keys. -/
theorem schedule_earliest (sorted : rest.Pairwise fun a b => key a < key b)
    (all : (schedule edges rest).2 = []) {other : List α} (same : other.Perm rest)
    (before : ∀ a b, (a, b) ∈ edges → a ∈ rest → b ∈ rest → other.idxOf a < other.idxOf b)
    (different : other ≠ (schedule edges rest).1) :
    (schedule edges rest).1.map key < other.map key := by
  fun_induction schedule edges rest generalizing other with
  | case1 rest none =>
      subst all
      exact absurd (List.Perm.eq_nil same) different
  | case2 rest a found order left split ih =>
      rw [split] at ih
      have distinct : rest.Nodup := sorted.imp fun less equal => by simp [equal] at less
      have member := List.mem_of_find?_eq_some found
      cases other with
      | nil => exact absurd (same.symm.eq_nil ▸ member) List.not_mem_nil
      | cons b tail =>
          have inside : b ∈ rest := same.subset List.mem_cons_self
          have free : ready edges rest b = true := by
            rw [ready_iff]
            intro x edge source
            have early := before x b edge source inside
            rw [List.idxOf_cons_self] at early
            omega
          -- The head of the other order is free too, and of the free nodes the schedule takes the least.
          by_cases first : b = a
          · subst first
            have others : tail.Perm (rest.erase b) :=
              (same.trans (List.perm_cons_erase member)).cons_inv
            have valid : ∀ x y, (x, y) ∈ edges → x ∈ rest.erase b → y ∈ rest.erase b →
                tail.idxOf x < tail.idxOf y := by
              intro x y edge source target
              obtain ⟨apart, source⟩ := (List.Nodup.mem_erase_iff distinct).mp source
              obtain ⟨apart', target⟩ := (List.Nodup.mem_erase_iff distinct).mp target
              have placed := before x y edge source target
              rw [List.idxOf_cons_ne _ (Ne.symm apart), List.idxOf_cons_ne _ (Ne.symm apart')] at placed
              omega
            have differs : tail ≠ order := fun equal => different (equal ▸ rfl)
            exact List.cons_lt_cons_self.mpr
              (ih (sorted.sublist List.erase_sublist) all others valid differs)
          · exact List.Lex.rel (key_le_of_find? sorted found inside free first)

theorem pairwise_idxOf {l : List α} (distinct : l.Nodup) :
    l.Pairwise fun a b => l.idxOf a < l.idxOf b := by
  rw [List.pairwise_iff_getElem]
  intro i j first second less
  rwa [List.Nodup.idxOf_getElem distinct i first, List.Nodup.idxOf_getElem distinct j second]

end

namespace Script

def place (s : Script) (id : Text) : Nat := (s.nodes.map Node.id).idxOf id

end Script

/-- What compiles has its statements in an order in which the source of every active connection between
members comes before its target, and the places of the nodes in the script are lexicographically less
than in any other such order. It is also the order that counting connections gives. -/
theorem compile_earliest (c : Catalog) (s : Script) (distinct : (s.nodes.map Node.id).Nodup) :
    ∀ r ∈ (compile c s).roots, ∀ statements, r.outcome = .ok statements →
      s.Topological c r.event (statements.map Statement.node) ∧
        (∀ other, s.Topological c r.event other → other ≠ statements.map Statement.node →
          (statements.map Statement.node).map s.place < other.map s.place) ∧
        countedOrder (edges (Wiring.ofScript c s).active) ((Wiring.ofScript c s).members c r.event) =
          statements.map Statement.node := by
  intro r member statements ok
  have verdict := Script.root_verdict distinct member
  rw [ok] at verdict
  cases verdict with
  | statements typed acyclic topological legal nodes =>
      have named := Script.root_named member
      have sorted : ((Wiring.ofScript c s).members c r.event).Pairwise
          fun a b => s.place a < s.place b :=
        (pairwise_idxOf distinct).sublist (Wiring.members_sublist distinct)
      have all : (schedule (edges (Wiring.ofScript c s).active)
          ((Wiring.ofScript c s).members c r.event)).2 = [] :=
        left_eq_nil.mpr fun cyclic => acyclic ((Script.loops_iff distinct named).mpr cyclic)
      refine ⟨nodes ▸ topological, fun other valid different => ?_,
        (countedOrder_eq (Wiring.members_nodup distinct)).trans nodes.symm⟩
      have same : other.Perm ((Wiring.ofScript c s).members c r.event) := by
        rw [List.perm_ext_iff_of_nodup valid.distinct (Wiring.members_nodup distinct)]
        exact fun id => (valid.members id).trans (Wiring.mem_members distinct named).symm
      rw [nodes] at different ⊢
      refine schedule_earliest sorted all same ?_ different
      intro a b edge source target
      exact valid.before a b ((Wiring.mem_edges_active distinct).mp edge)
        ((Wiring.mem_members distinct named).mp source) ((Wiring.mem_members distinct named).mp target)

def eager : Script :=
  { id := "eager"
    name := "Eager"
    nodes := [
      { id := "sum", type := "step" }, { id := "start", type := "event" },
      { id := "count", type := "value" }, { id := "last", type := "step" }]
    connections := [
      { id := "c0", fromNode := "start", fromPort := "exec", toNode := "last", toPort := "exec" },
      { id := "c1", fromNode := "start", fromPort := "exec", toNode := "sum", toPort := "exec" },
      { id := "c2", fromNode := "count", fromPort := "value", toNode := "sum", toPort := "value" },
      { id := "c3", fromNode := "count", fromPort := "value", toNode := "sum", toPort := "value" }] }

theorem compile_earliest_eager :
    (eager.nodes.map Node.id).Nodup ∧
      ∃ r ∈ (compile plainCatalog eager).roots, ∃ statements, r.outcome = .ok statements ∧
        eager.Topological plainCatalog r.event (["start", "count", "sum", "last"] : List Text) ∧
        ∀ other, eager.Topological plainCatalog r.event other →
          other ≠ (["start", "count", "sum", "last"] : List Text) →
          [1, 2, 0, 3] < other.map eager.place := by
  have distinct : (eager.nodes.map Node.id).Nodup := by decide
  have compiled : (compile plainCatalog eager).roots.map
      (fun r => r.outcome.toOption.map (List.map Statement.node)) =
      [some (["start", "count", "sum", "last"] : List Text)] := by decide +kernel
  have listed := List.mem_singleton_self (some (["start", "count", "sum", "last"] : List Text))
  rw [← compiled] at listed
  obtain ⟨r, member, told⟩ := List.mem_map.mp listed
  cases outcome : r.outcome with
  | error e =>
      rw [outcome] at told
      cases told
  | ok statements =>
      rw [outcome] at told
      have nodes : statements.map Statement.node = (["start", "count", "sum", "last"] : List Text) :=
        Option.some.inj told
      obtain ⟨topological, least, -⟩ :=
        compile_earliest plainCatalog eager distinct r member statements outcome
      have places : (["start", "count", "sum", "last"] : List Text).map eager.place = [1, 2, 0, 3] := by
        decide
      rw [nodes] at topological least
      rw [places] at least
      exact ⟨distinct, r, member, statements, outcome, topological, least⟩

end NodeScript
