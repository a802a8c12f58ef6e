import Mathlib.Data.Fintype.Card
import Mathlib.Data.Fintype.EquivFin
import Mathlib.Data.Fintype.Sets
import Mathlib.Data.List.Nodup
import Mathlib.Logic.Relation
import NodeScript.Program.Order

namespace NodeScript

section

variable {α : Type} [DecidableEq α] {edges : List (α × α)} {rest : List α}

theorem idxOf?_of_getElem? {l : List α} {i : Nat} {a : α} (distinct : l.Nodup)
    (placed : l[i]? = some a) : l.idxOf? a = some i := by
  obtain ⟨bound, same⟩ := List.getElem?_eq_some_iff.mp placed
  refine List.idxOf?_eq_some_iff.mpr ⟨bound, same, ?_⟩
  intro j before other
  have equal := (List.Nodup.getElem_inj_iff distinct).mp (other.trans same.symm)
  omega

theorem idxOf_of_getElem? {l : List α} {i : Nat} {a : α} (distinct : l.Nodup)
    (placed : l[i]? = some a) : l.idxOf a = i := by
  obtain ⟨bound, rfl⟩ := List.getElem?_eq_some_iff.mp placed
  exact List.Nodup.idxOf_getElem distinct i bound

def Within (edges : List (α × α)) (rest : List α) (a b : α) : Prop :=
  (a, b) ∈ edges ∧ a ∈ rest ∧ b ∈ rest

def Cyclic (edges : List (α × α)) (rest : List α) : Prop :=
  ∃ a, Relation.TransGen (Within edges rest) a a

theorem ready_iff {a : α} : ready edges rest a = true ↔ ∀ b, (b, a) ∈ edges → b ∉ rest := by
  simp only [ready, Bool.not_eq_true', List.any_eq_false, Bool.and_eq_true, decide_eq_true_eq,
    List.contains_iff_mem, not_and, Prod.forall]
  constructor
  · intro none b edge
    exact none b a edge rfl
  · intro none b d edge same
    subst same
    exact none b edge

theorem schedule_perm (edges : List (α × α)) (rest : List α) :
    ((schedule edges rest).1 ++ (schedule edges rest).2).Perm rest := by
  fun_induction schedule edges rest with
  | case1 rest none => simp
  | case2 rest a found order left split ih =>
      have member := List.mem_of_find?_eq_some found
      rw [split] at ih
      exact (ih.cons a).trans (List.perm_cons_erase member).symm

theorem schedule_before {a b : α} (edge : (a, b) ∈ edges) (source : a ∈ rest)
    (ordered : b ∈ (schedule edges rest).1) :
    (schedule edges rest).1.idxOf a < (schedule edges rest).1.idxOf b := by
  fun_induction schedule edges rest with
  | case1 rest none => simp at ordered
  | case2 rest x found order left split ih =>
      rw [split] at ih
      have free := ready_iff.mp (List.find?_some found)
      -- The target is not taken as long as the source is left over.
      have other : x ≠ b := by
        intro same
        exact free a (same ▸ edge) source
      have later : b ∈ order := (List.mem_cons.mp ordered).resolve_left (Ne.symm other)
      rw [List.idxOf_cons_ne order other]
      by_cases same : x = a
      · rw [List.idxOf_cons_eq order same]
        omega
      · rw [List.idxOf_cons_ne order same]
        apply Nat.succ_lt_succ
        exact ih ((List.mem_erase_of_ne (Ne.symm same)).mpr source) later

theorem schedule_left {b : α} (stays : b ∈ (schedule edges rest).2) :
    ∃ a ∈ (schedule edges rest).2, (a, b) ∈ edges := by
  fun_induction schedule edges rest with
  | case1 rest none =>
      have blocked := List.find?_eq_none.mp none b stays
      rw [ready_iff] at blocked
      push Not at blocked
      rcases blocked with ⟨a, edge, member⟩
      exact ⟨a, member, edge⟩
  | case2 rest x found order left split ih =>
      rw [split] at ih
      exact ih stays

omit [DecidableEq α] in
theorem within_mono {more : List α} (sub : rest ⊆ more) {a b : α} (step : Within edges rest a b) :
    Within edges more a b :=
  ⟨step.1, sub step.2.1, sub step.2.2⟩

omit [DecidableEq α] in
theorem Cyclic.mono {more : List α} (sub : rest ⊆ more) (cyclic : Cyclic edges rest) :
    Cyclic edges more := by
  rcases cyclic with ⟨a, path⟩
  exact ⟨a, Relation.TransGen.mono (fun _ _ step => within_mono sub step) _ _ path⟩

/-- Finitely many nodes each of which is led to by one of them have a cycle. -/
theorem cyclic_of_led (some : rest ≠ []) (led : ∀ b ∈ rest, ∃ a ∈ rest, (a, b) ∈ edges) :
    Cyclic edges rest := by
  by_contra acyclic
  have : IsTrans {a // a ∈ rest} (InvImage (Relation.TransGen (Within edges rest)) Subtype.val) :=
    ⟨fun _ _ _ first second => Relation.TransGen.trans first second⟩
  have : Std.Irrefl (InvImage (Relation.TransGen (Within edges rest)) (Subtype.val (p := (· ∈ rest)))) :=
    ⟨fun x path => acyclic ⟨x.1, path⟩⟩
  -- Without a cycle the paths among finitely many nodes are well founded, and no node can be the first.
  have founded := Finite.wellFounded_of_trans_of_irrefl
    (InvImage (Relation.TransGen (Within edges rest)) (Subtype.val (p := (· ∈ rest))))
  have none (x : {a // a ∈ rest}) : False := by
    induction x using founded.induction with
    | _ x ih =>
        rcases led x.1 x.2 with ⟨a, source, edge⟩
        exact ih ⟨a, source⟩ (.single ⟨edge, source, x.2⟩)
  rcases List.exists_mem_of_ne_nil rest some with ⟨a, member⟩
  exact none ⟨a, member⟩

theorem cyclic_of_left (stays : (schedule edges rest).2 ≠ []) : Cyclic edges rest := by
  have cyclic : Cyclic edges (schedule edges rest).2 :=
    cyclic_of_led stays fun _ member => schedule_left member
  apply cyclic.mono
  intro a member
  exact (schedule_perm edges rest).subset (List.mem_append_right _ member)

theorem idxOf_lt_of_path (none : (schedule edges rest).2 = []) {a b : α}
    (path : Relation.TransGen (Within edges rest) a b) :
    (schedule edges rest).1.idxOf a < (schedule edges rest).1.idxOf b := by
  have step {a b : α} (one : Within edges rest a b) :
      (schedule edges rest).1.idxOf a < (schedule edges rest).1.idxOf b := by
    have all := schedule_perm edges rest
    rw [none, List.append_nil] at all
    exact schedule_before one.1 one.2.1 (all.mem_iff.mpr one.2.2)
  induction path with
  | single one => exact step one
  | @tail b d _ one ih =>
      calc (schedule edges rest).1.idxOf a
        _ < (schedule edges rest).1.idxOf b := ih
        _ < (schedule edges rest).1.idxOf d := step one

theorem left_eq_nil : (schedule edges rest).2 = [] ↔ ¬Cyclic edges rest := by
  constructor
  · intro none cyclic
    rcases cyclic with ⟨a, path⟩
    have before := idxOf_lt_of_path none path
    omega
  · intro acyclic
    by_contra stays
    exact acyclic (cyclic_of_left stays)

theorem schedule_all (acyclic : ¬Cyclic edges rest) : (schedule edges rest).1.Perm rest := by
  have all := schedule_perm edges rest
  rw [left_eq_nil.mpr acyclic, List.append_nil] at all
  exact all

end

end NodeScript
