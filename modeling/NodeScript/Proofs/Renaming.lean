import Mathlib.Data.List.Forall2
import NodeScript.Proofs.Closure
import NodeScript.Proofs.Program.Order
import NodeScript.Proofs.Repetitions

namespace NodeScript

section

variable {α β : Type} {f : α → β}

theorem find?_map_congr {p : β → Bool} {q : α → Bool} {l : List α} (same : ∀ a ∈ l, p (f a) = q a) :
    (l.map f).find? p = (l.find? q).map f := by
  induction l with
  | nil => rfl
  | cons a rest ih =>
      have tail := ih fun b member => same b (List.mem_cons_of_mem a member)
      rw [List.map_cons, List.find?_cons, List.find?_cons, same a List.mem_cons_self, tail]
      cases q a <;> rfl

variable {R : α → β → Prop} {l : List α} {m : List β}

theorem related_cases {x : Option α} {y : Option β} (related : Option.Rel R x y) :
    x = none ∧ y = none ∨ ∃ a b, x = some a ∧ y = some b ∧ R a b := by
  cases related with
  | none => exact Or.inl ⟨rfl, rfl⟩
  | some pair => exact Or.inr ⟨_, _, rfl, rfl, pair⟩

theorem map_of_related {γ : Type} {p : α → γ} {q : β → γ} (related : List.Forall₂ R l m)
    (same : ∀ a b, R a b → q b = p a) : m.map q = l.map p := by
  induction related with
  | nil => rfl
  | cons head _ ih => rw [List.map_cons, List.map_cons, same _ _ head, ih]

theorem filter_of_related {p : α → Bool} {q : β → Bool} (related : List.Forall₂ R l m)
    (same : ∀ a b, R a b → q b = p a) :
    List.Forall₂ (fun a b => R a b ∧ p a = true) (l.filter p) (m.filter q) := by
  induction related with
  | nil => exact .nil
  | @cons a b _ _ head _ ih =>
      rw [List.filter_cons, List.filter_cons, same a b head]
      split
      · rename_i kept
        exact .cons ⟨head, kept⟩ ih
      · exact ih

theorem find?_of_related {p : α → Bool} {q : β → Bool} (related : List.Forall₂ R l m)
    (same : ∀ a b, R a b → q b = p a) : Option.Rel R (l.find? p) (m.find? q) := by
  induction related with
  | nil => exact .none
  | @cons a b _ _ head _ ih =>
      rw [List.find?_cons, List.find?_cons, same a b head]
      cases p a with
      | true => exact .some head
      | false => exact ih

theorem findSome?_of_related {γ δ : Type} {S : γ → δ → Prop} {p : α → Option γ} {q : β → Option δ}
    (related : List.Forall₂ R l m) (same : ∀ a b, R a b → Option.Rel S (p a) (q b)) :
    Option.Rel S (l.findSome? p) (m.findSome? q) := by
  induction related with
  | nil => exact .none
  | @cons a b _ _ head _ ih =>
      rw [List.findSome?_cons, List.findSome?_cons]
      have here := same a b head
      generalize p a = x, q b = y at here
      cases here with
      | none => exact ih
      | some first => exact .some first

theorem related_of_filterMap {γ : Type} {p : α → Option γ} {q : β → γ}
    (same : m.map q = l.filterMap p) :
    List.Forall₂ (fun a b => (a ∈ l ∧ b ∈ m) ∧ p a = some (q b)) (l.filter fun a => (p a).isSome) m := by
  induction l generalizing m with
  | nil =>
      rw [List.filterMap_nil, List.map_eq_nil_iff] at same
      rw [same]
      exact .nil
  | cons a rest ih =>
      cases found : p a with
      | none =>
          rw [List.filterMap_cons_none found] at same
          rw [List.filter_cons_of_neg (by simp [found])]
          exact (ih same).imp fun _ _ both => ⟨⟨List.mem_cons_of_mem a both.1.1, both.1.2⟩, both.2⟩
      | some first =>
          rw [List.filterMap_cons_some found, List.map_eq_cons_iff] at same
          rcases same with ⟨b, others, rfl, rfl, tail⟩
          rw [List.filter_cons_of_pos (by simp [found])]
          refine .cons ⟨⟨List.mem_cons_self, List.mem_cons_self⟩, found⟩ ((ih tail).imp ?_)
          exact fun _ _ both =>
            ⟨⟨List.mem_cons_of_mem a both.1.1, List.mem_cons_of_mem b both.1.2⟩, both.2⟩

end

section

variable {α β : Type} [DecidableEq α] [DecidableEq β] {f : α → β}

theorem idxOf?_map (injective : Function.Injective f) (l : List α) (a : α) :
    (l.map f).idxOf? (f a) = l.idxOf? a := by
  rw [List.idxOf?, List.idxOf?, List.findIdx?_map]
  congr 1
  funext b
  simp [injective.eq_iff]

section

variable {edges : List (α × α)} {enter : α → Bool} {may : β → Bool}

theorem fresh_map (injective : Function.Injective f) (same : ∀ a, may (f a) = enter a)
    (seen : List α) (a : α) :
    fresh (edges.map (Prod.map f f)) may (seen.map f) (f a) = (fresh edges enter seen a).map f := by
  have pick : (edges.map (Prod.map f f)).filter
        (fun e => decide (e.1 = f a) && (unseen (seen.map f) e && may e.2)) =
      (edges.filter fun e => decide (e.1 = a) && (unseen seen e && enter e.2)).map (Prod.map f f) := by
    rw [List.filter_map]
    congr 2
    funext e
    simp only [Function.comp_apply, Prod.map_fst, Prod.map_snd, injective.eq_iff, unseen,
      List.mem_map_of_injective injective, same]
  rw [fresh, fresh, pick, ← eraseDups_map injective, List.map_map, List.map_map]
  rfl

theorem spread_map (injective : Function.Injective f) (same : ∀ a, may (f a) = enter a)
    (ahead seen : List α) :
    spread (edges.map (Prod.map f f)) may (ahead.map f) (seen.map f) =
      (spread edges enter ahead seen).map f := by
  fun_induction spread edges enter ahead seen with
  | case1 seen => rw [List.map_nil, spread]
  | case2 a ahead seen new ih =>
      rw [List.map_cons, spread, fresh_map injective same, ← List.map_append, ← List.map_append]
      exact ih

theorem reach_map (injective : Function.Injective f) (same : ∀ a, may (f a) = enter a)
    (start : List α) :
    reach (edges.map (Prod.map f f)) may (start.map f) = (reach edges enter start).map f :=
  spread_map injective same start start

end

/-- The edges among the nodes are those among their images. -/
def Mirrors (f : α → β) (edges : List (α × α)) (others : List (β × β)) (rest : List α) : Prop :=
  ∀ a ∈ rest, ∀ b ∈ rest, (f a, f b) ∈ others ↔ (a, b) ∈ edges

variable {edges : List (α × α)} {others : List (β × β)} {rest : List α}

omit [DecidableEq β] in
theorem Mirrors.erase (mirrors : Mirrors f edges others rest) (a : α) :
    Mirrors f edges others (rest.erase a) := by
  intro b first d second
  exact mirrors b (List.mem_of_mem_erase first) d (List.mem_of_mem_erase second)

omit [DecidableEq α] [DecidableEq β] in
theorem Mirrors.subset {fewer : List α} (mirrors : Mirrors f edges others rest)
    (sub : fewer ⊆ rest) : Mirrors f edges others fewer := by
  intro a first b second
  exact mirrors a (sub first) b (sub second)

theorem isLast_iff {a : α} : isLast edges rest a = true ↔ ∀ b, (a, b) ∈ edges → b ∉ rest := by
  simp only [isLast, Bool.not_eq_true', List.any_eq_false, Bool.and_eq_true, decide_eq_true_eq,
    List.contains_iff_mem, not_and, Prod.forall]
  constructor
  · intro none b edge
    exact none a b edge rfl
  · intro none b d edge same
    subst same
    exact none d edge

theorem ready_map (mirrors : Mirrors f edges others rest) {a : α} (member : a ∈ rest) :
    ready others (rest.map f) (f a) = ready edges rest a := by
  rw [Bool.eq_iff_iff, ready_iff, ready_iff]
  constructor
  · intro free b edge source
    exact free (f b) ((mirrors b source a member).mpr edge) (List.mem_map_of_mem source)
  · intro free _ edge image
    rcases List.mem_map.mp image with ⟨b, source, rfl⟩
    exact free b ((mirrors b source a member).mp edge) source

theorem isLast_map (mirrors : Mirrors f edges others rest) {a : α} (member : a ∈ rest) :
    isLast others (rest.map f) (f a) = isLast edges rest a := by
  rw [Bool.eq_iff_iff, isLast_iff, isLast_iff]
  constructor
  · intro free b edge target
    exact free (f b) ((mirrors a member b target).mpr edge) (List.mem_map_of_mem target)
  · intro free _ edge image
    rcases List.mem_map.mp image with ⟨b, target, rfl⟩
    exact free b ((mirrors a member b target).mp edge) target

theorem schedule_none (none : rest.find? (ready edges rest) = none) :
    schedule edges rest = ([], rest) := by
  rw [schedule]
  split
  · rfl
  · rename_i a found
    cases none.symm.trans found

theorem schedule_some {a : α} (found : rest.find? (ready edges rest) = some a) :
    schedule edges rest =
      (a :: (schedule edges (rest.erase a)).1, (schedule edges (rest.erase a)).2) := by
  rw [schedule]
  split
  · rename_i none
    cases found.symm.trans none
  · rename_i b found'
    cases found.symm.trans found'
    rfl

theorem core_none (none : rest.find? (isLast edges rest) = none) : core edges rest = rest := by
  rw [core]
  split
  · rfl
  · rename_i a found
    cases none.symm.trans found

theorem core_some {a : α} (found : rest.find? (isLast edges rest) = some a) :
    core edges rest = core edges (rest.erase a) := by
  rw [core]
  split
  · rename_i none
    cases found.symm.trans none
  · rename_i b found'
    cases found.symm.trans found'
    rfl

/-- A schedule is mapped node by node; the first node that is free stays the first one. -/
theorem schedule_map (injective : Function.Injective f) (mirrors : Mirrors f edges others rest) :
    schedule others (rest.map f) = ((schedule edges rest).1.map f, (schedule edges rest).2.map f) := by
  have first := find?_map_congr fun a member => ready_map mirrors member
  fun_induction schedule edges rest with
  | case1 rest none =>
      rw [none] at first
      exact schedule_none first
  | case2 rest a found order left split ih =>
      rw [found] at first
      have fewer := mirrors.erase a
      have tail := ih fewer (find?_map_congr fun b member => ready_map fewer member)
      rw [schedule_some first, ← List.map_erase injective, tail, split]
      rfl

theorem core_map (injective : Function.Injective f) (mirrors : Mirrors f edges others rest) :
    core others (rest.map f) = (core edges rest).map f := by
  have first := find?_map_congr fun a member => isLast_map mirrors member
  fun_induction core edges rest with
  | case1 rest none =>
      rw [none] at first
      exact core_none first
  | case2 rest a found ih =>
      rw [found] at first
      have fewer := mirrors.erase a
      rw [core_some first, ← List.map_erase injective]
      exact ih fewer (find?_map_congr fun b member => isLast_map fewer member)

end

end NodeScript
