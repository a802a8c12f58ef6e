import Mathlib.Logic.Function.Basic
import NodeScript.Proofs.Program.Order

namespace NodeScript

section

variable {α : Type} [DecidableEq α]

def arrivals (edges : List (α × α)) (rest : List α) (a : α) : Nat :=
  edges.countP fun e => decide (e.2 = a) && rest.contains e.1

/-- How many edges into each node are still due, and the nodes in line. -/
structure Tally (α : Type) where
  due : α → Nat
  line : List α

namespace Tally

def start (edges : List (α × α)) (nodes : List α) : Tally α where
  due := arrivals edges nodes
  line := nodes.filter fun a => arrivals edges nodes a = 0

def takeOff (nodes : List α) (t : Tally α) (b : α) : Tally α :=
  if b ∈ nodes then
    let due := t.due b - 1
    { due := Function.update t.due b due, line := if due = 0 then t.line ++ [b] else t.line }
  else t

def targets (edges : List (α × α)) (a : α) : List α :=
  (edges.filter fun e => decide (e.1 = a)).map Prod.snd

def turn (edges : List (α × α)) (nodes : List α) (t : Tally α) (a : α) : Tally α :=
  (targets edges a).foldl (takeOff nodes) { t with line := t.line.erase a }

/-- The order of some more turns, as long as there is anyone in line. -/
def order (edges : List (α × α)) (nodes : List α) : Nat → Tally α → List α
  | 0, _ => []
  | turns + 1, t =>
    match nodes.find? t.line.contains with
    | none => []
    | some a => a :: order edges nodes turns (t.turn edges nodes a)

end Tally

/-- The order by counts; no node has more than one turn. -/
def countedOrder (edges : List (α × α)) (nodes : List α) : List α :=
  (Tally.start edges nodes).order edges nodes nodes.length

end

section

variable {α : Type} [DecidableEq α] {edges : List (α × α)} {nodes rest : List α} {t : Tally α}
  {a b : α}

theorem ready_iff_arrivals : ready edges rest a = true ↔ arrivals edges rest a = 0 := by
  rw [arrivals, List.countP_eq_zero, ready, Bool.not_eq_true', List.any_eq_false]

theorem arrivals_erase (distinct : rest.Nodup) (member : a ∈ rest) :
    arrivals edges rest b = arrivals edges (rest.erase a) b + (Tally.targets edges a).count b := by
  induction edges with
  | nil => rfl
  | cons e edges ih =>
      simp only [arrivals, Tally.targets] at ih ⊢
      have others : (rest.erase a).contains e.1 = (!decide (e.1 = a) && rest.contains e.1) := by
        rw [Bool.eq_iff_iff]
        simp [List.Nodup.mem_erase_iff distinct]
      by_cases here : e.1 = a <;> by_cases there : e.2 = b <;>
        simp_all [List.countP_cons] <;> omega

namespace Tally

/-- What a tally tells of the nodes left over: what is due, and who is in line. -/
structure Stands (edges : List (α × α)) (nodes rest : List α) (t : Tally α) : Prop where
  due : ∀ b ∈ nodes, t.due b = arrivals edges rest b
  line : ∀ b, b ∈ t.line ↔ b ∈ rest ∧ arrivals edges rest b = 0
  once : t.line.Nodup
  served : ∀ b ∈ nodes, b ∉ rest → arrivals edges rest b = 0

theorem start_stands (distinct : nodes.Nodup) : (start edges nodes).Stands edges nodes nodes where
  due := fun _ _ => rfl
  line := by simp [start]
  once := distinct.filter _
  served := fun _ member gone => absurd member gone

theorem takeOff_outside (outside : a ∉ nodes) (t : Tally α) : takeOff nodes t a = t := if_neg outside

theorem takeOff_due (inside : a ∈ nodes) (t : Tally α) (b : α) :
    (takeOff nodes t a).due b = if b = a then t.due a - 1 else t.due b := by
  rw [takeOff, if_pos inside]
  exact Function.update_apply _ _ _ _

theorem mem_takeOff (inside : a ∈ nodes) (t : Tally α) (b : α) :
    b ∈ (takeOff nodes t a).line ↔ b ∈ t.line ∨ b = a ∧ t.due a - 1 = 0 := by
  rw [takeOff, if_pos inside]
  by_cases last : t.due a - 1 = 0 <;> simp [last]

theorem takeOff_once (inside : a ∈ nodes) (new : a ∉ t.line) (once : t.line.Nodup) :
    (takeOff nodes t a).line.Nodup := by
  rw [takeOff, if_pos inside]
  by_cases last : t.due a - 1 = 0
  · simpa only [last, if_true, List.concat_eq_append] using List.Nodup.concat new once
  · simpa [last] using once

/-- A node gets in line when its last edge is taken off, and no sooner. -/
theorem foldl_takeOff (nodes bs : List α) (t : Tally α) (enough : ∀ b ∈ nodes, bs.count b ≤ t.due b)
    (waiting : ∀ b ∈ t.line, t.due b = 0) (once : t.line.Nodup) :
    (∀ b ∈ nodes, (bs.foldl (takeOff nodes) t).due b = t.due b - bs.count b) ∧
    (∀ b, b ∈ (bs.foldl (takeOff nodes) t).line ↔
      b ∈ t.line ∨ b ∈ nodes ∧ b ∈ bs ∧ t.due b = bs.count b) ∧
    (bs.foldl (takeOff nodes) t).line.Nodup := by
  induction bs generalizing t with
  | nil => exact ⟨fun _ _ => rfl, by simp, once⟩
  | cons a bs ih =>
      rw [List.foldl_cons]
      by_cases inside : a ∈ nodes
      · have due := takeOff_due inside t
        have line := mem_takeOff inside t
        have some := enough a inside
        rw [List.count_cons_self] at some
        -- An edge into the node is still due, so the node is not in line yet.
        have new : a ∉ t.line := fun here => by
          have := waiting a here
          omega
        have enough' : ∀ b ∈ nodes, bs.count b ≤ (takeOff nodes t a).due b := by
          intro b member
          have := enough b member
          grind
        have waiting' : ∀ b ∈ (takeOff nodes t a).line, (takeOff nodes t a).due b = 0 := by
          intro b here
          have := waiting b
          grind
        obtain ⟨dues, lines, once'⟩ := ih _ enough' waiting' (takeOff_once inside new once)
        refine ⟨fun b member => ?_, fun b => ?_, once'⟩
        · rw [dues b member, due]
          grind
        · rw [lines, line, due]
          grind
      · rw [takeOff_outside inside]
        have other (b : α) (member : b ∈ nodes) : (a :: bs).count b = bs.count b := by
          grind
        obtain ⟨dues, lines, once'⟩ :=
          ih t (fun b member => other b member ▸ enough b member) waiting once
        refine ⟨fun b member => ?_, fun b => ?_, once'⟩
        · rw [dues b member, other b member]
        · rw [lines]
          grind

theorem Stands.turn (stands : t.Stands edges nodes rest) (distinct : rest.Nodup) (sub : rest ⊆ nodes)
    (member : a ∈ rest) (free : arrivals edges rest a = 0) :
    (t.turn edges nodes a).Stands edges nodes (rest.erase a) := by
  have split (b : α) : arrivals edges rest b =
      arrivals edges (rest.erase a) b + (targets edges a).count b := arrivals_erase distinct member
  have waits (b : α) : b ∈ t.line.erase a ↔ b ≠ a ∧ b ∈ rest ∧ arrivals edges rest b = 0 := by
    rw [List.Nodup.mem_erase_iff stands.once, stands.line]
  obtain ⟨dues, lines, once⟩ := foldl_takeOff nodes (targets edges a)
    { t with line := t.line.erase a }
    (fun b inside => by
      have := split b
      rw [stands.due b inside]
      omega)
    (fun b here => by
      obtain ⟨_, inside, none⟩ := (waits b).mp here
      rw [stands.due b (sub inside), none])
    (stands.once.sublist List.erase_sublist)
  refine ⟨fun b inside => ?_, fun b => ?_, once, fun b inside gone => ?_⟩
  · have := split b
    rw [Tally.turn, dues b inside, stands.due b inside]
    omega
  · rw [Tally.turn, lines, waits, List.Nodup.mem_erase_iff distinct]
    have := split b
    constructor
    · rintro (⟨other, inside, none⟩ | ⟨inside, led, last⟩)
      · exact ⟨⟨other, inside⟩, by omega⟩
      · have := List.count_pos_iff.mpr led
        rw [stands.due b inside] at last
        have other : b ≠ a := by
          rintro rfl
          omega
        have here : b ∈ rest := by
          by_contra gone
          have := stands.served b inside gone
          omega
        exact ⟨⟨other, here⟩, by omega⟩
    · rintro ⟨⟨other, inside⟩, none⟩
      by_cases led : b ∈ targets edges a
      · refine .inr ⟨sub inside, led, ?_⟩
        rw [stands.due b (sub inside)]
        omega
      · refine .inl ⟨other, inside, ?_⟩
        have := List.count_eq_zero.mpr led
        omega
  · have := split b
    by_cases same : b = a
    · subst same
      omega
    · have := stands.served b inside fun here => gone ((List.mem_erase_of_ne same).mpr here)
      omega

end Tally

omit [DecidableEq α] in
theorem find?_sublist {p q : α → Bool} (sub : rest.Sublist nodes) (distinct : nodes.Nodup)
    (same : ∀ b ∈ nodes, q b = true ↔ b ∈ rest ∧ p b = true) : nodes.find? q = rest.find? p := by
  induction sub with
  | slnil => rfl
  | @cons rest nodes a sub ih =>
      obtain ⟨new, distinct⟩ := List.nodup_cons.mp distinct
      have skipped : ¬q a = true := fun here => new (sub.subset ((same a List.mem_cons_self).mp here).1)
      rw [List.find?_cons_of_neg skipped]
      exact ih distinct fun b member => same b (List.mem_cons_of_mem a member)
  | @cons_cons rest nodes a sub ih =>
      obtain ⟨new, distinct⟩ := List.nodup_cons.mp distinct
      have first := same a List.mem_cons_self
      by_cases here : p a = true
      · rw [List.find?_cons_of_pos (first.mpr ⟨List.mem_cons_self, here⟩), List.find?_cons_of_pos here]
      · rw [List.find?_cons_of_neg (fun found => here (first.mp found).2), List.find?_cons_of_neg here]
        apply ih distinct
        intro b member
        have other : b ≠ a := fun same => new (same ▸ member)
        rw [same b (List.mem_cons_of_mem a member), List.mem_cons, or_iff_right other]

namespace Tally

theorem Stands.order_eq (stands : t.Stands edges nodes rest) (distinct : nodes.Nodup)
    (sub : rest.Sublist nodes) {turns : Nat} (enough : rest.length ≤ turns) :
    t.order edges nodes turns = (schedule edges rest).1 := by
  have next (rest : List α) (t : Tally α) (stands : t.Stands edges nodes rest)
      (sub : rest.Sublist nodes) : nodes.find? t.line.contains = rest.find? (ready edges rest) := by
    apply find?_sublist sub distinct
    intro b _
    rw [List.contains_iff_mem, stands.line, ready_iff_arrivals]
  -- Before every turn the tally tells of the nodes left over, and there are turns enough for them.
  fun_induction schedule edges rest generalizing t turns with
  | case1 rest none =>
      cases turns with
      | zero => rfl
      | succ turns => rw [order, next rest t stands sub, none]
  | case2 rest a found order left split ih =>
      rw [split] at ih
      have member := List.mem_of_find?_eq_some found
      have free := ready_iff_arrivals.mp (List.find?_some found)
      have fewer := length_erase_lt found
      cases turns with
      | zero => omega
      | succ turns =>
          rw [Tally.order, next rest t stands sub, found]
          exact congrArg (a :: ·) (ih (stands.turn (distinct.sublist sub) sub.subset member free)
            (List.erase_sublist.trans sub) (by omega))

end Tally

/-- Counting gives the same order as looking through the edges for every node. -/
theorem countedOrder_eq (distinct : nodes.Nodup) :
    countedOrder edges nodes = (schedule edges nodes).1 :=
  (Tally.start_stands distinct).order_eq distinct (List.Sublist.refl _) (Nat.le_refl _)

end

end NodeScript
