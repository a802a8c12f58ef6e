/-!
What edges reach. `reach edges enter start` follows the edges out of every node that is seen, one
node after the other, and sees the heads that may be entered, so that in the end no edge leads from
what is seen to something new.
-/
namespace NodeScript

section

variable {α : Type}

theorem countP_apart {p q r : α → Bool} {l : List α} (apart : ∀ a ∈ l, p a = true → r a = true ∧ q a = false)
    (within : ∀ a ∈ l, q a = true → r a = true) : l.countP p + l.countP q ≤ l.countP r := by
  induction l with
  | nil => simp
  | cons a rest ih =>
    have later := ih (fun b there => apart b (.tail _ there)) fun b there => within b (.tail _ there)
    simp only [List.countP_cons]
    cases left : p a with
    | true =>
      obtain ⟨all, out⟩ := apart a (.head _) left
      simp only [all, out, if_true, Bool.false_eq_true, if_false]
      omega
    | false =>
      cases right : q a with
      | true =>
        simp only [within a (.head _) right, if_true, Bool.false_eq_true, if_false]
        omega
      | false =>
        simp only [Bool.false_eq_true, if_false]
        omega

variable [DecidableEq α]

theorem length_eraseDups_le (l : List α) : l.eraseDups.length ≤ l.length := by
  match l with
  | [] => simp
  | a :: rest =>
    have others := List.length_filter_le (fun b => !b == a) rest
    have later := length_eraseDups_le (rest.filter fun b => !b == a)
    rw [List.eraseDups_cons, List.length_cons, List.length_cons]
    omega
termination_by l.length
decreasing_by
  rw [List.length_cons]
  omega

def unseen (seen : List α) (e : α × α) : Bool := decide (e.2 ∉ seen)

def fresh (edges : List (α × α)) (enter : α → Bool) (seen : List α) (a : α) : List α :=
  ((edges.filter fun e => decide (e.1 = a) && (unseen seen e && enter e.2)).map (·.2)).eraseDups

theorem mem_fresh {edges : List (α × α)} {enter : α → Bool} {seen : List α} {a b : α} :
    b ∈ fresh edges enter seen a ↔ (a, b) ∈ edges ∧ b ∉ seen ∧ enter b = true := by
  simp only [fresh, List.mem_eraseDups, List.mem_map, List.mem_filter, Bool.and_eq_true,
    decide_eq_true_eq, unseen]
  constructor
  · rintro ⟨⟨x, y⟩, ⟨member, rfl, new, may⟩, rfl⟩
    exact ⟨member, new, may⟩
  · rintro ⟨member, new, may⟩
    exact ⟨(a, b), ⟨member, rfl, new, may⟩, rfl⟩

/-- Every node that is newly seen takes an edge from those to unseen nodes. -/
theorem length_fresh_le (edges : List (α × α)) (enter : α → Bool) (seen : List α) (a : α) :
    (fresh edges enter seen a).length + edges.countP (unseen (fresh edges enter seen a ++ seen)) ≤
      edges.countP (unseen seen) := by
  have short : (fresh edges enter seen a).length ≤
      edges.countP fun e => decide (e.1 = a) && (unseen seen e && enter e.2) := by
    refine Nat.le_trans (length_eraseDups_le _) (Nat.le_of_eq ?_)
    rw [List.length_map, List.countP_eq_length_filter]
  refine Nat.le_trans (Nat.add_le_add_right short _) (countP_apart ?_ ?_)
  · intro e member taken
    simp only [Bool.and_eq_true, decide_eq_true_eq] at taken
    obtain ⟨rfl, new, may⟩ := taken
    have now : e.2 ∈ fresh edges enter seen e.1 :=
      mem_fresh.2 ⟨member, by simpa [unseen] using new, may⟩
    exact ⟨new, by simp [unseen, now]⟩
  · intro e _ out
    simp only [unseen, decide_eq_true_eq] at out ⊢
    exact fun old => out (List.mem_append_right _ old)

/-- The nodes ahead are seen, and their edges are still to be followed. -/
def spread (edges : List (α × α)) (enter : α → Bool) : List α → List α → List α
  | [], seen => seen
  | a :: ahead, seen =>
    let new := fresh edges enter seen a
    spread edges enter (new ++ ahead) (new ++ seen)
termination_by ahead seen => edges.countP (unseen seen) + ahead.length
decreasing_by
  have taken := length_fresh_le edges enter seen a
  rw [List.length_append, List.length_cons]
  omega

def reach (edges : List (α × α)) (enter : α → Bool) (start : List α) : List α :=
  spread edges enter start start

end

end NodeScript
