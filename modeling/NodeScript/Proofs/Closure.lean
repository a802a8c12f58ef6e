import Mathlib.Logic.Relation
import NodeScript.Closure

namespace NodeScript

section

variable {α : Type} [DecidableEq α] {edges : List (α × α)} {enter : α → Bool}

/-- An edge into a node that may be entered. -/
def Follows (edges : List (α × α)) (enter : α → Bool) (a b : α) : Prop :=
  (a, b) ∈ edges ∧ enter b = true

/-- Where a path leads to that may be entered at every node but the first. -/
def Leads (edges : List (α × α)) (enter : α → Bool) (a b : α) : Prop :=
  Relation.ReflTransGen (Follows edges enter) a b

/-- Only nodes ahead have edges to something that is not seen. -/
def Settled (edges : List (α × α)) (enter : α → Bool) (ahead seen : List α) : Prop :=
  ∀ a ∈ seen, a ∉ ahead → ∀ b, Follows edges enter a b → b ∈ seen

theorem settled_fresh {a : α} {ahead seen : List α} (settled : Settled edges enter (a :: ahead) seen) :
    Settled edges enter (fresh edges enter seen a ++ ahead) (fresh edges enter seen a ++ seen) := by
  intro x member outside b step
  simp only [List.mem_append, not_or] at member outside
  have old : x ∈ seen := member.resolve_left outside.1
  by_cases known : b ∈ seen
  · exact List.mem_append_right _ known
  · by_cases same : x = a
    · subst same
      exact List.mem_append_left _ (mem_fresh.mpr ⟨step.1, known, step.2⟩)
    · have kept := settled x old (by simp [same, outside.2]) b step
      exact absurd kept known

theorem spread_closed {ahead seen : List α} (settled : Settled edges enter ahead seen) :
    seen ⊆ spread edges enter ahead seen ∧
      ∀ a ∈ spread edges enter ahead seen, ∀ b, Follows edges enter a b →
        b ∈ spread edges enter ahead seen := by
  fun_induction spread edges enter ahead seen with
  | case1 seen => exact ⟨List.Subset.refl _, fun a member => settled a member List.not_mem_nil⟩
  | case2 a ahead seen new ih =>
      obtain ⟨kept, closed⟩ := ih (settled_fresh settled)
      exact ⟨List.Subset.trans (List.subset_append_right _ _) kept, closed⟩

theorem spread_sound (good : α → Prop) (step : ∀ a b, good a → Follows edges enter a b → good b)
    {ahead seen : List α} (start : ∀ a ∈ ahead, good a) (before : ∀ a ∈ seen, good a) :
    ∀ a ∈ spread edges enter ahead seen, good a := by
  fun_induction spread edges enter ahead seen with
  | case1 seen => exact before
  | case2 a ahead seen new ih =>
      have found : ∀ b ∈ new, good b := by
        intro b member
        obtain ⟨edge, _, may⟩ := mem_fresh.mp member
        exact step a b (start a List.mem_cons_self) ⟨edge, may⟩
      apply ih
      · intro b member
        rcases List.mem_append.mp member with member | member
        · exact found b member
        · exact start b (List.mem_cons_of_mem _ member)
      · intro b member
        rcases List.mem_append.mp member with member | member
        · exact found b member
        · exact before b member

theorem mem_reach {start : List α} {b : α} :
    b ∈ reach edges enter start ↔ ∃ a ∈ start, Leads edges enter a b := by
  constructor
  · apply spread_sound fun b => ∃ a ∈ start, Leads edges enter a b
    · rintro b d ⟨a, member, path⟩ step
      exact ⟨a, member, path.tail step⟩
    · exact fun a member => ⟨a, member, .refl⟩
    · exact fun a member => ⟨a, member, .refl⟩
  · rintro ⟨a, member, path⟩
    -- What is found is closed under steps, so a path from the start never leaves it.
    have settled : Settled edges enter start start := fun a member outside => absurd member outside
    obtain ⟨kept, closed⟩ := spread_closed settled
    induction path with
    | refl => exact kept member
    | tail _ step ih => exact closed _ ih _ step

end

end NodeScript
