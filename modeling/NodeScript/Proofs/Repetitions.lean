import Mathlib.Data.List.Nodup

namespace NodeScript

variable {α β : Type} [BEq α]

theorem eraseDups_induction {motive : List α → Prop} (nil : motive [])
    (cons : ∀ a rest, motive (rest.filter fun b => !b == a) → motive (a :: rest)) (l : List α) : motive l := by
  induction size : l.length using Nat.strongRecOn generalizing l with
  | ind n ih =>
    cases l with
    | nil => exact nil
    | cons a rest =>
      have shorter := List.length_filter_le (fun b => !b == a) rest
      rw [List.length_cons] at size
      apply cons
      exact ih _ (by omega) _ rfl

variable [LawfulBEq α] [BEq β] [LawfulBEq β]

theorem nodup_eraseDups (l : List α) : l.eraseDups.Nodup := by
  induction l using eraseDups_induction with
  | nil => exact List.nodup_nil
  | cons a rest ih =>
    rw [List.eraseDups_cons, List.nodup_cons]
    exact ⟨by simp, ih⟩

theorem eraseDups_eq_self {l : List α} (distinct : l.Nodup) : l.eraseDups = l := by
  induction l with
  | nil => rfl
  | cons a rest ih =>
    obtain ⟨new, tail⟩ := List.nodup_cons.mp distinct
    have kept : rest.filter (fun b => !b == a) = rest := by
      apply List.filter_eq_self.mpr
      intro b member
      have other : b ≠ a := fun same => new (same ▸ member)
      simpa using other
    rw [List.eraseDups_cons, kept, ih tail]

theorem eraseDups_map {f : α → β} (injective : Function.Injective f) (l : List α) :
    (l.map f).eraseDups = l.eraseDups.map f := by
  induction l using eraseDups_induction with
  | nil => rfl
  | cons a rest ih =>
    have others : (rest.map f).filter (fun b => !b == f a) = (rest.filter fun b => !b == a).map f := by
      rw [List.filter_map]
      congr 2
      funext b
      exact congrArg _ (Bool.eq_iff_iff.mpr (by simp [injective.eq_iff]))
    rw [List.map_cons, List.eraseDups_cons, List.eraseDups_cons, others, ih, List.map_cons]

theorem eraseDups_filter (p : α → Bool) (l : List α) : (l.filter p).eraseDups = l.eraseDups.filter p := by
  induction l using eraseDups_induction with
  | nil => rfl
  | cons a rest ih =>
    rw [List.filter_filter] at ih
    rw [List.eraseDups_cons]
    by_cases kept : p a = true
    · rw [List.filter_cons_of_pos kept, List.filter_cons_of_pos kept, List.eraseDups_cons, List.filter_filter, ← ih]
      simp only [Bool.and_comm]
    · rw [List.filter_cons_of_neg kept, List.filter_cons_of_neg kept, ← ih]
      congr 1
      apply List.filter_congr
      intro b _
      by_cases same : b = a <;> simp [same, kept]

end NodeScript
