import Mathlib.Data.List.Induction
import NodeScript.Proofs.Repetitions
import NodeScript.Search.Recents

namespace NodeScript

/-- What is cut off before an item goes to the front is not missed: either the item leaves a place that is filled
from before the cut, or there was no place for what is behind it. -/
theorem take_filter_take {α : Type} [DecidableEq α] (a : α) (n : Nat) {l : List α} (distinct : l.Nodup) :
    ((l.take (n + 1)).filter (· ≠ a)).take n = (l.filter (· ≠ a)).take n := by
  induction l generalizing n with
  | nil => rfl
  | cons b rest ih =>
    obtain ⟨new, tail⟩ := List.nodup_cons.mp distinct
    rw [List.take_succ_cons]
    by_cases same : b = a
    · have other : ∀ d ∈ rest, decide (d ≠ a) = true := by
        intro d member
        apply decide_eq_true
        rintro rfl
        exact new (same ▸ member)
      have dropped : decide (b ≠ a) ≠ true := by simp [same]
      rw [List.filter_cons, List.filter_cons, if_neg dropped, if_neg dropped, List.filter_eq_self.mpr other,
        List.filter_eq_self.mpr fun d member => other d (List.mem_of_mem_take member), List.take_take, Nat.min_self]
    · have kept : decide (b ≠ a) = true := decide_eq_true same
      rw [List.filter_cons, List.filter_cons, if_pos kept, if_pos kept]
      cases n with
      | zero => rfl
      | succ n => rw [List.take_succ_cons, List.take_succ_cons, ih n tail]

inductive RecentsStep where
  | record (type : Text)
  | clear
  deriving DecidableEq, Repr

def RecentsStep.type? : RecentsStep → Option Text
  | .record type => some type
  | .clear => none

namespace Recents

def after (r : Recents) : RecentsStep → Recents
  | .record type => r.record type
  | .clear => r.clear

def run (r : Recents) (steps : List RecentsStep) : Recents := steps.foldl after r

/-- The types recorded since the list was last cleared, the latest first, and behind them those it began with
if it was never cleared. -/
def history (first : List Text) (steps : List RecentsStep) : List Text :=
  (steps.reverse.takeWhile (· ≠ .clear)).filterMap RecentsStep.type? ++ if .clear ∈ steps then [] else first

section

variable (first : List Text) (steps : List RecentsStep) (type : Text)

theorem history_record : history first (steps ++ [.record type]) = type :: history first steps := by
  simp [history, RecentsStep.type?]

theorem history_clear : history first (steps ++ [.clear]) = [] := by
  simp [history]

end

variable {r : Recents} {past : List Text} {n : Nat}

theorem run_append (r : Recents) (steps : List RecentsStep) (step : RecentsStep) :
    r.run (steps ++ [step]) = (r.run steps).after step := List.foldl_concat ..

theorem after_maxSize (r : Recents) (step : RecentsStep) : (r.after step).maxSize = r.maxSize := by
  cases step <;> rfl

theorem record_types (sized : r.maxSize = n) (kept : r.types = past.eraseDups.take n) (type : Text) :
    (r.record type).types = (type :: past).eraseDups.take n := by
  have others : (past.filter fun t => !t == type).eraseDups = past.eraseDups.filter (· ≠ type) := by
    rw [eraseDups_filter]
    congr 1
    funext t
    by_cases same : t = type <;> simp [same]
  calc
    (r.record type).types = (type :: (past.eraseDups.take n).filter (· ≠ type)).take n := by
      rw [record, sized, kept, upTo_natCast]
    _ = (type :: past.eraseDups.filter (· ≠ type)).take n := by
      cases n with
      | zero => rfl
      | succ n => rw [List.take_succ_cons, List.take_succ_cons, take_filter_take type n (nodup_eraseDups past)]
    _ = (type :: past).eraseDups.take n := by rw [List.eraseDups_cons, others]

theorem run_types (entries : List Json) (n : Nat) (steps : List RecentsStep) :
    ((ofList entries n).run steps).maxSize = n ∧
      ((ofList entries n).run steps).types = (history (entries.filterMap textOf?) steps).eraseDups.take n := by
  induction steps using List.reverseRecOn with
  | nil => exact ⟨rfl, upTo_natCast ..⟩
  | append_singleton steps step ih =>
    obtain ⟨sized, kept⟩ := ih
    rw [run_append]
    refine ⟨(after_maxSize _ step).trans sized, ?_⟩
    cases step with
    | record type =>
      rw [history_record]
      exact record_types sized kept type
    | clear =>
      rw [history_clear]
      simp [after, clear]

/-- A list of recent types is made from some entries, whatever they are, and what was recorded since. -/
def Made (r : Recents) : Prop := ∃ entries maxSize steps, r = (ofList entries maxSize).run steps

theorem after_distinct (distinct : r.types.Nodup) (step : RecentsStep) : (r.after step).types.Nodup := by
  cases step with
  | record type =>
    apply List.Nodup.sublist (upTo_sublist ..)
    exact List.nodup_cons.mpr ⟨by simp, distinct.filter _⟩
  | clear => exact List.nodup_nil

theorem Made.distinct (made : r.Made) : r.types.Nodup := by
  obtain ⟨entries, maxSize, steps, rfl⟩ := made
  induction steps using List.reverseRecOn with
  | nil => exact (nodup_eraseDups _).sublist (upTo_sublist ..)
  | append_singleton steps step ih =>
    rw [run_append]
    exact after_distinct ih step

end Recents

end NodeScript
