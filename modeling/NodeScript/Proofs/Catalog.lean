import NodeScript.Catalog

namespace NodeScript

section

variable {seen : List Text} {templates : List Template} {t : Template}

theorem firstFault?_cons :
    firstFault? seen (t :: templates) = none ↔
      t.fault? seen = none ∧ firstFault? (t.type :: seen) templates = none := by
  rw [firstFault?]
  cases t.fault? seen <;> simp

theorem faultless_template (faultless : firstFault? seen templates = none) (member : t ∈ templates) :
    ∃ before, t.fault? before = none := by
  induction templates generalizing seen with
  | nil => cases member
  | cons u rest ih =>
      obtain ⟨first, later⟩ := firstFault?_cons.mp faultless
      rcases List.mem_cons.mp member with rfl | among
      · exact ⟨seen, first⟩
      · exact ih later among

theorem new_type (faultless : t.fault? seen = none) : t.type ∉ seen := by
  intro old
  simp [Template.fault?, old] at faultless

theorem faultless_types (faultless : firstFault? seen templates = none) :
    (templates.map (·.type)).Nodup ∧ ∀ t ∈ templates, t.type ∉ seen := by
  induction templates generalizing seen with
  | nil => simp
  | cons u rest ih =>
      obtain ⟨first, later⟩ := firstFault?_cons.mp faultless
      obtain ⟨once, fresh⟩ := ih later
      simp only [List.mem_cons, not_or] at fresh
      rw [List.map_cons, List.nodup_cons, List.forall_mem_cons]
      refine ⟨⟨fun again => ?_, once⟩, new_type first, fun t member => (fresh t member).2⟩
      obtain ⟨t, member, same⟩ := List.mem_map.mp again
      exact (fresh t member).1 same

end

namespace Catalog

variable {c : Catalog} {type name : Text} {t : Template} {port : Port}

theorem distinct (c : Catalog) : (c.templates.map (·.type)).Nodup := (faultless_types c.faultless).1

theorem event_inputs (found : c.find? type = some t) (event : t.isEvent = true) : t.inputs = [] := by
  obtain ⟨before, fault⟩ := faultless_template c.faultless (List.mem_of_find?_eq_some found)
  unfold Template.fault? at fault
  refine Decidable.byContradiction fun inputs => ?_
  split at fault
  · cases fault
  · split at fault
    · cases fault
    · simp [event, inputs] at fault

theorem not_event_of_input (found : c.find? type = some t) (into : t.input? name = some port) :
    t.isEvent = false := by
  apply Bool.eq_false_iff.mpr
  intro event
  simp [Template.input?, event_inputs found event] at into

end Catalog

end NodeScript
