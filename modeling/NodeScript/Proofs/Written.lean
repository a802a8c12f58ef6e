import NodeScript.Program.Record
import NodeScript.Proofs.Program.Statements
import NodeScript.Proofs.Program.Verdict
import NodeScript.Script.Record

namespace NodeScript

/-- The value may stand in a record. -/
def Json.Writable (v : Json) : Prop := v.writeFault? Record.levelLimit = none

namespace Record

variable {α : Type} [Record α]

def Written (a : α) : Prop := ∀ v ∈ free a, v.Writable

theorem firstFault?_eq_none {values : List Json} : firstFault? values = none ↔ ∀ v ∈ values, v.Writable :=
  List.findSome?_eq_none_iff

theorem fault?_eq_none {a : α} : fault? a = none ↔ Written a := firstFault?_eq_none

theorem written_list {l : List α} : Written l ↔ ∀ a ∈ l, Written a := by
  constructor
  · intro written a member v free
    exact written v (List.mem_flatMap.mpr ⟨a, member, free⟩)
  · intro written v free
    obtain ⟨a, member, free⟩ := List.mem_flatMap.mp free
    exact written a member v free

theorem written_option {o : Option α} : Written o ↔ ∀ a, o = some a → Written a := by
  cases o with
  | none => exact ⟨fun _ _ => nofun, fun _ _ => nofun⟩
  | some a =>
      have one : free (some a) = free a := List.flatMap_singleton free a
      constructor
      · rintro written _ ⟨⟩ v member
        exact written v (one ▸ member)
      · intro written v member
        exact written a rfl v (one ▸ member)

end Record

open Record

section

variable {c : Catalog} {p : Project} {s : Script} {n : Node} {x : Variable} {t : Template} {v : Json}

theorem Project.written_script (written : Written p) (member : s ∈ p.scripts) : Written s :=
  written_list.mp (written : Written p.scripts) s member

theorem Script.written_nodes (written : Written s) : Written s.nodes := fun v member =>
  written v (List.mem_append_left _ member)

theorem Script.written_node (written : Written s) (member : n ∈ s.nodes) : Written n :=
  written_list.mp (written_nodes written) n member

theorem Script.written_variable (written : Written s) (member : x ∈ s.vars) : Written x :=
  written_list.mp (fun v free => written v (List.mem_append_right _ free) : Written s.vars) x member

theorem Catalog.written_template (templates : Written c.templates) (member : t ∈ c.templates) : Written t :=
  written_list.mp templates t member

theorem Members.mem_overlay {base top : Members} {m : Text × Json} (here : m ∈ base.overlay top) :
    m ∈ base ∨ m ∈ top := by
  have put : base.overlay top = Entries.putAll (fun name => name) (fun value => value) base top := rfl
  rw [put] at here
  rcases Entries.mem_putAll here with old | ⟨other, member, rfl⟩
  · exact .inl old
  · exact .inr member

theorem written_overlay (node : Written n) (template : Written t)
    (member : v ∈ (t.parameters.overlay n.parameterValues).values) : v.Writable := by
  obtain ⟨m, listed, rfl⟩ := List.mem_map.mp member
  rcases Members.mem_overlay listed with base | own
  · exact template m.2 (List.mem_map_of_mem base)
  · exact node m.2 (List.mem_map_of_mem own)

theorem Wiring.argument_free {w : Wiring} {order : List Text} {params : Members} {id : Text} {port : Port}
    (member : v ∈ (w.argument c order t params id port).free) : v = .null ∨ v ∈ params.values := by
  unfold argument at member
  split at member
  · rcases List.mem_singleton.mp member with rfl
    cases given : params.get? port.name with
    | none => exact .inl rfl
    | some value =>
        obtain ⟨before, after, split, _⟩ := List.lookup_eq_some_iff.mp given
        refine .inr ?_
        rw [split]
        simp [Members.values]
  · cases member

theorem compile_written (script : Written s) (templates : Written c.templates) : Written (compile c s) := by
  intro v member
  obtain ⟨r, root, member⟩ := List.mem_flatMap.mp member
  unfold Root.free at member
  split at member
  · rename_i statements outcome
    obtain ⟨st, listed, member⟩ := List.mem_flatMap.mp member
    rw [Script.root_ok root outcome] at listed
    obtain ⟨i, n, t, _, found, typed, rfl⟩ := Wiring.mem_statementsFrom.mp listed
    have node : Written n := Script.written_node script (lastNode?_mem found).1
    have template : Written t := Catalog.written_template templates (List.mem_of_find?_eq_some typed)
    rcases List.mem_append.mp member with argument | parameter
    · obtain ⟨a, supplied, member⟩ := List.mem_flatMap.mp argument
      obtain ⟨port, _, rfl⟩ := List.mem_map.mp supplied
      rcases Wiring.argument_free member with rfl | given
      · rfl
      · exact written_overlay node template given
    · exact written_overlay node template parameter
  · cases member

end

end NodeScript
