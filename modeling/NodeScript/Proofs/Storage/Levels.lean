import NodeScript.Proofs.Entries
import NodeScript.Proofs.Json.Document
import NodeScript.Storage.ProjectFile

namespace NodeScript

namespace Json

theorem depthItems_le_iff {items : List Json} {k : Nat} : depthItems items ≤ k ↔ ∀ a ∈ items, depth a ≤ k := by
  induction items with
  | nil => simp [depthItems]
  | cons a items ih => rw [depthItems, Nat.max_le, ih, List.forall_mem_cons]

theorem depthMembers_le_iff {members : Members} {k : Nat} :
    depthMembers members ≤ k ↔ ∀ m ∈ members, depth m.2 ≤ k := by
  induction members with
  | nil => simp [depthMembers]
  | cons m members ih => rw [depthMembers, Nat.max_le, ih, List.forall_mem_cons]

mutual
theorem depth_le_of_writeFault : ∀ (levels : Nat) (v : Json), writeFault? levels v = none → depth v ≤ levels
  | 0, v, well => by simp [writeFault?] at well
  | levels + 1, null, _ | levels + 1, bool _, _ | levels + 1, int _, _ | levels + 1, float _, _
  | levels + 1, str _, _ => Nat.zero_le _
  | levels + 1, arr items, well => by
    have := depthItems_le_of_writeFault levels items (by rwa [writeFault?] at well)
    rw [depth]
    omega
  | levels + 1, obj members, well => by
    have := depthMembers_le_of_writeFault levels members (by rwa [writeFault?] at well)
    rw [depth]
    omega
theorem depthItems_le_of_writeFault : ∀ (levels : Nat) (items : List Json), writeFaultItems? levels items = none →
    depthItems items ≤ levels
  | levels, [], _ => Nat.zero_le _
  | levels, a :: items, well => by
    rw [writeFaultItems?, Option.or_eq_none_iff] at well
    exact Nat.max_le.mpr ⟨depth_le_of_writeFault levels a well.1, depthItems_le_of_writeFault levels items well.2⟩
theorem depthMembers_le_of_writeFault : ∀ (levels : Nat) (members : List (Text × Json)),
    writeFaultMembers? levels members = none → depthMembers members ≤ levels
  | levels, [], _ => Nat.zero_le _
  | levels, (name, a) :: members, well => by
    rw [writeFaultMembers?] at well
    split at well
    · rw [Option.or_eq_none_iff] at well
      exact Nat.max_le.mpr
        ⟨depth_le_of_writeFault levels a well.1, depthMembers_le_of_writeFault levels members well.2⟩
    · contradiction
end

mutual
theorem depth_finitePart : ∀ v : Json, depth v.finitePart = depth v
  | null | bool _ | int _ | str _ => by simp [finitePart]
  | float x => by cases finite : x.isFinite <;> simp [finitePart, depth, finite]
  | arr items => by rw [finitePart, depth, depth, depth_finitePartItems items]
  | obj members => by rw [finitePart, depth, depth, depth_finitePartMembers members]
theorem depth_finitePartItems : ∀ items : List Json, depthItems (finitePartItems items) = depthItems items
  | [] => by rw [finitePartItems]
  | a :: items => by rw [finitePartItems, depthItems, depthItems, depth_finitePart a, depth_finitePartItems items]
theorem depth_finitePartMembers : ∀ members : List (Text × Json),
    depthMembers (finitePartMembers members) = depthMembers members
  | [] => by rw [finitePartMembers]
  | (name, a) :: members => by
    rw [finitePartMembers, depthMembers, depthMembers, depth_finitePart a, depth_finitePartMembers members]
end

theorem depth_written {members : Members} {k : Nat} (each : ∀ a ∈ members.values, depth a ≤ k) :
    depthMembers members.written ≤ k := by
  refine depthMembers_le_iff.mpr fun m here => ?_
  have found : m ∈ Entries.putAll Text.replaced finitePart [] members := here
  rcases Entries.mem_putAll found with none | ⟨other, there, rfl⟩
  · contradiction
  · rw [depth_finitePart]
    exact each other.2 (List.mem_map_of_mem there)

theorem depth_list {α : Type} {written : α → Json} {l : List α} {k : Nat}
    (each : ∀ a ∈ l, depth (written a) ≤ k) : depth (arr (l.map written)) ≤ k + 1 := by
  have items : depthItems (l.map written) ≤ k := by
    refine depthItems_le_iff.mpr fun item here => ?_
    obtain ⟨a, there, rfl⟩ := List.mem_map.mp here
    exact each a there
  rw [depth]
  omega

theorem depth_str (text : Text) : depth (str text) = 0 := rfl

theorem depth_int (n : Int) : depth (int n) = 0 := rfl

theorem depth_ofText? (text : Option Text) : depth (ofText? text) = 0 := by
  cases text <;> rfl

end Json

open Json

theorem Node.depth_toJson {n : Node} {k : Nat} (each : ∀ v ∈ Record.free n, depth v ≤ k) :
    depth n.toJson ≤ k + 2 := by
  have values := depth_written each
  simp only [toJson, Position.toJson, depth, depthMembers, depth_ofText?]
  omega

theorem Connection.depth_toJson (c : Connection) : depth c.toJson = 1 := rfl

theorem Variable.depth_toJson {v : Variable} {k : Nat} (each : ∀ value ∈ Record.free v, depth value ≤ k) :
    depth v.toJson ≤ k + 1 := by
  have value : depth v.defaultValue ≤ k := each _ List.mem_cons_self
  simp only [toJson, depth, depthMembers, depth_ofText?, depth_finitePart]
  omega

theorem Script.depth_toJson {s : Script} {k : Nat} (each : ∀ v ∈ Record.free s, depth v ≤ k) :
    depth s.toJson ≤ k + 4 := by
  have nodes : depth (arr (s.nodes.map Node.toJson)) ≤ k + 2 + 1 := depth_list fun n here =>
    Node.depth_toJson fun v free => each v (List.mem_append_left _ (List.mem_flatMap_of_mem here free))
  have connections : depth (arr (s.connections.map Connection.toJson)) ≤ 1 + 1 := depth_list fun c _ =>
    (Connection.depth_toJson c).le
  have vars : depth (arr (s.vars.map Variable.toJson)) ≤ k + 1 + 1 := depth_list fun v here =>
    Variable.depth_toJson fun value free => each value (List.mem_append_right _ (List.mem_flatMap_of_mem here free))
  have selected : depth (arr (s.selectedNodes.map str)) ≤ 0 + 1 := depth_list fun _ _ => Nat.le_refl _
  rw [toJson, depth]
  simp only [depthMembers, depth_str, depth_ofText?, ofTexts]
  omega

theorem Project.depth_toJson {p : Project} {k : Nat} (each : ∀ v ∈ Record.free p, depth v ≤ k) :
    depth p.toJson ≤ k + 6 := by
  have scripts : depth (arr (p.scripts.map Script.toJson)) ≤ k + 4 + 1 := depth_list fun s here =>
    Script.depth_toJson fun v free => each v (List.mem_flatMap_of_mem here free)
  rw [toJson, depth]
  simp only [depthMembers, depth_ofText?]
  omega

namespace ProjectFile

theorem depth_record (time : String) {p : Project} (written : Record.fault? p = none) :
    depth (record time p) ≤ nestingLimit := by
  have each : ∀ v ∈ Record.free p, depth v ≤ Record.levelLimit := fun v free =>
    depth_le_of_writeFault _ v (List.findSome?_eq_none_iff.mp written v free)
  have project := Project.depth_toJson each
  have limits : Record.levelLimit + 7 ≤ nestingLimit := by decide
  rw [record, depth]
  simp only [depthMembers, depth_str, depth_int]
  omega

end ProjectFile

end NodeScript
