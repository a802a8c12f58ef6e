import NodeScript.Proofs.Script.Edit

namespace NodeScript.Script

variable {c : Catalog} {ids : IdSupply} {s t : Script}

theorem orphan_id (doomed : List Text) (n : Node) : (orphan doomed n).id = n.id := by
  unfold orphan
  split <;> rfl

theorem orphan_type (doomed : List Text) (n : Node) : (orphan doomed n).type = n.type := by
  unfold orphan
  split <;> rfl

theorem orphan_parent {doomed : List Text} {n : Node} {parent : Text}
    (named : (orphan doomed n).parentId = some parent) : n.parentId = some parent ∧ parent ∉ doomed := by
  unfold orphan at named
  split at named
  · cases named
  · rename_i kept
    refine ⟨named, ?_⟩
    simpa [named] using kept

theorem orphan_nil (n : Node) : orphan [] n = n := by
  cases h : n.parentId <;> simp [orphan, h]

theorem shape_prune (doomed removed : List Text) (s : Script) :
    shape (s.prune doomed removed).nodes = shape (s.nodes.filter fun n => !doomed.contains n.id) := by
  simp [shape, prune, orphan_id, orphan_type]

theorem mem_prune_ids {doomed removed : List Text} {id : Text} :
    id ∈ (s.prune doomed removed).nodes.map Node.id ↔ id ∈ s.nodes.map Node.id ∧ id ∉ doomed := by
  rw [ids_of_shape (shape_prune doomed removed s)]
  simp only [List.mem_map, List.mem_filter]
  constructor
  · rintro ⟨n, ⟨member, kept⟩, rfl⟩
    exact ⟨⟨n, member, rfl⟩, by simpa using kept⟩
  · rintro ⟨⟨n, member, rfl⟩, kept⟩
    exact ⟨n, ⟨member, by simpa using kept⟩, rfl⟩

theorem prune_kept {doomed removed : List Text}
    (loose : ∀ k ∈ withoutIds removed s.connections, k.fromNode ∉ doomed ∧ k.toNode ∉ doomed)
    (legal : illegal c (s.nodes.filter fun n => !doomed.contains n.id)
      (withoutIds removed s.connections) = []) :
    Kept c ids ids s (s.prune doomed removed) := by
  refine ⟨rfl, IdSupply.le_refl ids, fun sound => ?_⟩
  have nodes : (shape (s.prune doomed removed).nodes).Sublist (shape s.nodes) := by
    rw [shape_prune]
    exact List.filter_sublist.map _
  have links : (s.prune doomed removed).connections.Sublist s.connections := List.filter_sublist
  refine ⟨sound.formed.cut nodes links ?_ ?_ ?_, ?_, ?_⟩
  · intro k member
    rcases sound.formed.joined k (links.subset member) with ⟨_, _, _, _, from?, to?, _⟩
    rcases loose k member with ⟨kept, kept'⟩
    exact ⟨mem_prune_ids.mpr ⟨from?.named, kept⟩, mem_prune_ids.mpr ⟨to?.named, kept'⟩⟩
  · rw [illegal_of_shape (shape_prune doomed removed s)]
    exact legal
  · intro n member parent named
    rcases List.mem_map.mp member with ⟨m, present, rfl⟩
    rcases orphan_parent named with ⟨isParent, kept⟩
    exact mem_prune_ids.mpr
      ⟨sound.formed.parents m (List.mem_filter.mp present).1 parent isParent, kept⟩
  · exact fun id member => sound.nodes id (mem_prune_ids.mp member).1
  · exact fun id member => sound.connections id (List.map_subset _ links.subset member)

theorem deleteNodes_kept {given : List (Option Text)} {removal : Removal}
    (ok : s.deleteNodes c given = .ok (removal, t)) : Kept c ids ids s t := by
  rcases ok_of_bind ok with ⟨doomed, _, ok⟩
  cases ok
  apply prune_kept
  · intro k member
    rw [withoutIds_append] at member
    rcases mem_withoutIds.mp (mem_withoutIds.mp member).1 with ⟨present, untouched⟩
    by_contra touching
    refine untouched (List.mem_map_of_mem (List.mem_filter.mpr ⟨present, ?_⟩))
    rw [not_and_or, not_not, not_not] at touching
    simpa using touching
  · rw [withoutIds_append]
    exact illegal_withoutIds_stranded

theorem deleteNode_kept {id : Option Text} {removed : List Text}
    (ok : s.deleteNode c id = .ok (removed, t)) : Kept c ids ids s t := by
  rcases ok_of_bind ok with ⟨⟨removal, u⟩, deleted, ok⟩
  cases ok
  exact deleteNodes_kept deleted

theorem deleteConnection_kept {id : Option Text} {removed : List Text}
    (ok : s.deleteConnection c id = .ok (removed, t)) : Kept c ids ids s t := by
  rcases ok_of_bind ok with ⟨k, _, ok⟩
  cases ok
  apply prune_kept
  · simp
  · have apart : k.id :: stranded c s.nodes (withoutIds [k.id] s.connections) =
        [k.id] ++ stranded c s.nodes (withoutIds [k.id] s.connections) := rfl
    rw [apart, withoutIds_append]
    simpa using illegal_withoutIds_stranded

end NodeScript.Script
