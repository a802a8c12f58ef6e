import NodeScript.Proofs.Editor.Refused
import NodeScript.Proofs.Editor.Run

/-!
The guard of events. An event that feeds other nodes is not deleted alone: whatever was done at the
editor before, a delete that takes away one event and nothing else finds nothing but the event itself
behind its outputs. The guard goes by how many ids are selected, so this needs that the id of the event
is selected once; steps of an editor see to that, but a selection that the script records may repeat it.
-/
namespace NodeScript

def Desk.lost (d e : Desk) : List Node :=
  d.script.nodes.filter fun n => decide (n.id ∉ e.script.nodes.map Node.id)

namespace Script

variable {c : Catalog} {s t : Script} {n : Node}

theorem deleteNodes_ids {ids : List Text} {removal : Removal}
    (ok : s.deleteNodes c (ids.map some) = .ok (removal, t)) :
    ids ⊆ s.nodes.map Node.id ∧
      ∀ id, id ∈ t.nodes.map Node.id ↔ id ∈ s.nodes.map Node.id ∧ id ∉ ids := by
  obtain ⟨doomed, found, ok⟩ := ok_of_bind ok
  cases ok
  obtain ⟨once, there⟩ := requireNodes_iff.mp found
  have named (id : Text) : id ∈ doomed ↔ id ∈ ids := by
    rw [← List.mem_map_of_injective (Option.some_injective Text), ← once, List.mem_eraseDups,
      List.mem_map_of_injective (Option.some_injective Text)]
  refine ⟨fun id listed => there ((named id).mpr listed), fun id => ?_⟩
  rw [mem_prune_ids, named]

theorem deleteConnection_ids {id : Option Text} {removed : List Text}
    (ok : s.deleteConnection c id = .ok (removed, t)) : t.nodes.map Node.id = s.nodes.map Node.id := by
  obtain ⟨k, _, ok⟩ := ok_of_bind ok
  cases ok
  have all : (s.nodes.filter fun n => !([] : List Text).contains n.id) = s.nodes := by simp
  rw [ids_of_shape (shape_prune [] _ s), all]

end Script

namespace Desk

section

variable {c : Catalog} {d e : Desk} {n : Node}

theorem lost_of_ids (same : e.script.nodes.map Node.id = d.script.nodes.map Node.id) : lost d e = [] := by
  apply List.filter_eq_nil_iff.mpr
  intro n member
  rw [decide_eq_true_eq, not_not, same]
  exact List.mem_map_of_mem member

theorem lost_of_same {f : Desk} (same : SameGraph d e) : lost e f = lost d f := by
  rw [lost, lost, same.nodes]

/-- An event feeds nothing just if all its connections lead back to it. -/
theorem feeds_eq_zero {s : Script} (found : s.node? n.id = some n) (event : c.isEvent n.type = true) :
    feeds c s n.id = 0 ↔ ∀ k ∈ s.connections, k.fromNode = n.id → k.toNode = n.id := by
  have apart : feeds c s n.id = 0 ↔ ∀ k ∈ s.connections, ¬k.toNode = n.id → ¬k.fromNode = n.id := by
    simp [feeds, found, event, Script.connectionsFrom, List.filter_eq_nil_iff]
  rw [apart]
  exact forall₂_congr fun k _ => not_imp_not

theorem eq_singleton_of_count {ids : List Text} {id : Text} (listed : id ∈ ids) (all : ∀ other ∈ ids, other = id)
    (once : ids.count id ≤ 1) : ids = [id] := by
  have whole : ids.count id = ids.length := List.count_eq_length.mpr fun other member => (all other member).symm
  have some := List.length_pos_of_mem listed
  obtain ⟨other, rfl⟩ := List.length_eq_one_iff.mp (by omega : ids.length = 1)
  rw [List.mem_singleton.mp listed]

theorem ids_of_lost {ids : List Text} (there : ids ⊆ d.script.nodes.map Node.id)
    (left : ∀ id, id ∈ e.script.nodes.map Node.id ↔ id ∈ d.script.nodes.map Node.id ∧ id ∉ ids)
    (removed : lost d e = [n]) :
    d.script.node? n.id = some n ∧ n.id ∈ ids ∧ ∀ id ∈ ids, id = n.id := by
  have mem_lost (m : Node) : m ∈ lost d e ↔ m ∈ d.script.nodes ∧ m.id ∈ ids := by
    rw [lost, List.mem_filter, decide_eq_true_eq, left, not_and, not_not]
    exact and_congr_right fun member => imp_iff_right (List.mem_map_of_mem member)
  have one (m : Node) (member : m ∈ d.script.nodes) (listed : m.id ∈ ids) : m = n := by
    have gone := (mem_lost m).mpr ⟨member, listed⟩
    rw [removed] at gone
    exact List.mem_singleton.mp gone
  obtain ⟨member, listed⟩ := (mem_lost n).mp (removed ▸ List.mem_singleton_self n)
  refine ⟨?_, listed, ?_⟩
  · obtain ⟨m, found⟩ := Option.isSome_iff_exists.mp (Script.node?_isSome.mpr (List.mem_map_of_mem member))
    obtain ⟨there', named⟩ := Script.node?_mem found
    rw [found, one m there' (named ▸ listed)]
  · intro id other
    obtain ⟨m, there', rfl⟩ := List.mem_map.mp (there other)
    rw [one m there' other]

theorem share_of_lost (removed : lost d e = [n]) : d.share n.id = 1 := by
  have gone : n.id ∉ e.script.nodes.map Node.id := by
    have member : n ∈ lost d e := removed ▸ List.mem_singleton_self n
    exact of_decide_eq_true (List.mem_filter.mp member).2
  have fewer : (d.script.nodes.filter fun m => m.id == n.id).Sublist (lost d e) := by
    apply List.monotone_filter_right
    intro m named
    rw [eq_of_beq named]
    exact decide_eq_true gone
  have count : (d.script.nodes.map Node.id).count n.id ≤ 1 := by
    rw [List.count_eq_countP, List.countP_map, List.countP_eq_length_filter, ← List.length_singleton (a := n),
      ← removed]
    exact fewer.length_le
  exact Nat.max_eq_left count

theorem deleteSelection_guarded (removed : lost d (d.deleteSelection c).2 = [n])
    (event : c.isEvent n.type = true) (once : d.editor.selection.nodeIds.count n.id ≤ 1) :
    ∀ k ∈ d.script.connections, k.fromNode = n.id → k.toNode = n.id := by
  have same := refresh_same d
  have none {f : Desk} (unchanged : f.script.nodes.map Node.id = d.script.nodes.map Node.id) :
      lost d f ≠ [n] := by
    rw [lost_of_ids unchanged]
    exact (List.cons_ne_nil n []).symm
  unfold deleteSelection at removed
  cases deleted : d.refresh.deletePresent c with
  | error =>
      simp only [deleted] at removed
      exact absurd removed (none (by rw [same.nodes]))
  | ok result =>
      simp only [deleted] at removed
      rcases deletePresent_cases deleted with ⟨_, _, t, _, cut, _, chosen⟩ |
        ⟨ids, _, t, chosen, free, cut, _, left⟩ | ⟨stays, _⟩
      · refine absurd removed (none ?_)
        have kept := Script.deleteConnection_ids cut
        rw [same.nodes] at kept
        exact chosen ▸ kept
      -- One node is gone and the ids name nothing else, so the guard has looked at it.
      · obtain ⟨there, kept⟩ := Script.deleteNodes_ids cut
        rw [left, ← lost_of_same same] at removed
        obtain ⟨found, listed, all⟩ := ids_of_lost there kept removed
        have few : ids.count n.id ≤ 1 := by
          have fewer := (Selection.present_nodeIds d.script d.editor.selection).count_le n.id
          rw [← refresh_selection, chosen] at fewer
          exact Nat.le_trans fewer once
        have alone := free n.id (eq_singleton_of_count listed all few)
        rw [feeds_eq_zero found event, same.connections] at alone
        exact alone
      · refine absurd removed (none ?_)
        rw [stays, same.nodes]

theorem deleteNode_guarded {id : Option Text} (removed : lost d (d.deleteNode c id).2 = [n])
    (event : c.isEvent n.type = true) :
    ∀ k ∈ d.script.connections, k.fromNode = n.id → k.toNode = n.id := by
  unfold deleteNode at removed
  cases clicked : d.clickNode id false with
  | error =>
      simp only [clicked, lost_of_ids] at removed
      cases removed
  | ok e =>
      simp only [clicked] at removed
      have same := clickNode_same clicked
      obtain ⟨m, _, rfl⟩ := clickNode_ok clicked
      have alone (selection : Selection) : withNode m.id false selection = .nodes [m.id] := by
        cases selection <;> rfl
      rw [← lost_of_same same] at removed
      rw [← same.connections]
      apply deleteSelection_guarded removed event
      simp only [choose, Editor.selection, alone, Selection.nodeIds]
      exact List.count_le_length

theorem deleteSelection_feeds {event : Text} {count : Nat}
    (refused : (d.deleteSelection c).1 = .ok (.feeds event count)) : SameGraph d (d.deleteSelection c).2 := by
  unfold deleteSelection at refused ⊢
  cases deleted : d.refresh.deletePresent c with
  | error => simp only [deleted] at refused; cases refused
  | ok result =>
      obtain ⟨deletion, e⟩ := result
      simp only [deleted, Except.ok.injEq] at refused ⊢
      rw [refused] at deleted
      rcases deletePresent_cases deleted with ⟨_, _, _, _, _, told, _⟩ | ⟨_, _, _, _, _, _, told, _⟩ | ⟨stays, _⟩
      · cases told
      · cases told
      · exact stays ▸ refresh_same d

theorem deleteNode_feeds {id : Option Text} {event : Text} {count : Nat}
    (refused : (d.deleteNode c id).1 = .ok (.feeds event count)) : SameGraph d (d.deleteNode c id).2 := by
  unfold deleteNode at refused ⊢
  cases clicked : d.clickNode id false with
  | error => simp only [clicked] at refused; cases refused
  | ok e =>
      simp only [clicked] at refused ⊢
      exact (clickNode_same clicked).trans (deleteSelection_feeds refused)

end

/-- After every run of a new editor, whatever selection its script recorded: a delete that takes away
one event and nothing else finds no connection from it to another node, if the recorded selection did
not repeat the event; and where the guard refuses, the nodes and connections stay as they are. -/
theorem run_guarded (c : Catalog) (s : Script) (recents : Recents) (ids : IdSupply) (steps : List EditorStep) :
    let d := (start s recents ids).run c steps
    (∀ n, lost d (d.deleteSelection c).2 = [n] → c.isEvent n.type = true →
        s.selectedNodes.count n.id ≤ 1 →
          ∀ k ∈ d.script.connections, k.fromNode = n.id → k.toNode = n.id) ∧
      (∀ id n, lost d (d.deleteNode c id).2 = [n] → c.isEvent n.type = true →
        ∀ k ∈ d.script.connections, k.fromNode = n.id → k.toNode = n.id) ∧
      (∀ event count, (d.deleteSelection c).1 = .ok (.feeds event count) →
        (d.deleteSelection c).2.script.nodes = d.script.nodes ∧
          (d.deleteSelection c).2.script.connections = d.script.connections) ∧
      ∀ id event count, (d.deleteNode c id).1 = .ok (.feeds event count) →
        (d.deleteNode c id).2.script.nodes = d.script.nodes ∧
          (d.deleteNode c id).2.script.connections = d.script.connections := by
  intro d
  refine ⟨?_, ?_, ?_, ?_⟩
  · intro n removed event once
    have spare : d.Sparing n.id :=
      run_sparing steps (start_sparing recents ids (Nat.le_trans once (Nat.le_max_left _ _)))
    apply deleteSelection_guarded removed event
    rw [← share_of_lost removed]
    exact spare.chosen
  · exact fun id n removed event => deleteNode_guarded removed event
  · intro event count refused
    exact ⟨(deleteSelection_feeds refused).nodes, (deleteSelection_feeds refused).connections⟩
  · intro id event count refused
    exact ⟨(deleteNode_feeds refused).nodes, (deleteNode_feeds refused).connections⟩

def guardedRun : List EditorStep :=
  [.clickConnection (some "c0"), .deleteSelection, .clickNode (some "event") false]

theorem guardedRun_lost :
    lost ((start palette {} {}).run paletteCatalog guardedRun)
      (((start palette {} {}).run paletteCatalog guardedRun).deleteSelection paletteCatalog).2 =
        [{ id := "event", type := "event" }] := by decide +kernel

theorem run_guarded_palette :
    lost ((start palette {} {}).run paletteCatalog guardedRun)
        (((start palette {} {}).run paletteCatalog guardedRun).deleteSelection paletteCatalog).2 =
          [{ id := "event", type := "event" }] ∧
      paletteCatalog.isEvent "event" = true ∧ palette.selectedNodes.count ("event" : Text) ≤ 1 ∧
      ∀ k ∈ ((start palette {} {}).run paletteCatalog guardedRun).script.connections,
        k.fromNode = "event" → k.toNode = "event" := by
  have event : paletteCatalog.isEvent "event" = true := by decide
  have once : palette.selectedNodes.count ("event" : Text) ≤ 1 := by decide
  exact ⟨guardedRun_lost, event, once,
    (run_guarded paletteCatalog palette {} {} guardedRun).1 _ guardedRun_lost event once⟩

/-- A recorded selection that names the event twice gets the event deleted alone while it feeds the log. -/
theorem deleteSelection_repeated :
    let d := start { palette with selectedNodes := ["event", "event"] } {} {}
    (d.script.nodes.map Node.id).Nodup ∧
      lost d (d.deleteSelection paletteCatalog).2 = [{ id := "event", type := "event" }] ∧
      paletteCatalog.isEvent "event" = true ∧
      ∃ k ∈ d.script.connections, k.fromNode = "event" ∧ k.toNode = "log" := by
  intro d
  refine ⟨?_, ?_, ?_, _, List.mem_cons_self, rfl, rfl⟩
  · decide
  · decide +kernel
  · decide

end Desk

end NodeScript
