import NodeScript.Proofs.Editor.Renewal

namespace NodeScript

namespace Desk

def share (d : Desk) (id : Text) : Nat := max 1 ((d.script.nodes.map Node.id).count id)

structure Sparing (id : Text) (d : Desk) : Prop where
  held : (prior d.editor).nodeIds.count id ≤ d.share id
  recorded : d.script.selectedNodes.count id ≤ d.share id

/-- No node is selected twice, now, in what an open surface brings back, or in the script. -/
structure Unrepeated (d : Desk) : Prop where
  held : (prior d.editor).nodeIds.Nodup
  recorded : d.script.selectedNodes.Nodup

end Desk

namespace Selection

variable {s : Script} {selection : Selection}

theorem ofNodes_nodeIds (ids : List Text) : (ofNodes ids).nodeIds = ids := by
  unfold ofNodes
  split
  · exact Eq.symm ‹_›
  · rfl

theorem present_nodeIds (s : Script) (selection : Selection) :
    (selection.present s).nodeIds.Sublist selection.nodeIds := by
  cases selection with
  | nodes ids =>
      rw [Selection.present, ofNodes_nodeIds]
      exact List.filter_sublist
  | connection id =>
      simp only [Selection.present]
      split <;> exact List.Sublist.refl _
  | nothing | drag => exact List.Sublist.refl _

theorem recorded_nodeIds (s : Script) : (recorded s).nodeIds = s.selectedNodes := by
  unfold recorded
  grind [nodeIds]

end Selection

namespace Desk

variable {c : Catalog} {d e : Desk} {selection : Selection} {id : Text}

theorem share_pos (d : Desk) (id : Text) : 1 ≤ d.share id := Nat.le_max_left _ _

theorem count_le_share (d : Desk) (id : Text) : (d.script.nodes.map Node.id).count id ≤ d.share id :=
  Nat.le_max_right _ _

theorem share_of_ids (same : e.script.nodes.map Node.id = d.script.nodes.map Node.id) (id : Text) :
    e.share id = d.share id := by
  rw [share, share, same]

theorem choose_sparing (few : selection.nodeIds.count id ≤ d.share id) : (d.choose selection).Sparing id :=
  ⟨few, few⟩

theorem nothing_sparing (d : Desk) (id : Text) : (d.choose .nothing).Sparing id :=
  choose_sparing (Nat.zero_le _)

theorem Sparing.of_ids (spare : d.Sparing id) (editor : prior e.editor = prior d.editor)
    (ids : e.script.nodes.map Node.id = d.script.nodes.map Node.id)
    (selected : e.script.selectedNodes = d.script.selectedNodes) : e.Sparing id := by
  have same := share_of_ids ids id
  refine ⟨?_, ?_⟩
  · rw [editor, same]
    exact spare.held
  · rw [selected, same]
    exact spare.recorded

theorem present_count_le (s : Script) (few : selection.nodeIds.count id ≤ d.share id) :
    (selection.present s).nodeIds.count id ≤ d.share id :=
  Nat.le_trans ((Selection.present_nodeIds s selection).count_le id) few

theorem refresh_sparing (spare : d.Sparing id) : d.refresh.Sparing id := by
  unfold refresh
  split <;> rename_i held
  · have few := spare.held
    rw [held] at few
    exact choose_sparing (present_count_le d.script few)
  · exact ⟨spare.held, Nat.zero_le _⟩

theorem start_sparing {s : Script} (recents : Recents) (ids : IdSupply)
    (few : s.selectedNodes.count id ≤ max 1 ((s.nodes.map Node.id).count id)) :
    (start s recents ids).Sparing id := by
  refine refresh_sparing ⟨?_, few⟩
  simp only [prior, Selection.recorded_nodeIds]
  exact few

theorem cancelCommand_sparing (spare : d.Sparing id) : d.cancelCommand.Sparing id := by
  unfold cancelCommand
  split <;> rename_i held
  · exact spare
  · have few := spare.held
    rw [held] at few
    exact choose_sparing (present_count_le d.script few)

theorem Sparing.chosen (spare : d.Sparing id) : d.editor.selection.nodeIds.count id ≤ d.share id := by
  have held := spare.held
  cases editor : d.editor with
  | resting selection search =>
      rw [editor] at held
      exact held
  | commanding surface => exact Nat.zero_le _

theorem withNode_count (other : Text) (additive : Bool) (few : selection.nodeIds.count id ≤ d.share id) :
    (withNode other additive selection).nodeIds.count id ≤ d.share id := by
  have alone : [other].count id ≤ d.share id := Nat.le_trans List.count_le_length (share_pos d id)
  cases selection with
  | nodes ids =>
      cases additive with
      | false => exact alone
      | true =>
          by_cases old : other ∈ ids
          · simpa only [withNode, old, if_true] using few
          · simp only [withNode, old, if_true, if_false, Selection.nodeIds, List.count_append] at few ⊢
            by_cases same : other = id
            · rw [same] at old alone
              rw [List.count_eq_zero_of_not_mem old, Nat.zero_add, same]
              exact alone
            · rw [List.count_cons_of_ne same, List.count_nil]
              exact few
  | nothing | connection | drag => exact alone

theorem clickNode_sparing {given : Option Text} {additive : Bool} (spare : d.Sparing id)
    (ok : d.clickNode given additive = .ok e) : e.Sparing id := by
  obtain ⟨n, _, rfl⟩ := clickNode_ok ok
  exact choose_sparing (withNode_count n.id additive (cancelCommand_sparing spare).chosen)

theorem selectAll_sparing (d : Desk) (id : Text) : d.selectAll.Sparing id := by
  refine choose_sparing ?_
  rw [Selection.ofNodes_nodeIds]
  exact Nat.le_trans ((List.filter_sublist.map _).count_le id) (count_le_share d.cancelCommand id)

theorem deleteSelection_sparing (spare : d.Sparing id) : (d.deleteSelection c).2.Sparing id := by
  rcases deleteSelection_cases c d with same | ⟨s, chosen⟩
  · exact same ▸ refresh_sparing spare
  · exact chosen ▸ nothing_sparing _ id

theorem duplicateSelection_sparing (offset : Float) (spare : d.Sparing id) :
    (d.duplicateSelection c offset).2.Sparing id := by
  rcases duplicateSelection_cases c offset d with same | ⟨_, _, ids, _, same⟩ | ⟨copies, s, ids, nodes, chosen⟩
  · rw [same]
    exact refresh_sparing spare
  · rw [same]
    exact (refresh_sparing spare).of_ids rfl rfl rfl
  · rw [chosen]
    refine choose_sparing (Nat.le_trans ?_ (count_le_share _ id))
    simp only [Selection.nodeIds, nodes, List.map_append, List.count_append]
    exact Nat.le_add_left _ _

theorem commitCommand_sparing {type : Option Text} {n : Option Node} (spare : d.Sparing id)
    (ok : d.commitCommand c type = .ok (n, e)) : e.Sparing id := by
  rcases commitCommand_cases ok with ⟨_, rfl⟩ | ⟨_, _, _, _, _, _, _, _, rfl⟩
  · exact spare
  · exact nothing_sparing _ id

theorem releaseOnPort_sparing (node port : Option Text) (spare : d.Sparing id) :
    (d.releaseOnPort c node port).2.Sparing id := by
  rcases releaseOnPort_cases c node port d with same | ⟨_, refused⟩ | ⟨_, k, s, ids, made, released⟩
  · exact same ▸ spare
  · exact refused ▸ nothing_sparing d id
  · obtain ⟨_, _, rfl⟩ := Script.connect_extends made
    exact released ▸ (nothing_sparing d id).of_ids rfl rfl rfl

theorem openCommandSurface_sparing (x y : Json) (query : Text) (spare : d.Sparing id) :
    (d.openCommandSurface c x y query).2.Sparing id := by
  unfold openCommandSurface
  split
  · exact spare.of_ids rfl rfl rfl
  · refine spare.of_ids ?_ rfl rfl
    cases d.editor <;> rfl

theorem after_sparing (step : EditorStep) (spare : d.Sparing id) : (d.after c step).Sparing id := by
  cases step with
  | reopen => exact start_sparing _ _ spare.recorded
  | clickNode given additive => exact orSame_of spare fun _ ok => clickNode_sparing spare ok
  | clickCanvas => exact nothing_sparing _ id
  | clickConnection given =>
      refine orSame_of spare fun _ ok => ?_
      obtain ⟨k, _, rfl⟩ := clickConnection_ok ok
      exact choose_sparing (Nat.zero_le _)
  | selectAll => exact selectAll_sparing d id
  | beginConnection node port =>
      refine orSame_of spare fun _ ok => ?_
      obtain ⟨n, t, output, _, _, _, rfl⟩ := beginConnection_ok ok
      exact choose_sparing (Nat.zero_le _)
  | releaseOnPort node port => exact releaseOnPort_sparing node port spare
  | releaseElsewhere =>
      simp only [after, releaseElsewhere]
      split
      · exact nothing_sparing d id
      · exact spare
  | openCommandSurface x y query => exact openCommandSurface_sparing x y query spare
  | searchOn session recents =>
      refine spare.of_ids ?_ rfl rfl
      simp only [after, setSession]
      cases d.editor <;> rfl
  | commitCommand type => exact orSame_of spare fun _ ok => commitCommand_sparing spare ok
  | cancelCommand => exact cancelCommand_sparing spare
  | deleteSelection => exact deleteSelection_sparing spare
  | deleteNode given =>
      simp only [after, deleteNode]
      cases clicked : d.clickNode given false with
      | error => exact spare
      | ok e => exact deleteSelection_sparing (clickNode_sparing spare clicked)
  | duplicateSelection offset => exact duplicateSelection_sparing offset spare
  | moveSelection dx dy =>
      exact (refresh_sparing spare).of_ids rfl (ids_of_shape (moveSelection_shape dx dy d)) rfl
  | renameScript name =>
      refine orSame_of spare fun s ok => ?_
      obtain ⟨_, rfl⟩ := Script.setName_fields ok
      exact spare.of_ids rfl rfl rfl
  | renameNode given label =>
      refine orSame_of spare fun r ok => ?_
      obtain ⟨nodes, renamed, same⟩ := Script.renameNode_shape ok
      refine spare.of_ids rfl ?_ ?_ <;> rw [renamed]
      exact ids_of_shape same

theorem unrepeated_iff (distinct : (d.script.nodes.map Node.id).Nodup) :
    d.Unrepeated ↔ ∀ id, d.Sparing id := by
  have one (id : Text) : d.share id = 1 :=
    Nat.max_eq_left (List.nodup_iff_count_le_one.mp distinct id)
  constructor
  · intro once id
    refine ⟨?_, ?_⟩ <;> rw [one]
    · exact List.nodup_iff_count_le_one.mp once.held id
    · exact List.nodup_iff_count_le_one.mp once.recorded id
  · intro spare
    refine ⟨?_, ?_⟩ <;> refine List.nodup_iff_count_le_one.mpr fun id => ?_ <;> rw [← one id]
    · exact (spare id).held
    · exact (spare id).recorded

theorem start_unrepeated {s : Script} (recents : Recents) (ids : IdSupply)
    (distinct : s.selectedNodes.Nodup) : (start s recents ids).Unrepeated := by
  have kept : ((Selection.recorded s).present s).nodeIds.Nodup := by
    apply List.Nodup.sublist (Selection.present_nodeIds s _)
    rw [Selection.recorded_nodeIds]
    exact distinct
  exact ⟨kept, kept⟩

theorem Unrepeated.chosen (once : d.Unrepeated) : d.editor.selection.nodeIds.Nodup := by
  have held := once.held
  cases editor : d.editor with
  | resting selection search =>
      rw [editor] at held
      exact held
  | commanding surface => exact List.nodup_nil

end Desk

end NodeScript
