import NodeScript.Proofs.Editor.Renewal

namespace NodeScript

def Editor.SelectsFrom (s : Script) (e : Editor) : Prop :=
  ∀ id ∈ e.selection.nodeIds, id ∈ s.nodes.map Node.id

theorem Editor.SelectsFrom.mono {s t : Script} {e : Editor} (within : s.Within t)
    (selects : e.SelectsFrom s) : e.SelectsFrom t := by
  intro id member
  obtain ⟨n, found⟩ := Option.isSome_iff_exists.mp (Script.node?_isSome.mpr (selects id member))
  obtain ⟨m, found', _⟩ := within.nodes id n found
  exact Script.node?_isSome.mp (by rw [found']; rfl)

theorem Selection.present_nodes (s : Script) (selection : Selection) :
    ∀ id ∈ (selection.present s).nodeIds, id ∈ s.nodes.map Node.id := by
  cases selection with
  | nothing | drag => simp [Selection.present, nodeIds]
  | nodes ids =>
      intro id member
      simp only [Selection.present, ofNodes] at member
      split at member
      · simp [nodeIds] at member
      · exact Script.node?_isSome.mp (List.mem_filter.mp member).2
  | connection id =>
      simp only [Selection.present]
      split <;> simp [nodeIds]

namespace Desk

variable {c : Catalog} {d e : Desk}

def Selects (d : Desk) : Prop := d.editor.SelectsFrom d.script

theorem Selects.of_none (none : d.editor.selection.nodeIds = []) : d.Selects := by
  intro id member
  rw [none] at member
  cases member

theorem choose_selects {selection : Selection} (there : ∀ id ∈ selection.nodeIds, id ∈ d.script.nodes.map Node.id) :
    (d.choose selection).Selects := there

theorem refresh_selects (d : Desk) : d.refresh.Selects := by
  unfold refresh
  split
  · exact choose_selects (Selection.present_nodes _ _)
  · rename_i held
    exact .of_none (by simp [held, Editor.selection, Selection.nodeIds])

theorem cancelCommand_selects (selects : d.Selects) : d.cancelCommand.Selects := by
  unfold cancelCommand
  split
  · exact selects
  · exact choose_selects (Selection.present_nodes _ _)

theorem withNode_nodeIds {id other : Text} {additive : Bool} {selection : Selection}
    (member : other ∈ (withNode id additive selection).nodeIds) :
    other = id ∨ other ∈ selection.nodeIds := by
  unfold withNode at member
  split at member
  · simp only [Selection.nodeIds] at member ⊢
    grind
  · exact .inl (List.mem_singleton.mp member)

theorem clickNode_selects {id : Option Text} {additive : Bool} (selects : d.Selects)
    (ok : d.clickNode id additive = .ok e) : e.Selects := by
  obtain ⟨n, found, rfl⟩ := clickNode_ok ok
  refine choose_selects fun other member => ?_
  rcases withNode_nodeIds member with rfl | old
  · rw [(cancelCommand_same d).nodes]
    exact List.mem_map_of_mem (Script.requireNode_ok found).1
  · exact cancelCommand_selects selects other old

theorem clickConnection_selects {id : Option Text} (ok : d.clickConnection id = .ok e) : e.Selects := by
  obtain ⟨k, _, rfl⟩ := clickConnection_ok ok
  exact .of_none rfl

theorem beginConnection_selects {node port : Option Text} (ok : d.beginConnection c node port = .ok e) :
    e.Selects := by
  obtain ⟨n, t, output, _, _, _, rfl⟩ := beginConnection_ok ok
  exact .of_none rfl

theorem releaseOnPort_selects (node port : Option Text) (selects : d.Selects) :
    (d.releaseOnPort c node port).2.Selects := by
  rcases releaseOnPort_cases c node port d with same | ⟨_, refused⟩ | ⟨_, _, _, _, _, released⟩
  · exact same ▸ selects
  · exact refused ▸ .of_none rfl
  · exact released ▸ .of_none rfl

theorem releaseElsewhere_selects (selects : d.Selects) : d.releaseElsewhere.Selects := by
  unfold releaseElsewhere
  split
  · exact .of_none rfl
  · exact selects

theorem withSession_selection (session : Session) (e : Editor) :
    (e.withSession session).selection = e.selection := by
  cases e <;> rfl

theorem openCommandSurface_selects (x y : Json) (query : Text) (selects : d.Selects) :
    (d.openCommandSurface c x y query).2.Selects := by
  unfold openCommandSurface
  dsimp only
  split
  · exact .of_none rfl
  · unfold Selects Editor.SelectsFrom
    rw [withSession_selection]
    exact selects

theorem commitCommand_selects {type : Option Text} {n : Option Node} (selects : d.Selects)
    (ok : d.commitCommand c type = .ok (n, e)) : e.Selects := by
  rcases commitCommand_cases ok with ⟨_, rfl⟩ | ⟨_, _, _, _, _, _, _, _, rfl⟩
  · exact selects
  · exact .of_none rfl

theorem deleteSelection_selects (d : Desk) : (d.deleteSelection c).2.Selects := by
  rcases deleteSelection_cases c d with same | ⟨s, chosen⟩
  · exact same ▸ refresh_selects d
  · exact chosen ▸ .of_none rfl

theorem deleteNode_selects (id : Option Text) (selects : d.Selects) :
    (d.deleteNode c id).2.Selects := by
  unfold deleteNode
  cases clicked : d.clickNode id false with
  | error => exact selects
  | ok e => exact deleteSelection_selects e

theorem duplicateSelection_selects (offset : Float) (d : Desk) :
    (d.duplicateSelection c offset).2.Selects := by
  rcases duplicateSelection_cases c offset d with same | ⟨_, _, ids, _, same⟩ | ⟨copies, s, ids, nodes, chosen⟩
  · rw [same]
    exact refresh_selects d
  · rw [same]
    exact refresh_selects d
  · rw [chosen]
    refine choose_selects fun id copied => ?_
    rw [nodes, List.map_append]
    exact List.mem_append_right _ copied

theorem after_selects (step : EditorStep) (selects : d.Selects) : (d.after c step).Selects := by
  cases step with
  | reopen => exact refresh_selects _
  | clickNode id additive => exact orSame_of selects fun _ ok => clickNode_selects selects ok
  | clickCanvas => exact .of_none rfl
  | clickConnection id => exact orSame_of selects fun _ ok => clickConnection_selects ok
  | selectAll => exact (selectAll_inStep (c := c) d).chosen.nodes_mem
  | beginConnection node port => exact orSame_of selects fun _ ok => beginConnection_selects ok
  | releaseOnPort node port => exact releaseOnPort_selects node port selects
  | releaseElsewhere => exact releaseElsewhere_selects selects
  | openCommandSurface x y query => exact openCommandSurface_selects x y query selects
  | searchOn session recents =>
      unfold Selects Editor.SelectsFrom
      simp only [after, setSession, withSession_selection]
      exact selects
  | commitCommand type => exact orSame_of selects fun _ ok => commitCommand_selects selects ok
  | cancelCommand => exact cancelCommand_selects selects
  | deleteSelection => exact deleteSelection_selects d
  | deleteNode id => exact deleteNode_selects id selects
  | duplicateSelection offset => exact duplicateSelection_selects offset d
  | moveSelection dx dy =>
      exact Editor.SelectsFrom.mono (.of_shape (moveSelection_shape dx dy d) rfl) (refresh_selects d)
  | renameScript name =>
      refine orSame_of selects fun s ok => ?_
      obtain ⟨_, rfl⟩ := Script.setName_fields ok
      exact selects
  | renameNode id label =>
      refine orSame_of selects fun r ok => ?_
      obtain ⟨nodes, renamed, same⟩ := Script.renameNode_shape ok
      have within : d.script.Within r.2 := renamed ▸ .of_shape same rfl
      exact Editor.SelectsFrom.mono within selects

end Desk

end NodeScript
