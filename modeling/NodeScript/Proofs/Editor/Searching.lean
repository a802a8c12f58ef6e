import NodeScript.Proofs.Editor.Step

namespace NodeScript

/-- The step starts a search, goes on with one or begins without one. -/
def EditorStep.touchesSearch : EditorStep → Bool
  | .reopen | .openCommandSurface .. | .searchOn .. => true
  | _ => false

namespace Desk

def SameSearch (d e : Desk) : Prop := ∀ session, e.editor.session? = some session → d.editor.session? = some session

/-- A search that is beside the selection stays, and none comes up. -/
structure KeepsSearch (d e : Desk) : Prop where
  left : e.editor.leftSearch? = d.editor.leftSearch?
  same : SameSearch d e

variable {c : Catalog} {d e f : Desk} {selection : Selection}

theorem KeepsSearch.refl : KeepsSearch d d := ⟨rfl, fun _ there => there⟩

theorem KeepsSearch.trans (first : KeepsSearch d e) (second : KeepsSearch e f) : KeepsSearch d f :=
  ⟨second.left.trans first.left, fun session there => first.same session (second.same session there)⟩

theorem KeepsSearch.of_editor (same : e.editor = d.editor) : KeepsSearch d e := by
  refine ⟨congrArg Editor.leftSearch? same, fun session there => ?_⟩
  rwa [same] at there

theorem KeepsSearch.of_resting (rests : e.editor = .resting selection d.editor.leftSearch?) : KeepsSearch d e := by
  refine ⟨by rw [rests]; rfl, fun session there => ?_⟩
  rw [rests] at there
  cases editor : d.editor with
  | resting selection search => exact (editor ▸ there :)
  | commanding surface =>
      rw [editor] at there
      cases there

theorem choose_search (selection : Selection) (d : Desk) : KeepsSearch d (d.choose selection) := .of_resting rfl

theorem refresh_search (d : Desk) : KeepsSearch d d.refresh := by
  unfold refresh
  split
  · exact choose_search _ d
  · exact .of_editor rfl

theorem cancelCommand_search (d : Desk) : KeepsSearch d d.cancelCommand := by
  unfold cancelCommand
  split
  · exact .refl
  · exact choose_search _ d

theorem clickNode_search {id : Option Text} {additive : Bool} (ok : d.clickNode id additive = .ok e) :
    KeepsSearch d e := by
  obtain ⟨n, _, rfl⟩ := clickNode_ok ok
  exact (cancelCommand_search d).trans (choose_search _ _)

theorem clickConnection_search {id : Option Text} (ok : d.clickConnection id = .ok e) : KeepsSearch d e := by
  obtain ⟨k, _, rfl⟩ := clickConnection_ok ok
  exact (cancelCommand_search d).trans (choose_search _ _)

theorem beginConnection_search {node port : Option Text} (ok : d.beginConnection c node port = .ok e) :
    KeepsSearch d e := by
  obtain ⟨n, t, output, _, _, _, rfl⟩ := beginConnection_ok ok
  exact (cancelCommand_search d).trans (choose_search _ _)

theorem releaseOnPort_search (node port : Option Text) (d : Desk) :
    KeepsSearch d (d.releaseOnPort c node port).2 := by
  rcases releaseOnPort_cases c node port d with same | ⟨_, refused⟩ | ⟨_, _, _, _, _, released⟩
  · exact same ▸ .refl
  · exact refused ▸ choose_search .nothing d
  · exact released ▸ .of_resting rfl

theorem releaseElsewhere_search (d : Desk) : KeepsSearch d d.releaseElsewhere := by
  unfold releaseElsewhere
  split
  · exact choose_search .nothing d
  · exact .refl

theorem commitCommand_search {type : Option Text} {n : Option Node}
    (ok : d.commitCommand c type = .ok (n, e)) : KeepsSearch d e := by
  rcases commitCommand_cases ok with ⟨_, rfl⟩ | ⟨_, _, _, _, _, _, _, _, rfl⟩
  · exact .refl
  · exact .of_resting rfl

theorem deleteSelection_search (d : Desk) : KeepsSearch d (d.deleteSelection c).2 := by
  rcases deleteSelection_cases c d with same | ⟨s, chosen⟩
  · exact same ▸ refresh_search d
  · exact chosen ▸ (refresh_search d).trans (.of_resting rfl)

theorem deleteNode_search (id : Option Text) (d : Desk) : KeepsSearch d (d.deleteNode c id).2 := by
  unfold deleteNode
  cases clicked : d.clickNode id false with
  | error => exact .refl
  | ok e => exact (clickNode_search clicked).trans (deleteSelection_search e)

theorem duplicateSelection_search (offset : Float) (d : Desk) :
    KeepsSearch d (d.duplicateSelection c offset).2 := by
  refine (refresh_search d).trans ?_
  rcases duplicateSelection_cases c offset d with same | ⟨_, _, ids, _, same⟩ | ⟨copies, s, ids, _, chosen⟩
  · exact same ▸ .refl
  · exact same ▸ .of_editor rfl
  · exact chosen ▸ .of_resting rfl

theorem after_search {step : EditorStep} (apart : step.touchesSearch = false) (d : Desk) :
    KeepsSearch d (d.after c step) := by
  cases step with
  | reopen | openCommandSurface | searchOn => cases apart
  | clickNode id additive => exact orSame_of .refl fun _ ok => clickNode_search ok
  | clickCanvas => exact (cancelCommand_search d).trans (choose_search _ _)
  | clickConnection id => exact orSame_of .refl fun _ ok => clickConnection_search ok
  | selectAll => exact (cancelCommand_search d).trans (choose_search _ _)
  | beginConnection node port => exact orSame_of .refl fun _ ok => beginConnection_search ok
  | releaseOnPort node port => exact releaseOnPort_search node port d
  | releaseElsewhere => exact releaseElsewhere_search d
  | commitCommand type => exact orSame_of .refl fun _ ok => commitCommand_search ok
  | cancelCommand => exact cancelCommand_search d
  | deleteSelection => exact deleteSelection_search d
  | deleteNode id => exact deleteNode_search id d
  | duplicateSelection offset => exact duplicateSelection_search offset d
  | moveSelection dx dy => exact (refresh_search d).trans (.of_editor rfl)
  | renameScript name => exact orSame_of .refl fun _ _ => .of_editor rfl
  | renameNode id label => exact orSame_of .refl fun _ _ => .of_editor rfl

end Desk

end NodeScript
