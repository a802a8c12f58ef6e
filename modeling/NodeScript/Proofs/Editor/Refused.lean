import NodeScript.Proofs.Editor.Chosen
import NodeScript.Proofs.Renaming
import NodeScript.Proofs.Script.Remainder

namespace NodeScript

/-- The script but for the selection it records. -/
def Script.content (s : Script) : Script := s.recordSelection .nothing

namespace Script

variable {c : Catalog} {s : Script}

theorem deleteNodes_found {ids : List Text} (there : ids ⊆ s.nodes.map Node.id) :
    ∃ result, s.deleteNodes c (ids.map some) = .ok result := by
  have once : (ids.map some).eraseDups = ids.eraseDups.map some :=
    eraseDups_map (Option.some_injective Text) ids
  have listed : ids.eraseDups ⊆ s.nodes.map Node.id := fun id member => there (List.mem_eraseDups.mp member)
  rw [deleteNodes, requireNodes_iff.mpr ⟨once, listed⟩]
  exact ⟨_, rfl⟩

end Script

namespace Desk

variable {c : Catalog} {d e : Desk}

/-- The editor, what it shows of the script and the recent types are as they were. -/
structure Unmoved (d e : Desk) : Prop where
  content : e.script.content = d.script.content
  editor : e.editor = d.editor
  recents : e.recents = d.recents

theorem Unmoved.refl : Unmoved d d := ⟨rfl, rfl, rfl⟩

theorem refresh_content (d : Desk) : d.refresh.script.content = d.script.content := by
  unfold refresh
  split <;> rfl

theorem refresh_recents (d : Desk) : d.refresh.recents = d.recents := by
  unfold refresh
  split <;> rfl

theorem refresh_unmoved (kept : d.editor.selection.present d.script = d.editor.selection) :
    Unmoved d d.refresh := by
  refine ⟨refresh_content d, ?_, refresh_recents d⟩
  unfold refresh
  split
  · rename_i selection search held
    rw [held] at kept
    simp only [choose, held, Editor.leftSearch?]
    exact congrArg (Editor.resting · search) kept
  · rfl

theorem refresh_selection (d : Desk) :
    d.refresh.editor.selection = d.editor.selection.present d.script := by
  unfold refresh
  split <;> rename_i held <;> simp [choose, held, Editor.selection, Selection.present]

theorem Selects.unmoved {ids : List Text} (selects : d.Selects)
    (left : d.refresh.editor.selection = .nodes ids) : Unmoved d d.refresh := by
  refine refresh_unmoved ?_
  unfold Selects Editor.SelectsFrom at selects
  rw [refresh_selection] at left
  generalize d.editor.selection = selection at selects left ⊢
  cases selection with
  | nothing | drag => rfl
  | connection id =>
      simp only [Selection.present] at left
      split at left <;> cases left
  | nodes old =>
      have all : (old.filter fun id => (d.script.node? id).isSome) = old :=
        List.filter_eq_self.mpr fun id member => Script.node?_isSome.mpr (selects id member)
      simp only [Selection.present, all, Selection.ofNodes] at left ⊢
      split at left
      · cases left
      · exact if_neg ‹_›

theorem deletePresent_refused {error : GraphError} (selects : d.Selects)
    (refused : d.deletePresent c = .error error) : ∃ id, d.editor.selection = .connection id := by
  have cut {ids : List Text} (there : ∀ id ∈ ids, id ∈ d.script.nodes.map Node.id) :
      d.deleteNodes c ids ≠ .error error := by
    obtain ⟨result, ok⟩ := Script.deleteNodes_found (c := c) there
    rw [deleteNodes, ok]
    exact nofun
  have there {ids : List Text} (chosen : d.editor.selection = .nodes ids) :
      ∀ id ∈ ids, id ∈ d.script.nodes.map Node.id := by
    intro id member
    apply selects
    rw [chosen]
    exact member
  unfold deletePresent at refused
  split at refused
  · rename_i id chosen
    exact ⟨id, chosen⟩
  · rename_i id chosen
    dsimp only at refused
    split at refused
    · exact absurd refused (cut (there chosen))
    · cases refused
  · rename_i ids _ chosen
    exact absurd refused (cut (there chosen))
  · cases refused

theorem present_connection {selection : Selection} {s : Script} {id : Text}
    (left : selection.present s = .connection id) : selection = .connection id := by
  cases selection with
  | nothing | drag => exact left
  | connection other =>
      simp only [Selection.present] at left
      split at left
      · cases left
      · exact left
  | nodes ids =>
      simp only [Selection.present, Selection.ofNodes] at left
      split at left <;> cases left

theorem deleteSelection_refused {error : GraphError} (refused : d.deleteSelection c = (.error error, e)) :
    (∃ id, d.editor.selection = .connection id) ∧ Unmoved d e := by
  unfold deleteSelection at refused
  dsimp only at refused
  split at refused
  · cases refused
  · rename_i failed
    cases refused
    obtain ⟨id, left⟩ := deletePresent_refused (refresh_selects d) failed
    rw [refresh_selection] at left
    have chosen := present_connection left
    exact ⟨⟨id, chosen⟩, refresh_unmoved (left.trans chosen.symm)⟩

theorem withNode_alone (id : Text) (selection : Selection) : withNode id false selection = .nodes [id] := by
  unfold withNode
  split <;> rfl

theorem deleteNode_refused {id : Option Text} {error : GraphError}
    (refused : d.deleteNode c id = (.error error, e)) : e = d := by
  unfold deleteNode at refused
  split at refused
  · rename_i clicked
    obtain ⟨n, _, rfl⟩ := clickNode_ok clicked
    obtain ⟨⟨link, chosen⟩, -⟩ := deleteSelection_refused refused
    have other : withNode n.id false d.cancelCommand.editor.selection = .connection link := chosen
    rw [withNode_alone] at other
    cases other
  · cases refused
    rfl

theorem duplicateSelection_refused {offset : Float} {error : GraphError} (selects : d.Selects)
    (refused : d.duplicateSelection c offset = (.error error, e)) : Unmoved d e := by
  rcases duplicateSelection_cases c offset d with same | ⟨_, _, ids, left, same⟩ | ⟨_, _, _, _, same⟩ <;>
    cases refused.symm.trans same
  have unmoved := selects.unmoved left
  exact ⟨unmoved.content, unmoved.editor, unmoved.recents⟩

theorem releaseOnPort_refused {node port : Option Text} {error : GraphError}
    (refused : d.releaseOnPort c node port = (.error error, e)) : e = d.choose .nothing := by
  rcases releaseOnPort_cases c node port d with same | ⟨_, ended⟩ | ⟨_, _, _, _, _, released⟩
  · rw [same] at refused
    cases refused
  · rw [ended] at refused
    cases refused
    rfl
  · rw [released] at refused
    cases refused

end Desk

end NodeScript
