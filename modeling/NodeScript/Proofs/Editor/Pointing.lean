import NodeScript.Proofs.Editor.Refused
import NodeScript.Proofs.Editor.Unrepeated
import NodeScript.Proofs.Script.Deletions
import NodeScript.Proofs.Script.Pointing

/-!
What errors of an editor point at. They too name what was given or what is in the script, with three
exceptions: copies are refused for the type of a node under the id that its copy would have had; a drag
may have begun at a node that is gone; and a selected connection without a name is not looked for before
it is deleted.
-/
namespace NodeScript

open GraphError (PointsAt)

namespace EditorStep

def nodes : EditorStep → List (Option Text)
  | .clickNode id _ | .deleteNode id | .renameNode id _ => [id]
  | .beginConnection node _ | .releaseOnPort node _ => [node]
  | _ => []

def connections : EditorStep → List (Option Text)
  | .clickConnection id => [id]
  | _ => []

end EditorStep

namespace Desk

def refusal? (c : Catalog) (d : Desk) : EditorStep → Option GraphError
  | .clickNode id additive => error? (d.clickNode id additive)
  | .clickConnection id => error? (d.clickConnection id)
  | .beginConnection node port => error? (d.beginConnection c node port)
  | .releaseOnPort node port => error? (d.releaseOnPort c node port).1
  | .commitCommand type => error? (d.commitCommand c type)
  | .deleteSelection => error? (d.deleteSelection c).1
  | .deleteNode id => error? (d.deleteNode c id).1
  | .duplicateSelection offset => error? (d.duplicateSelection c offset).1
  | .renameScript name => (error? (d.script.setName name)).bind EditError.graph?
  | .renameNode id label => error? (d.script.renameNode id label)
  | .reopen | .clickCanvas | .selectAll | .releaseElsewhere | .openCommandSurface .. | .searchOn ..
  | .cancelCommand | .moveSelection .. => none

/-- The errors that name something that is neither given nor in the script. -/
inductive Strays (c : Catalog) (d : Desk) : EditorStep → GraphError → Prop
  | copy {n : Node} {new : Text} (offset : Float) (member : n ∈ d.script.nodes)
      (selected : n.id ∈ d.editor.selection.nodeIds) (unknown : c.knows n.type = false)
      (fresh : ¬ d.ids.Spent new) :
      Strays c d (.duplicateSelection offset) (.unknownType (some n.type) (some new))
  | drag {source fromPort : Text} {search : Option Session} (node port : Option Text)
      (held : d.editor = .resting (.drag source fromPort) search)
      (gone : source ∉ d.script.nodes.map Node.id) :
      Strays c d (.releaseOnPort node port) (.nodeNotFound (some source))
  | nameless (held : d.editor.selection = .connection "")
      (gone : ("" : Text) ∉ d.script.connections.map Connection.id) :
      Strays c d .deleteSelection (.connectionNotFound (some ""))

variable {c : Catalog} {d : Desk}

theorem clickNode_points (id : Option Text) (additive : Bool) :
    Fails (PointsAt d.script [id] []) (d.clickNode id additive) :=
  .bind (Script.requireNode_points (List.mem_singleton_self _)) fun _ _ => .ok

theorem clickConnection_points (id : Option Text) :
    Fails (PointsAt d.script [] [id]) (d.clickConnection id) :=
  .bind (Script.requireConnection_points (List.mem_singleton_self _)) fun _ _ => .ok

theorem beginConnection_points (node port : Option Text) :
    Fails (PointsAt d.script [node] []) (d.beginConnection c node port) := by
  refine .bind (Script.requireNode_points (List.mem_singleton_self _)) fun n found => ?_
  have member := (Script.requireNode_ok found).1
  refine .bind (Catalog.templateOf_points _ _ member) fun t _ => ?_
  split
  · exact .ok
  · refine .error ⟨?_, nofun⟩
    intro id named
    rw [List.mem_singleton.mp named]
    exact Or.inr (List.mem_map_of_mem member)

theorem releaseOnPort_points (node port : Option Text) :
    Fails (fun e => e.PointsAt d.script [node] [] ∨ d.Strays c (.releaseOnPort node port) e)
      (d.releaseOnPort c node port).1 := by
  unfold releaseOnPort dragLink?
  split
  · exact .ok
  · rename_i link dragged
    split at dragged <;> cases dragged
    rename_i source fromPort search held
    dsimp only
    split
    · exact .ok
    · rename_i e failed
      refine .error ?_
      rcases Fails.bind (Script.checkLink_fails _) (fun _ _ => .ok) e failed with rfl | rfl | points
      · by_cases there : source ∈ d.script.nodes.map Node.id
        · refine Or.inl ⟨fun id named => Or.inr ?_, nofun⟩
          obtain ⟨n, member, rfl⟩ := List.mem_map.mp there
          rw [List.mem_singleton.mp named]
          exact List.mem_map_of_mem member
        · exact Or.inr (.drag node port held there)
      · exact Or.inl (Script.points_nodeNotFound (List.mem_singleton_self _))
      · exact Or.inl ⟨fun id named => Or.inr ((points.nodes id named).resolve_left List.not_mem_nil),
          points.connections⟩

theorem commitCommand_points (type : Option Text) :
    Fails (PointsAt d.script [] []) (d.commitCommand c type) := by
  unfold commitCommand
  split
  · exact .ok
  · refine .bind ?_ fun found _ => ?_
    · cases type with
      | none => exact .ok
      | some given => exact .map some (Catalog.template_points _ _ _ _)
    · cases found with
      | none => exact .ok
      | some t =>
          refine .bind ?_ fun _ _ => .ok
          refine .bind (Catalog.template_points _ _ _ _) fun _ _ => .ok

theorem deleteSelection_strays : Fails (d.Strays c .deleteSelection) (d.deleteSelection c).1 := by
  unfold deleteSelection
  dsimp only
  split
  · exact .ok
  · rename_i e failed
    refine .error ?_
    obtain ⟨id, left⟩ := deletePresent_refused (refresh_selects d) failed
    rw [deletePresent, left] at failed
    obtain ⟨rfl, missing⟩ :=
      Fails.bind (.bind Script.requireConnection_fails fun _ _ => .ok) (fun _ _ => .ok) e failed
    rw [Option.bind_some, Script.connection?, (refresh_same d).connections] at missing
    rw [refresh_selection] at left
    have chosen := present_connection left
    -- A connection with a name would have been dropped from the selection.
    have unnamed : id = "" := by
      by_contra named
      rw [chosen, Selection.present, if_pos ⟨named, missing⟩] at left
      cases left
    subst unnamed
    refine .nameless chosen fun listed => ?_
    obtain ⟨k, member, same⟩ := List.mem_map.mp listed
    exact absurd (decide_eq_true same) (List.find?_eq_none.mp missing k member)

theorem deleteNode_points (id : Option Text) :
    Fails (PointsAt d.script [id] []) (d.deleteNode c id).1 := by
  unfold deleteNode
  split
  · rename_i e clicked
    obtain ⟨n, _, rfl⟩ := clickNode_ok clicked
    intro error failed
    cases deleteSelection_strays error failed with
    | nameless held gone =>
        have chosen : withNode n.id false d.cancelCommand.editor.selection = .connection "" := held
        rw [withNode_alone] at chosen
        cases chosen
  · exact .error (clickNode_points id false _ ‹_›)

theorem keptConnections_fails (copies : List Node) (bridged : List Text) (links : List Connection) :
    Fails (fun e => ∃ copy ∈ copies, e = .unknownType (some copy.type) (some copy.id) ∧
      c.knows copy.type = false) (keptConnections c copies bridged links) := by
  have typed {id : Text} {copy : Node} (found : lastNode? copies id = some copy) :
      Fails (fun e => ∃ copy ∈ copies, e = .unknownType (some copy.type) (some copy.id) ∧
        c.knows copy.type = false) (c.templateOf copy) :=
    Catalog.templateOf_fails.imp fun _ unknown => ⟨copy, (lastNode?_mem found).1, unknown⟩
  induction links with
  | nil => exact .ok
  | cons k rest ih =>
      refine .bind ?_ fun _ _ => .bind ih fun _ _ => .ok
      unfold keepsContext
      split
      · rename_i first second
        exact .bind (typed first) fun _ _ => .bind (typed second) fun _ _ => .ok
      · exact .ok

theorem duplicateNodes_fails (offset : Float) (selected : List Node) :
    Fails (fun e => ∃ n ∈ selected, ∃ new, e = .unknownType (some n.type) (some new) ∧
      c.knows n.type = false ∧ ¬ d.ids.Spent new) (d.duplicateNodes c offset selected).1 := by
  unfold duplicateNodes
  dsimp only
  split
  · rename_i e failed
    refine .error ?_
    obtain ⟨copy, copied, rfl, unknown⟩ := keptConnections_fails _ _ _ e failed
    obtain ⟨n, member, rfl⟩ := List.mem_map.mp copied
    obtain ⟨new, found⟩ := Option.isSome_iff_exists.mp
      ((copyOf?_isSome (IdSupply.drawFor_items d.ids selected)).mpr (List.mem_map_of_mem member))
    refine ⟨n, member, new, ?_, unknown, (IdSupply.drawFor_new d.ids selected).fresh _ (copyOf?_new found)⟩
    simp [copiedNode, found]
  · exact .ok

theorem duplicateSelection_strays (offset : Float) :
    Fails (d.Strays c (.duplicateSelection offset)) (d.duplicateSelection c offset).1 := by
  unfold duplicateSelection
  dsimp only
  split
  · rename_i ids left
    intro e failed
    obtain ⟨n, member, new, rfl, unknown, fresh⟩ := duplicateNodes_fails offset _ e failed
    obtain ⟨present, selected⟩ := List.mem_filter.mp member
    rw [(refresh_same d).nodes] at present
    rw [(refresh_same d).ids] at fresh
    refine .copy offset present ?_ unknown fresh
    apply (Selection.present_nodeIds d.script d.editor.selection).subset
    rw [← refresh_selection, left]
    exact List.contains_iff_mem.mp selected
  · exact .ok

theorem refusal_points {step : EditorStep} {e : GraphError} (refused : d.refusal? c step = some e) :
    e.PointsAt d.script step.nodes step.connections ∨ d.Strays c step e := by
  cases step with
  | clickNode id additive => exact Or.inl ((clickNode_points id additive).refusal refused)
  | clickConnection id => exact Or.inl ((clickConnection_points id).refusal refused)
  | beginConnection node port => exact Or.inl ((beginConnection_points node port).refusal refused)
  | releaseOnPort node port => exact (releaseOnPort_points node port).refusal refused
  | commitCommand type => exact Or.inl ((commitCommand_points type).refusal refused)
  | deleteSelection => exact Or.inr (deleteSelection_strays.refusal refused)
  | deleteNode id => exact Or.inl ((deleteNode_points id).refusal refused)
  | duplicateSelection offset => exact Or.inr ((duplicateSelection_strays offset).refusal refused)
  | renameScript name =>
      rw [refusal?, Script.setName_graph] at refused
      cases refused
  | renameNode id label => exact Or.inl ((Script.changeNode_points id _).refusal refused)
  | reopen | clickCanvas | selectAll | releaseElsewhere | openCommandSurface | searchOn | cancelCommand
  | moveSelection => cases refused

end Desk

/-- Whatever is refused, the error names only nodes and connections that are given or in the script,
but for the strays of an editor. -/
theorem errors_point (c : Catalog) :
    (∀ s ids step e, Script.refusal? c s ids step = some e →
      e.PointsAt s step.nodes step.connections) ∧
      (∀ s link e, Script.checkLink c link s = .error e →
        e.PointsAt s [link.fromNode, link.toNode] []) ∧
      (∀ n e, c.templateOf n = .error e → e.nodes = [some n.id] ∧ e.connections = []) ∧
      (∀ p ids step e, Project.refusal? p ids step = some e → e.nodes = [] ∧ e.connections = []) ∧
      ∀ d step e, Desk.refusal? c d step = some e →
        e.PointsAt d.script step.nodes step.connections ∨ d.Strays c step e := by
  refine ⟨fun _ _ _ _ => Script.refusal_points, fun _ link => Script.checkLink_points link, ?_,
    fun _ _ _ _ => Project.refusal_nameless, fun _ _ _ => Desk.refusal_points⟩
  intro n e failed
  obtain ⟨rfl, _⟩ := Catalog.templateOf_fails e failed
  exact ⟨rfl, rfl⟩

/-- A script with a node of a type that the catalog does not know, both nodes selected. -/
def haunted : Script :=
  { id := "haunted"
    name := "Haunted"
    nodes := [{ id := "start", type := "event" }, { id := "ghost", type := "ghost" }]
    connections := [
      { id := "c0", fromNode := "start", fromPort := "exec", toNode := "ghost", toPort := "exec" }]
    selectedNodes := ["start", "ghost"] }

theorem errors_point_haunted :
    let d := Desk.start haunted {} {}
    let unknown : GraphError := .unknownType (some "ghost") (some "ghost")
    let missing : GraphError := .nodeNotFound (some "gone")
    haunted.refusal? replyCatalog {} (.connect ⟨some "start", some "exec", some "ghost", none⟩) =
        some unknown ∧ unknown.PointsAt haunted [some "start", some "ghost"] [] ∧
      haunted.checkLink replyCatalog ⟨some "start", some "exec", some "gone", none⟩ = .error missing ∧
      missing.PointsAt haunted [some "start", some "gone"] [] ∧
      ({ scripts := [haunted] } : Project).refusal? {} (.deleteScript (some "gone")) =
        some (.scriptNotFound (some "gone")) ∧
      (GraphError.scriptNotFound (some "gone")).nodes = [] ∧
      d.refusal? replyCatalog (.beginConnection (some "ghost") (some "exec")) = some unknown ∧
      (unknown.PointsAt d.script [some "ghost"] [] ∨
        d.Strays replyCatalog (.beginConnection (some "ghost") (some "exec")) unknown) := by
  rcases errors_point replyCatalog with ⟨script, link, -, project, editor⟩
  refine ⟨rfl, script haunted {} (.connect ⟨some "start", some "exec", some "ghost", none⟩) _ rfl, rfl,
    link haunted ⟨some "start", some "exec", some "gone", none⟩ _ rfl, rfl,
    (project { scripts := [haunted] } {} (.deleteScript (some "gone")) _ rfl).1, rfl,
    editor (Desk.start haunted {} {}) (.beginConnection (some "ghost") (some "exec")) _ rfl⟩

/-- The error names the id that was drawn for the copy of the ghost, which is in no script. -/
theorem duplicateSelection_haunted :
    let d := Desk.start haunted {} {}
    d.refusal? replyCatalog (.duplicateSelection 40) =
        some (.unknownType (some "ghost") (some "id-2")) ∧
      ¬ (GraphError.unknownType (some "ghost") (some "id-2")).PointsAt d.script
        (EditorStep.duplicateSelection 40).nodes (EditorStep.duplicateSelection 40).connections := by
  refine ⟨rfl, fun points => ?_⟩
  rcases points.nodes (some "id-2") (List.mem_singleton_self _) with given | there
  · cases given
  · revert there
    decide

end NodeScript
