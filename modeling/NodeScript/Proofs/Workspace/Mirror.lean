import NodeScript.Proofs.Workspace.Step

namespace NodeScript

/-- The connection that an editor holds and does not let go by itself. What an open surface brings
back is cut to what is there, but a connection without a name is never cut. -/
def Editor.held? : Editor → Option Text
  | .resting selection _ => selection.connectionId?
  | .commanding surface => surface.prior.connectionId?.filter fun id => id = ""

namespace Script

variable {c : Catalog} {s : Script} {removed : List Text}

theorem prune_nodes (removed : List Text) (s : Script) : (s.prune [] removed).nodes = s.nodes := by
  simp [prune, funext orphan_nil]

theorem prune_selectedNodes (removed : List Text) (s : Script) :
    (s.prune [] removed).selectedNodes = s.selectedNodes := by
  simp [prune]

theorem mem_prune_connections {id : Text} (member : id ∈ s.connections.map Connection.id)
    (left : id ∉ removed) : id ∈ (s.prune [] removed).connections.map Connection.id := by
  obtain ⟨k, present, rfl⟩ := List.mem_map.mp member
  exact List.mem_map_of_mem (mem_withoutIds.mpr ⟨present, left⟩)

theorem hasOutput_prune {node port : Text} (has : HasOutput c s node port) :
    HasOutput c (s.prune [] removed) node port := by
  obtain ⟨n, template, output, found, known, out⟩ := has
  refine ⟨n, template, output, ?_, known, out⟩
  rw [node?, prune_nodes]
  exact found

end Script

/-- Connections that go away past an editor leave it in step if it holds none of them. -/
theorem Editor.InStep.prune {c : Catalog} {s : Script} {e : Editor} {removed : List Text}
    (inStep : e.InStep c s) (spared : ∀ id, e.held? = some id → id ∉ removed) :
    e.InStep c (s.prune [] removed) := by
  cases e with
  | resting selection search =>
      obtain ⟨stands, nodes, connection⟩ := inStep
      refine ⟨?_, (Script.prune_selectedNodes removed s).trans nodes, ?_⟩
      · cases selection with
        | nothing => trivial
        | nodes ids =>
            refine ⟨stands.1, fun id member => ?_⟩
            rw [Script.prune_nodes]
            exact stands.2 id member
        | connection id => exact Script.mem_prune_connections stands (spared id rfl)
        | drag node port => exact Script.hasOutput_prune stands
      · have kept : selection.connectionId?.any removed.contains = false := by
          cases chosen : selection.connectionId? with
          | none => rfl
          | some id => simpa using spared id chosen
        simp [Script.prune, connection, kept]
  | commanding surface =>
      refine Selection.present_stands ?_ ?_
      -- A connection without a name is never cut, so it has to be shown that it is still there.
      · intro nameless
        have stands : (surface.prior.present s).Stands c s := inStep
        rw [nameless] at stands ⊢
        refine Script.mem_prune_connections stands (spared "" ?_)
        simp [held?, nameless, Selection.connectionId?]
      · intro node port dragged
        have stands : (surface.prior.present s).Stands c s := inStep
        rw [dragged] at stands
        exact Script.hasOutput_prune stands

namespace Workspace

/-- Every editor is one of a script that is there, and is in step with the first script of its id. -/
structure Mirrored (c : Catalog) (w : Workspace) : Prop where
  scripts : ∀ id ∈ w.editors.map Prod.fst, id ∈ w.project.scripts.map Script.id
  inStep : ∀ id s found, w.project.script? id = some s → w.editors.lookup id = some found →
    found.editor.InStep c s

section

variable {c : Catalog} {w : Workspace}

theorem mirrored_iff : w.Mirrored c ↔ w.Each (Editor.InStep c) :=
  ⟨fun mirrored => ⟨mirrored.scripts, mirrored.inStep⟩, fun each => ⟨each.scripts, each.holds⟩⟩

theorem mirrored_of_noEditors (none : w.editors = []) : w.Mirrored c :=
  mirrored_iff.mpr (each_of_noEditors none)

theorem inStep_steady (c : Catalog) : Steady c (Editor.InStep c) where
  start := Desk.start_inStep
  after := fun step _ _ => Desk.after_inStep step
  extended := fun _ _ _ => Editor.InStep.mono

/-- A deletion of a connection takes away one that the editor of its script holds. -/
def takesHeld (c : Catalog) (w : Workspace) (script connection : Option Text) : Bool :=
  match w.script script with
  | .error _ => false
  | .ok s =>
    match s.deleteConnection c connection with
    | .error _ => false
    | .ok (removed, _) =>
      (w.editors.lookup s.id).any fun found => found.editor.held?.any removed.contains

/-- What a step must not do past an editor. -/
def Spares (c : Catalog) (w : Workspace) : WorkspaceStep → Prop
  | .deleteConnection script connection => w.takesHeld c script connection = false
  | _ => True

theorem Spares.allows {step : WorkspaceStep} (spares : w.Spares c step) :
    w.Allows c (Editor.InStep c) step := by
  cases step with
  | deleteConnection script connection =>
      intro s t removed found here deleted known inStep
      simp only [Spares, takesHeld, here, deleted, known, Option.any_some] at spares
      obtain ⟨k, _, cut⟩ := ok_of_bind deleted
      cases cut
      refine inStep.prune fun id held => ?_
      simpa [held] using spares
  | search script work =>
      intro s e session recents _ inStep
      exact Desk.searchOn_inStep (d := { script := s, editor := e }) _ recents inStep
  | _ => trivial

theorem after_mirrored (step : WorkspaceStep) (spares : w.Spares c step) (mirrored : w.Mirrored c) :
    (w.after c step).Mirrored c :=
  mirrored_iff.mpr (after_each (inStep_steady c) step spares.allows (mirrored_iff.mp mirrored))

end

end Workspace

end NodeScript
