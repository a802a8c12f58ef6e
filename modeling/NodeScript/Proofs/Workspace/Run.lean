import NodeScript.Proofs.Workspace.Mirror

/-!
Runs of a workspace. As long as no connection is deleted past the editor that holds it, every editor
names only what is in its script, and the script records what is selected in its editor.
-/
namespace NodeScript

/-- What the editor names is in the script, and unless a surface is open the script records it. -/
structure Editor.Agrees (c : Catalog) (s : Script) (e : Editor) : Prop where
  nodes : ∀ id ∈ e.selection.nodeIds, id ∈ s.nodes.map Node.id
  connection : ∀ id, e.selection.connectionId? = some id → id ∈ s.connections.map Connection.id
  drag : ∀ node port, e.selection = .drag node port → HasOutput c s node port
  recorded : e.surface? = none →
    s.selectedNodes = e.selection.nodeIds ∧ s.selectedConnection = e.selection.connectionId?

theorem Editor.InStep.agrees {c : Catalog} {s : Script} {e : Editor} (inStep : e.InStep c s) :
    e.Agrees c s := by
  cases e with
  | resting selection search =>
      obtain ⟨stands, nodes, connection⟩ := inStep
      refine ⟨Selection.Stands.nodes_mem stands, fun _ => Selection.Stands.connection_mem stands, ?_,
        fun _ => ⟨nodes, connection⟩⟩
      rintro node port rfl
      exact stands
  | commanding surface =>
      constructor <;> simp [selection, surface?, Selection.nodeIds, Selection.connectionId?]

namespace Workspace

def run (c : Catalog) (w : Workspace) (steps : List WorkspaceStep) : Workspace :=
  steps.foldl (after c) w

theorem run_each {c : Catalog} {P : Script → Editor → Prop} {w : Workspace} (steady : Steady c P)
    {allowed : WorkspaceStep → Prop} (allows : ∀ w step, allowed step → Allows c P w step)
    (steps : List WorkspaceStep) (all : ∀ step ∈ steps, allowed step) (each : w.Each P) :
    (w.run c steps).Each P := by
  induction steps generalizing w with
  | nil => exact each
  | cons step rest ih =>
      obtain ⟨this, those⟩ := List.forall_mem_cons.mp all
      exact ih those (after_each steady step (allows w step this) each)

/-- No step of the run deletes a connection past the editor that holds it. -/
def SparesRun (c : Catalog) (w : Workspace) : List WorkspaceStep → Prop
  | [] => True
  | step :: rest => w.Spares c step ∧ (w.after c step).SparesRun c rest

theorem run_inStep {c : Catalog} {w : Workspace} (steps : List WorkspaceStep)
    (spares : w.SparesRun c steps) (mirrored : w.Mirrored c) : (w.run c steps).Mirrored c := by
  induction steps generalizing w with
  | nil => exact mirrored
  | cons step rest ih => exact ih spares.2 (after_mirrored step spares.1 mirrored)

theorem run_agrees (c : Catalog) (w : Workspace) (fresh : w.editors = []) (steps : List WorkspaceStep)
    (spares : w.SparesRun c steps) (id : Text) (s : Script) (found : OpenEditor)
    (there : (w.run c steps).project.script? id = some s)
    (known : (w.run c steps).editors.lookup id = some found) : found.editor.Agrees c s :=
  ((run_inStep steps spares (mirrored_of_noEditors fresh)).inStep id s found there known).agrees

def traceCatalog : Catalog where
  templates := [
    { type := "attach", category := .events, context := .host, label := "Attach"
      outputs := [{ name := "exec", type := .flow }] },
    { type := "print", category := .output, context := .host, label := "Print"
      inputs := [{ name := "exec", type := .flow }] }]
  faultless := by decide

/-- A script of an event that feeds two nodes, with one of the two connections selected. -/
def traceRun : List WorkspaceStep :=
  [.createScript "Main" none, .addNode none { type := some "attach" },
    .addNode none { type := some "print" }, .addNode none { type := some "print" },
    .connect none ⟨some "id-2", some "exec", some "id-3", some "exec"⟩,
    .connect none ⟨some "id-2", some "exec", some "id-4", some "exec"⟩,
    .clickConnection none (some "id-5")]

def traced (connection : Text) : Workspace :=
  ({} : Workspace).run traceCatalog (traceRun ++ [.deleteConnection none (some connection)])

/-- The connection that is not selected goes away. -/
theorem run_agrees_traced :
    ({} : Workspace).editors = [] ∧
      ({} : Workspace).SparesRun traceCatalog (traceRun ++ [.deleteConnection none (some "id-6")]) ∧
      ∃ s found, (traced "id-6").project.script? "id-1" = some s ∧
        (traced "id-6").editors.lookup ("id-1" : Text) = some found ∧
        found.editor.Agrees traceCatalog s := by
  have spares : ({} : Workspace).SparesRun traceCatalog
      (traceRun ++ [.deleteConnection none (some "id-6")]) := by
    refine ⟨trivial, trivial, trivial, trivial, trivial, trivial, trivial, ?_, trivial⟩
    change takesHeld traceCatalog _ none (some "id-6") = false
    decide +kernel
  obtain ⟨s, there⟩ : ∃ s, (traced "id-6").project.script? "id-1" = some s :=
    Option.isSome_iff_exists.mp (by decide +kernel)
  obtain ⟨found, known⟩ : ∃ found, (traced "id-6").editors.lookup ("id-1" : Text) = some found :=
    Option.isSome_iff_exists.mp (by decide +kernel)
  exact ⟨rfl, spares, s, found, there, known,
    run_agrees traceCatalog {} rfl _ spares "id-1" s found there known⟩

/-- The editor goes on holding the selected connection when that one goes away. -/
theorem run_keeps_deleted :
    ∃ s found, (traced "id-5").project.script? "id-1" = some s ∧
      (traced "id-5").editors.lookup ("id-1" : Text) = some found ∧
      found.editor = .resting (.connection "id-5") ∧ s.connections.map Connection.id = ["id-6"] ∧
      s.selectedConnection = none ∧ ¬ found.editor.Agrees traceCatalog s := by
  obtain ⟨s, there⟩ : ∃ s, (traced "id-5").project.script? "id-1" = some s :=
    Option.isSome_iff_exists.mp (by decide +kernel)
  obtain ⟨found, known⟩ : ∃ found, (traced "id-5").editors.lookup ("id-1" : Text) = some found :=
    Option.isSome_iff_exists.mp (by decide +kernel)
  have left : ((traced "id-5").project.script? "id-1").map (·.connections.map Connection.id) =
      some [("id-6" : Text)] := by decide +kernel
  have cleared : ((traced "id-5").project.script? "id-1").map Script.selectedConnection = some none := by
    decide +kernel
  have held : ((traced "id-5").editors.lookup ("id-1" : Text)).map OpenEditor.editor =
      some (.resting (.connection "id-5")) := by decide +kernel
  simp only [there, known, Option.map_some, Option.some.injEq] at left cleared held
  refine ⟨s, found, there, known, held, left, cleared, fun agrees => ?_⟩
  have recorded := (agrees.recorded (by rw [held]; rfl)).2
  rw [cleared, held] at recorded
  cases recorded

end Workspace

end NodeScript
