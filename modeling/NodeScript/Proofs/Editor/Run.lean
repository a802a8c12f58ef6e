import NodeScript.Editor.Record
import NodeScript.Proofs.Editor.Searching
import NodeScript.Proofs.Editor.Unrepeated

/-!
Runs of an editor. From a new editor on, and whatever is called and refused, the mode tells what is
selected, everything the editor names is in its script, and the script records the selection. A new
editor therefore takes up what is selected exactly as it was.
-/
namespace NodeScript

namespace Selection

variable {c : Catalog} {s : Script} {selection : Selection}

theorem recorded_eq (links : ("" : Text) ∉ s.connections.map Connection.id) (stands : selection.Stands c s)
    (nodes : s.selectedNodes = selection.nodeIds)
    (connection : s.selectedConnection = selection.connectionId?)
    (still : ∀ node port, selection ≠ .drag node port) : recorded s = selection := by
  cases selection with
  | nothing => simp [recorded, nodes, connection, nodeIds, connectionId?]
  | nodes ids => simp [recorded, nodes, nodeIds, stands.1]
  | connection id =>
      have named : id ≠ "" := fun same => links (same ▸ stands)
      simp [recorded, nodes, connection, nodeIds, connectionId?, named]
  | drag node port => exact absurd rfl (still node port)

end Selection

namespace Editor

variable {c : Catalog} {s : Script} {e : Editor}

theorem nodesSelected_iff (stands : e.selection.Stands c s) :
    e.modeName = "NodesSelected" ↔ e.selection.nodeIds ≠ [] := by
  rcases e with ⟨_ | ids | _ | _, _⟩ | _
  case resting.nodes => exact iff_of_true rfl stands.1
  all_goals simp +decide [modeName, selection, Selection.nodeIds]

theorem connectionSelected_iff (e : Editor) :
    e.modeName = "ConnectionSelected" ↔ e.selection.connectionId?.isSome := by
  rcases e with ⟨_ | _ | _ | _, _⟩ | _ <;>
    simp +decide [modeName, selection, Selection.connectionId?]

theorem pendingConnection_iff (e : Editor) :
    e.modeName = "PendingConnection" ↔ e.dragNode?.isSome ∧ e.dragPort?.isSome := by
  rcases e with ⟨_ | _ | _ | _, _⟩ | _ <;> simp +decide [modeName, dragNode?, dragPort?]

theorem surfaceOpen_iff (e : Editor) : e.modeName = "CommandSurfaceOpen" ↔ e.surface?.isSome := by
  rcases e with ⟨_ | _ | _ | _, _⟩ | _ <;> simp +decide [modeName, surface?]

theorem selection_drag {node port : Text} (first : e.dragNode? = some node)
    (second : e.dragPort? = some port) : e.selection = .drag node port := by
  rcases e with ⟨_ | _ | _ | _, _⟩ | _ <;> cases first
  cases second
  rfl

theorem session?_isSome (bare : e.leftSearch? = none) : e.session?.isSome = e.surface?.isSome := by
  cases e with
  | resting selection search =>
      cases bare
      rfl
  | commanding surface => rfl

end Editor

theorem Script.recordSelection_eq {s : Script} {selection : Selection}
    (nodes : s.selectedNodes = selection.nodeIds)
    (connection : s.selectedConnection = selection.connectionId?) :
    s.recordSelection selection = s := by
  rw [recordSelection, ← nodes, ← connection]

namespace Desk

/-- A step can be done at the desk: a surface opens at two numbers, and a search goes on only where
there is one. -/
def Admits (d : Desk) : EditorStep → Prop
  | .openCommandSurface x y _ =>
    ∃ position, (Position.read (.obj [("x", x), ("y", y)])).run = .ok position
  | .searchOn .. => d.editor.surface?.isSome
  | _ => True

def AdmitsRun (c : Catalog) (d : Desk) : List EditorStep → Prop
  | [] => True
  | step :: rest => d.Admits step ∧ (d.after c step).AdmitsRun c rest

def run (c : Catalog) (d : Desk) (steps : List EditorStep) : Desk := steps.foldl (after c) d

/-- The mode tells what is selected, what is selected is in the script and recorded there, and a new
editor takes it up. -/
structure Coherent (c : Catalog) (d : Desk) : Prop where
  nodesMode : d.editor.modeName = "NodesSelected" ↔ d.editor.selection.nodeIds ≠ []
  nodes : ∀ id ∈ d.editor.selection.nodeIds, id ∈ d.script.nodes.map Node.id
  connectionMode :
    d.editor.modeName = "ConnectionSelected" ↔ d.editor.selection.connectionId?.isSome
  connection : ∀ id, d.editor.selection.connectionId? = some id →
    id ∈ d.script.connections.map Connection.id
  dragMode :
    d.editor.modeName = "PendingConnection" ↔ d.editor.dragNode?.isSome ∧ d.editor.dragPort?.isSome
  drag : ∀ node port, d.editor.dragNode? = some node → d.editor.dragPort? = some port →
    HasOutput c d.script node port
  searchMode : d.editor.modeName = "CommandSurfaceOpen" ↔ d.editor.session?.isSome
  surfaceMode : d.editor.modeName = "CommandSurfaceOpen" ↔ d.editor.surface?.isSome
  recorded : d.editor.modeName ≠ "CommandSurfaceOpen" →
    d.script.selectedNodes = d.editor.selection.nodeIds ∧
      d.script.selectedConnection = d.editor.selection.connectionId?
  reopened : d.editor.modeName = "Idle" ∨ d.editor.modeName = "NodesSelected" ∨
      d.editor.modeName = "ConnectionSelected" →
    ∀ recents ids, start d.script recents ids = { d with recents, ids }

/-- No search was left beside the selection. -/
def Bare (d : Desk) : Prop := d.editor.leftSearch? = none

/-- What a run keeps. -/
structure Regular (c : Catalog) (d : Desk) : Prop where
  inStep : d.InStep c
  bare : d.Bare
  distinct : (d.script.nodes.map Node.id).Nodup
  spent : ∀ id ∈ d.script.nodes.map Node.id, d.ids.Spent id
  links : ("" : Text) ∉ d.script.connections.map Connection.id
  names : ∀ n, d.ids.name n ≠ ""

section

variable {c : Catalog} {d e : Desk}

theorem after_bare (step : EditorStep) (admits : d.Admits step) (bare : d.Bare) :
    (d.after c step).Bare := by
  cases touches : step.touchesSearch with
  | false => exact (after_search touches d).left.trans bare
  | true =>
      cases step with
      | reopen => exact (refresh_search _).left
      | openCommandSurface x y query =>
          obtain ⟨position, numbers⟩ := admits
          simp only [after, openCommandSurface, numbers]
          rfl
      | searchOn session recents =>
          simp only [Admits, Editor.surface?] at admits
          simp only [after, setSession]
          cases editor : d.editor with
          | resting selection search => simp [editor] at admits
          | commanding surface => rfl
      | _ => cases touches

theorem after_regular (step : EditorStep) (admits : d.Admits step) (regular : d.Regular c) :
    (d.after c step).Regular c := by
  have renewed := after_renewed (c := c) step regular.distinct
  refine ⟨after_inStep step regular.inStep, after_bare step admits regular.bare,
    renewed.nodes.nodup regular.distinct regular.spent, renewed.nodes.spent regular.spent, ?_, ?_⟩
  · intro nameless
    rcases renewed.connections.origin nameless with old | ⟨n, given⟩
    · exact regular.links old
    · exact regular.names n given
  · rw [renewed.later.1]
    exact regular.names

theorem start_eq {s : Script} {selection : Selection}
    (links : ("" : Text) ∉ s.connections.map Connection.id) (stands : selection.Stands c s)
    (nodes : s.selectedNodes = selection.nodeIds)
    (connection : s.selectedConnection = selection.connectionId?)
    (still : ∀ node port, selection ≠ .drag node port) (recents : Recents) (ids : IdSupply) :
    start s recents ids = { script := s, editor := .resting selection, recents, ids } := by
  have chosen := Selection.recorded_eq links stands nodes connection still
  simp only [start, refresh, chosen, stands.present, choose, Script.recordSelection_eq nodes connection]
  rfl

theorem Regular.coherent (regular : d.Regular c) : d.Coherent c where
  nodesMode := Editor.nodesSelected_iff regular.inStep.chosen
  nodes := regular.inStep.chosen.nodes_mem
  connectionMode := Editor.connectionSelected_iff _
  connection := fun _ => regular.inStep.chosen.connection_mem
  dragMode := Editor.pendingConnection_iff _
  drag := by
    intro node port first second
    have stands := regular.inStep.chosen
    rwa [Editor.selection_drag first second] at stands
  searchMode := by
    rw [Editor.session?_isSome regular.bare]
    exact Editor.surfaceOpen_iff _
  surfaceMode := Editor.surfaceOpen_iff _
  recorded := by
    intro resting
    obtain ⟨s, editor, recents, ids⟩ := d
    cases editor with
    | resting selection search => exact regular.inStep.2
    | commanding surface => exact absurd rfl resting
  reopened := by
    intro mode recents ids
    obtain ⟨s, editor, _, _⟩ := d
    cases editor with
    | resting selection search =>
        obtain ⟨stands, nodes, connection⟩ := regular.inStep
        obtain rfl : search = none := regular.bare
        refine start_eq regular.links stands nodes connection ?_ recents ids
        rintro node port rfl
        simp +decide [Editor.modeName] at mode
    | commanding surface => simp +decide [Editor.modeName] at mode

theorem start_regular {s : Script} (recents : Recents) {ids : IdSupply}
    (distinct : (s.nodes.map Node.id).Nodup) (spent : ∀ id ∈ s.nodes.map Node.id, ids.Spent id)
    (links : ("" : Text) ∉ s.connections.map Connection.id) (names : ∀ n, ids.name n ≠ "") :
    (start s recents ids).Regular c :=
  ⟨start_inStep s recents ids, (refresh_search _).left, distinct, spent, links, names⟩

theorem run_regular (steps : List EditorStep) (admits : d.AdmitsRun c steps) (regular : d.Regular c) :
    (d.run c steps).Regular c := by
  induction steps generalizing d with
  | nil => exact regular
  | cons step rest ih => exact ih admits.2 (after_regular step admits.1 regular)

theorem run_sparing {id : Text} (steps : List EditorStep) (spare : d.Sparing id) :
    (d.run c steps).Sparing id := by
  induction steps generalizing d with
  | nil => exact spare
  | cons step rest ih => exact ih (after_sparing step spare)

theorem run_unrepeated (steps : List EditorStep) (admits : d.AdmitsRun c steps)
    (regular : d.Regular c) (once : d.Unrepeated) : (d.run c steps).Unrepeated := by
  -- That an id is selected once is kept for each id by itself, so it is counted.
  have distinct := (run_regular steps admits regular).distinct
  exact (unrepeated_iff distinct).mpr fun id =>
    run_sparing steps ((unrepeated_iff regular.distinct).mp once id)

end

/-- After every run from a new editor on a script, the editor and its script agree. -/
theorem run_coherent (c : Catalog) (s : Script) (recents : Recents) (ids : IdSupply)
    (distinct : (s.nodes.map Node.id).Nodup) (spent : ∀ id ∈ s.nodes.map Node.id, ids.Spent id)
    (links : ("" : Text) ∉ s.connections.map Connection.id) (names : ∀ n, ids.name n ≠ "")
    (steps : List EditorStep) (admits : (start s recents ids).AdmitsRun c steps) :
    let d := (start s recents ids).run c steps
    d.Coherent c ∧ (s.selectedNodes.Nodup → d.editor.selection.nodeIds.Nodup) := by
  have regular := start_regular (c := c) recents distinct spent links names
  refine ⟨(run_regular steps admits regular).coherent, fun once => ?_⟩
  exact (run_unrepeated steps admits regular (start_unrepeated recents ids once)).chosen

theorem admits_openCommandSurface (x y : Float) (query : Text) (d : Desk) :
    d.Admits (.openCommandSurface (.float x) (.float y) query) := ⟨⟨x, y⟩, rfl⟩

def paletteCatalog : Catalog where
  templates := [
    { type := "event", category := .events, context := .host, label := "Event"
      outputs := [{ name := "exec", type := .flow }] },
    { type := "log", category := .output, context := .host, label := "Log"
      inputs := [{ name := "exec", type := .flow }] }]
  faultless := by decide

def palette : Script :=
  { id := "palette"
    name := "Palette"
    nodes := [{ id := "event", type := "event" }, { id := "log", type := "log" }]
    connections :=
      [{ id := "c0", fromNode := "event", fromPort := "exec", toNode := "log", toPort := "exec" }]
    selectedNodes := ["gone", "log"] }

def paletteRun : List EditorStep :=
  [.openCommandSurface (.float 40) (.float 20) "l", .searchOn { query := "log" } {},
    .commitCommand (some "log"), .clickConnection (some "c0"), .deleteSelection,
    .beginConnection (some "event") (some "exec"), .clickNode (some "gone") false]

theorem run_coherent_palette :
    (palette.nodes.map Node.id).Nodup ∧
      (∀ id ∈ palette.nodes.map Node.id, ({} : IdSupply).Spent id) ∧
      ("" : Text) ∉ palette.connections.map Connection.id ∧ (∀ n, ({} : IdSupply).name n ≠ "") ∧
      (start palette {} {}).AdmitsRun paletteCatalog paletteRun ∧
      ((start palette {} {}).run paletteCatalog paletteRun).Coherent paletteCatalog ∧
      ((start palette {} {}).run paletteCatalog paletteRun).editor.selection.nodeIds.Nodup := by
  have distinct : (palette.nodes.map Node.id).Nodup := by decide
  have spent : ∀ id ∈ palette.nodes.map Node.id, ({} : IdSupply).Spent id := by
    simp only [palette, List.map_cons, List.map_nil, List.forall_mem_cons]
    refine ⟨?_, ?_, by simp⟩ <;> exact fun n _ => IdSupply.idText_ne (by decide)
  have links : ("" : Text) ∉ palette.connections.map Connection.id := by decide
  have names : ∀ n, ({} : IdSupply).name n ≠ "" := fun n => IdSupply.idText_ne (by decide)
  have admits : (start palette {} {}).AdmitsRun paletteCatalog paletteRun :=
    ⟨admits_openCommandSurface _ _ _ _, rfl, trivial, trivial, trivial, trivial, trivial, trivial⟩
  obtain ⟨coherent, once⟩ :=
    run_coherent paletteCatalog palette {} {} distinct spent links names paletteRun admits
  exact ⟨distinct, spent, links, names, admits, coherent, once (by decide)⟩

example : ((start palette {} {}).run paletteCatalog paletteRun).editor =
    .resting (.drag "event" "exec") := by decide +kernel

end Desk

end NodeScript
