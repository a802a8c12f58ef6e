import NodeScript.Proofs.Editor.Run
import NodeScript.Proofs.Project.Run

/-!
Work at an open command surface. Whatever is done at the desk while a surface stays open, be it opened
anew, searched, refused or done to the script behind the editor's back, the surface keeps the selection
it was first opened on, and the editor itself neither adds nor removes a node or a connection. So closing
it brings that selection back, cut to what the script still has.
-/
namespace NodeScript

/-- The part of a selection that is among the nodes and connections of the script. -/
def Selection.cutTo (s : Script) : Selection → Selection
  | nodes ids => ofNodes (ids.filter fun id => decide (id ∈ s.nodes.map Node.id))
  | connection id => if id ∈ s.connections.map Connection.id then connection id else nothing
  | other => other

/-- The selection as two fields of a script tell it. -/
inductive Selection.Fields : Selection → List Text → Option Text → Prop
  | nothing : Fields .nothing [] none
  | nodes (ids : List Text) : Fields (.nodes ids) ids none
  | connection (id : Text) : Fields (.connection id) [] (some id)
  | drag (node port : Text) : Fields (.drag node port) [] none

/-- What is done at the editor of a desk, and what is done to its script directly. -/
inductive DeskStep where
  | editor (step : EditorStep)
  | graph (step : ScriptStep)

namespace Desk

/-- The desk after a step of either kind, failed or not. -/
def next (c : Catalog) (d : Desk) : DeskStep → Desk
  | .editor step => d.after c step
  | .graph step => { d with script := (d.script.after c d.ids step).1, ids := (d.script.after c d.ids step).2 }

def course (c : Catalog) (d : Desk) (steps : List DeskStep) : Desk := steps.foldl (next c) d

/-- A command surface is open at the start of the course and after each of its steps. -/
def StaysOpen (c : Catalog) (d : Desk) : List DeskStep → Prop
  | [] => d.editor.modeName = "CommandSurfaceOpen"
  | step :: rest => d.editor.modeName = "CommandSurfaceOpen" ∧ (d.next c step).StaysOpen c rest

/-- The selection to be brought back is kept, and so is the graph, nodes moved or renamed apart. -/
structure Overlaid (d e : Desk) : Prop where
  prior : prior e.editor = prior d.editor
  shape : shape e.script.nodes = shape d.script.nodes
  connections : e.script.connections = d.script.connections

/-- A surface that is open now was open before and brings back the same. -/
def Lasts (d e : Desk) : Prop := e.editor.surface?.isSome = true → Overlaid d e

end Desk

theorem Selection.present_eq_cutTo {selection : Selection} (named : selection ≠ .connection "") (s : Script) :
    selection.present s = selection.cutTo s := by
  cases selection with
  | nothing | drag => rfl
  | nodes ids =>
      simp only [present, cutTo]
      congr 1
      apply List.filter_congr
      intro id _
      rw [Bool.eq_iff_iff, decide_eq_true_eq, Script.node?_isSome]
  | connection id =>
      have given : id ≠ "" := fun same => named (congrArg _ same)
      by_cases there : id ∈ s.connections.map Connection.id
      · have found := Option.isSome_iff_ne_none.mp (Script.connection?_isSome.mpr there)
        simp only [present, cutTo, there, found, and_false, if_false, if_true]
      · have lost : s.connection? id = none :=
          Option.not_isSome_iff_eq_none.mp fun found => there (Script.connection?_isSome.mp found)
        simp only [present, cutTo, there, given, lost, ne_eq, not_false_eq_true, and_self, if_true, if_false]

theorem Selection.fields (selection : Selection) :
    selection.Fields selection.nodeIds selection.connectionId? := by
  cases selection <;> constructor

theorem Selection.Fields.of_nodes {ids nodes : List Text} {connection : Option Text}
    (fields : (Selection.nodes ids).Fields nodes connection) : nodes = ids ∧ connection = none := by
  cases fields
  exact ⟨rfl, rfl⟩

namespace Desk

section

variable {c : Catalog} {d e f : Desk} {surface : CommandSurface}

theorem Overlaid.refl : Overlaid d d := ⟨rfl, rfl, rfl⟩

theorem Overlaid.trans (first : Overlaid d e) (second : Overlaid e f) : Overlaid d f :=
  ⟨second.prior.trans first.prior, second.shape.trans first.shape,
    second.connections.trans first.connections⟩

theorem Overlaid.lasts (overlaid : Overlaid d e) : Lasts d e := fun _ => overlaid

theorem Lasts.of_none (rests : e.editor.surface? = none) : Lasts d e := by
  intro open?
  rw [rests] at open?
  cases open?

theorem cancelCommand_surface? (d : Desk) : d.cancelCommand.editor.surface? = none := by
  unfold cancelCommand
  split
  · rename_i held
    rw [held]
    rfl
  · rfl

theorem refresh_surface? (d : Desk) : d.refresh.editor.surface? = d.editor.surface? := by
  unfold refresh
  split
  · rename_i held
    rw [held]
    rfl
  · rfl

theorem refresh_commanding (held : d.editor = .commanding surface) :
    d.refresh = { d with script := d.script.recordSelection .nothing } := by
  simp only [refresh, held]

theorem refresh_overlaid (held : d.editor = .commanding surface) : Overlaid d d.refresh := by
  rw [refresh_commanding held]
  exact ⟨rfl, rfl, rfl⟩

theorem clickNode_surface? {id : Option Text} {additive : Bool} (ok : d.clickNode id additive = .ok e) :
    e.editor.surface? = none := by
  obtain ⟨n, _, rfl⟩ := clickNode_ok ok
  rfl

theorem deleteSelection_surface? (rests : d.editor.surface? = none) :
    (d.deleteSelection c).2.editor.surface? = none := by
  rcases deleteSelection_cases c d with same | ⟨s, chosen⟩
  · rw [same, refresh_surface?, rests]
  · rw [chosen]
    rfl

theorem deleteSelection_commanding (held : d.editor = .commanding surface) :
    (d.deleteSelection c).2 = d.refresh := by
  have none : d.refresh.deletePresent c = .ok (.nothingSelected, d.refresh) := by
    rw [refresh_commanding held]
    simp only [deletePresent, held, Editor.selection]
  simp only [deleteSelection, none]

theorem duplicateSelection_commanding (offset : Float) (held : d.editor = .commanding surface) :
    (d.duplicateSelection c offset).2 = d.refresh := by
  unfold duplicateSelection
  rw [refresh_commanding held]
  simp only [held, Editor.selection]

theorem openCommandSurface_overlaid (x y : Json) (query : Text) (d : Desk) :
    Overlaid d (d.openCommandSurface c x y query).2 := by
  unfold openCommandSurface
  split
  · exact ⟨rfl, rfl, rfl⟩
  · refine ⟨?_, rfl, rfl⟩
    cases held : d.editor <;> rfl

theorem commitCommand_lasts {type : Option Text} {n : Option Node} (ok : d.commitCommand c type = .ok (n, e)) :
    Lasts d e := by
  rcases commitCommand_cases ok with ⟨_, rfl⟩ | ⟨_, _, _, _, _, _, _, _, rfl⟩
  · exact Overlaid.refl.lasts
  · exact .of_none rfl

theorem beginConnection_surface? {node port : Option Text} (ok : d.beginConnection c node port = .ok e) :
    e.editor.surface? = none := by
  obtain ⟨n, t, output, _, _, _, rfl⟩ := beginConnection_ok ok
  rfl

theorem renameScript_overlaid {name : Text} {s : Script} (ok : d.script.setName name = .ok s) :
    Overlaid d { d with script := s } := by
  obtain ⟨_, rfl⟩ := Script.setName_fields ok
  exact ⟨rfl, rfl, rfl⟩

theorem renameNode_overlaid {id : Option Text} {label : Text} {n : Node} {s : Script}
    (ok : d.script.renameNode id label = .ok (n, s)) : Overlaid d { d with script := s } := by
  obtain ⟨nodes, rfl, same⟩ := Script.renameNode_shape ok
  exact ⟨rfl, same, rfl⟩

/-- At an open surface a step of the editor closes it or keeps what it brings back, and the graph. -/
theorem after_lasts (step : EditorStep) (held : d.editor = .commanding surface) :
    Lasts d (d.after c step) := by
  have same : Lasts d d := Overlaid.refl.lasts
  cases step with
  | reopen | clickCanvas | selectAll => exact .of_none rfl
  | clickNode id additive => exact orSame_of same fun _ ok => .of_none (clickNode_surface? ok)
  | clickConnection id =>
      refine orSame_of same fun _ ok => ?_
      obtain ⟨k, _, rfl⟩ := clickConnection_ok ok
      exact .of_none rfl
  | beginConnection node port =>
      exact orSame_of same fun _ ok => .of_none (beginConnection_surface? ok)
  | releaseOnPort node port =>
      have none : d.dragLink? node port = none := by simp only [dragLink?, held]
      simp only [after, releaseOnPort, none]
      exact same
  | releaseElsewhere =>
      simp only [after, releaseElsewhere, held]
      exact same
  | openCommandSurface x y query => exact (openCommandSurface_overlaid x y query d).lasts
  | searchOn session recents =>
      refine Overlaid.lasts ⟨?_, rfl, rfl⟩
      simp only [after, setSession, held]
      rfl
  | commitCommand type => exact orSame_of same fun _ ok => commitCommand_lasts ok
  | cancelCommand => exact .of_none (cancelCommand_surface? d)
  | deleteSelection =>
      rw [after, deleteSelection_commanding held]
      exact (refresh_overlaid held).lasts
  | deleteNode id =>
      simp only [after, deleteNode]
      cases clicked : d.clickNode id false with
      | error => exact same
      | ok e => exact .of_none (deleteSelection_surface? (clickNode_surface? clicked))
  | duplicateSelection offset =>
      rw [after, duplicateSelection_commanding offset held]
      exact (refresh_overlaid held).lasts
  | moveSelection dx dy =>
      have moved : Overlaid d.refresh (d.moveSelection dx dy).2 := ⟨rfl, moveSelection_shape dx dy d, rfl⟩
      exact ((refresh_overlaid held).trans moved).lasts
  | renameScript name => exact orSame_of same fun _ ok => (renameScript_overlaid ok).lasts
  | renameNode id label => exact orSame_of same fun _ ok => (renameNode_overlaid ok).lasts

theorem StaysOpen.commanding {steps : List DeskStep} (stays : d.StaysOpen c steps) :
    ∃ surface, d.editor = .commanding surface := by
  have mode : d.editor.modeName = "CommandSurfaceOpen" := by
    cases steps with
    | nil => exact stays
    | cons => exact stays.1
  have open? := (Editor.surfaceOpen_iff d.editor).mp mode
  cases held : d.editor with
  | commanding surface => exact ⟨surface, rfl⟩
  | resting =>
      rw [held] at open?
      cases open?

theorem StaysOpen.overlaid {step : EditorStep} {rest : List DeskStep}
    (stays : d.StaysOpen c (.editor step :: rest)) : Overlaid d (d.after c step) := by
  obtain ⟨surface, held⟩ := stays.commanding
  obtain ⟨surface', held'⟩ := stays.2.commanding
  apply after_lasts step held
  rw [next] at held'
  rw [held']
  rfl

theorem next_prior {step : DeskStep} {rest : List DeskStep} (stays : d.StaysOpen c (step :: rest)) :
    prior (d.next c step).editor = prior d.editor := by
  cases step with
  | editor step => exact stays.overlaid.prior
  | graph step => rfl

/-- Over the whole course the surface keeps what it brings back. -/
theorem course_prior (steps : List DeskStep) (stays : d.StaysOpen c steps) :
    (d.course c steps).StaysOpen c [] ∧ prior (d.course c steps).editor = prior d.editor := by
  induction steps generalizing d with
  | nil => exact ⟨stays, rfl⟩
  | cons step rest ih =>
      obtain ⟨last, kept⟩ := ih stays.2
      exact ⟨last, kept.trans (next_prior stays)⟩

theorem StaysOpen.split {before rest : List DeskStep} (stays : d.StaysOpen c (before ++ rest)) :
    (d.course c before).StaysOpen c rest := by
  induction before generalizing d with
  | nil => exact stays
  | cons step before ih => exact ih stays.2

theorem prior_of_mode (rests : d.editor.modeName ≠ "CommandSurfaceOpen") :
    prior d.editor = d.editor.selection := by
  cases held : d.editor with
  | resting => rfl
  | commanding surface =>
      rw [held] at rests
      exact absurd rfl rests

end

/-- A desk at rest on which a surface is opened, worked at and cancelled is at rest as it was, but for
what the script lost meanwhile, and the script's two fields tell what is selected; the search is closed
and gone, and no step of the editor on the way added or removed a node or a connection. No id is empty,
so a selected connection has a name. -/
theorem cancelCommand_restores (c : Catalog) (d : Desk) (x y : Json) (query : Text)
    (steps : List DeskStep) (rests : d.editor.modeName ≠ "CommandSurfaceOpen")
    (named : d.editor.selection ≠ .connection "")
    (stays : (d.openCommandSurface c x y query).2.StaysOpen c steps) :
    let opened := (d.openCommandSurface c x y query).2
    let last := opened.course c steps
    let kept := d.editor.selection.cutTo last.script
    let closed := last.cancelCommand
    closed.editor = .resting kept none ∧
      kept.Fields closed.script.selectedNodes closed.script.selectedConnection ∧
      closed.script = { last.script with
        selectedNodes := closed.script.selectedNodes
        selectedConnection := closed.script.selectedConnection } ∧
      (∃ search, last.editor.session? = some search ∧
        closed.ended = some { search with closed := true }) ∧
      ∀ before step rest, steps = before ++ .editor step :: rest →
        let e := opened.course c before
        shape (e.after c step).script.nodes = shape e.script.nodes ∧
          (e.after c step).script.connections = e.script.connections := by
  intro opened last kept closed
  -- What the open surface holds is the selection of before, so only the script can have cut it.
  obtain ⟨still, same⟩ := course_prior steps stays
  obtain ⟨surface, held⟩ := still.commanding
  have brought : surface.prior = d.editor.selection := by
    rw [← prior_of_mode rests, ← (openCommandSurface_overlaid x y query d).prior, ← same, held, prior]
  have cut : surface.prior.present last.script = kept := by
    rw [brought]
    exact Selection.present_eq_cutTo named last.script
  have cancelled : closed = { toDesk := last.choose kept, ended := some surface.session.close } := by
    rw [← cut]
    change last.cancelCommand = _
    rw [cancelCommand, held]
  refine ⟨?_, ?_, ?_, ?_, ?_⟩
  · rw [cancelled, choose, held]
    rfl
  · rw [cancelled]
    exact kept.fields
  · rw [cancelled]
    rfl
  · exact ⟨surface.session, by rw [held]; rfl, by rw [cancelled]; rfl⟩
  · rintro before step rest rfl e
    have overlaid := (StaysOpen.split stays).overlaid
    exact ⟨overlaid.shape, overlaid.connections⟩

def paletteCourse : List DeskStep :=
  [.editor (.openCommandSurface (.float 8) (.float 9) "e"), .editor (.searchOn { query := "log" } {}),
    .editor .deleteSelection, .editor (.clickNode (some "gone") false), .graph (.deleteNode (some "log")),
    .editor (.duplicateSelection 40), .editor (.renameNode (some "event") "Start")]

def paletteDesk : Desk := start { palette with selectedNodes := ["event", "log"] } {} {}

def paletteOpened : Desk := (paletteDesk.openCommandSurface paletteCatalog (.float 40) (.float 20) "l").2

def paletteClosed : ClosedDesk := (paletteOpened.course paletteCatalog paletteCourse).cancelCommand

theorem cancelCommand_restores_palette :
    paletteDesk.editor.modeName ≠ "CommandSurfaceOpen" ∧ paletteDesk.editor.selection ≠ .connection "" ∧
      paletteOpened.StaysOpen paletteCatalog paletteCourse ∧
      paletteClosed.editor = .resting (.nodes ["event"]) none ∧
      paletteClosed.script.selectedNodes = [("event" : Text)] ∧
      paletteClosed.script.selectedConnection = none ∧
      ∃ search, paletteClosed.ended = some search ∧ search.query = "log" ∧ search.closed = true := by
  have rests : paletteDesk.editor.modeName ≠ "CommandSurfaceOpen" := by decide
  have named : paletteDesk.editor.selection ≠ .connection "" := by decide
  have stays : paletteOpened.StaysOpen paletteCatalog paletteCourse := by
    refine ⟨rfl, rfl, rfl, rfl, rfl, rfl, rfl, rfl⟩
  have cut : paletteDesk.editor.selection.cutTo (paletteOpened.course paletteCatalog paletteCourse).script =
      .nodes ["event"] := rfl
  obtain ⟨editor, fields, -, ⟨search, searched, ended⟩, -⟩ := cancelCommand_restores paletteCatalog
    paletteDesk (.float 40) (.float 20) "l" paletteCourse rests named stays
  have told : (Selection.nodes ["event"]).Fields paletteClosed.script.selectedNodes
      paletteClosed.script.selectedConnection := by
    rw [← cut]
    exact fields
  obtain ⟨nodes, connection⟩ := told.of_nodes
  have query : (paletteOpened.course paletteCatalog paletteCourse).editor.session?.map Session.query =
      some ("log" : Text) := rfl
  have searched : (paletteOpened.course paletteCatalog paletteCourse).editor.session? = some search :=
    searched
  rw [searched] at query
  refine ⟨rests, named, stays, ?_, nodes, connection, _, ended, Option.some.inj query, rfl⟩
  rw [← cut]
  exact editor

end Desk

end NodeScript
