import NodeScript.Proofs.Workspace.Each
import NodeScript.Workspace.Commands
import NodeScript.Workspace.Programs
import NodeScript.Workspace.Saving
import NodeScript.Workspace.Scripts

namespace NodeScript

/-- The operations of a workspace. A search is left with the session and the recent types that the
work on it makes. -/
inductive WorkspaceStep where
  | start
  | clear
  | createScript (name : Text) (description : Option Text)
  | renameScript (id : Option Text) (name : Text)
  | duplicateScript (id name : Option Text)
  | deleteScript (id : Option Text) (confirmed : Bool)
  | selectScript (id : Option Text)
  | addNode (script : Option Text) (draft : NodeDraft)
  | updateNode (script node : Option Text) (change : NodeChange)
  | connect (script : Option Text) (link : LinkDraft)
  | deleteConnection (script connection : Option Text)
  | addVariable (script : Option Text) (draft : VariableDraft)
  | deleteVariable (script id : Option Text)
  | editor (script : Option Text)
  | clickNode (script node : Option Text) (additive : Bool)
  | clickConnection (script connection : Option Text)
  | clickCanvas (script : Option Text)
  | selectAll (script : Option Text)
  | beginConnection (script node port : Option Text)
  | releaseConnection (script node port : Option Text)
  | deleteNode (script node : Option Text)
  | deleteSelection (script : Option Text)
  | duplicateSelection (script : Option Text) (offset : Float)
  | moveSelection (script : Option Text) (dx dy : Float)
  | renameNode (script node : Option Text) (label : Text)
  | openCommandSurface (script : Option Text) (x y : Json) (query : Text)
  | search (script : Option Text) (work : Session → Recents → Unit × Session × Recents)
  | commitCommand (script type : Option Text)
  | cancelCommand (script : Option Text)
  | compile (script : Option Text)
  | listing (script : Option Text)
  | saveProject (time : String)
  | loadProject

namespace WorkspaceStep

/-- The script that is worked on, by a step on its nodes, connections, variables, selection or
surface. -/
def script? : WorkspaceStep → Option (Option Text)
  | .addNode script _ | .updateNode script _ _ | .connect script _ | .deleteConnection script _
  | .addVariable script _ | .deleteVariable script _ | .editor script | .clickNode script _ _
  | .clickConnection script _ | .clickCanvas script | .selectAll script
  | .beginConnection script _ _ | .releaseConnection script _ _ | .deleteNode script _
  | .deleteSelection script | .duplicateSelection script _ | .moveSelection script _ _
  | .renameNode script _ _ | .openCommandSurface script _ _ _ | .search script _
  | .commitCommand script _ | .cancelCommand script | .compile script | .listing script => some script
  | _ => none

def copies : WorkspaceStep → Bool
  | .duplicateSelection .. => true
  | _ => false

end WorkspaceStep

def Outcome.answering {α β : Type} (f : α → β) (o : Outcome α) : Outcome β :=
  { answer := o.answer.map f, announcements := o.announcements, workspace := o.workspace }

namespace Workspace

/-- A step with all that comes of it. Of the answers only what a delete gives is told. -/
def perform (c : Catalog) (w : Workspace) : WorkspaceStep → Outcome (Option Deletion)
  | .start => (w.start c).answering fun _ => none
  | .clear => (w.clear).answering fun _ => none
  | .createScript name description => (w.createScript name description).answering fun _ => none
  | .renameScript id name => (w.renameScript id name).answering fun _ => none
  | .duplicateScript id name => (w.duplicateScript id name).answering fun _ => none
  | .deleteScript id confirmed => (w.deleteScript id confirmed).answering fun _ => none
  | .selectScript id => (w.selectScript id).answering fun _ => none
  | .addNode script draft => (w.addNode c script draft).answering fun _ => none
  | .updateNode script node change => (w.updateNode script node change).answering fun _ => none
  | .connect script link => (w.connect c script link).answering fun _ => none
  | .deleteConnection script connection => (w.deleteConnection c script connection).answering fun _ => none
  | .addVariable script draft => (w.addVariable script draft).answering fun _ => none
  | .deleteVariable script id => (w.deleteVariable script id).answering fun _ => none
  | .editor script => (w.editor script).answering fun _ => none
  | .clickNode script node additive => (w.clickNode script node additive).answering fun _ => none
  | .clickConnection script connection => (w.clickConnection script connection).answering fun _ => none
  | .clickCanvas script => (w.clickCanvas script).answering fun _ => none
  | .selectAll script => (w.selectAll script).answering fun _ => none
  | .beginConnection script node port => (w.beginConnection c script node port).answering fun _ => none
  | .releaseConnection script node port => (w.releaseConnection c script node port).answering fun _ => none
  | .deleteNode script node => (w.deleteNode c script node).answering some
  | .deleteSelection script => (w.deleteSelection c script).answering some
  | .duplicateSelection script offset => (w.duplicateSelection c script offset).answering fun _ => none
  | .moveSelection script dx dy => (w.moveSelection script dx dy).answering fun _ => none
  | .renameNode script node label => (w.renameNode script node label).answering fun _ => none
  | .openCommandSurface script x y query => (w.openCommandSurface c script x y query).answering fun _ => none
  | .search script work => (w.atSession script work).answering fun _ => none
  | .commitCommand script type => (w.commitCommand c script type).answering fun _ => none
  | .cancelCommand script => (w.cancelCommand script).answering fun _ => none
  | .compile script => (w.compile c script).answering fun _ => none
  | .listing script => (w.listing c script).answering fun _ => none
  | .saveProject time => (w.saveProject time).answering fun _ => none
  | .loadProject => (w.loadProject c).answering fun _ => none

def after (c : Catalog) (w : Workspace) (step : WorkspaceStep) : Workspace := (w.perform c step).workspace

section

variable {c : Catalog} {P : Script → Editor → Prop} {w : Workspace}

theorem releaseConnection_each (script node port : Option Text) (steady : Steady c P)
    (each : w.Each P) : (w.releaseConnection c script node port).workspace.Each P := by
  refine atDesk_each steady each fun d => ?_
  split
  · rename_i node port
    have led := Desk.after_leads steady (.releaseOnPort (some node) (some port)) rfl d
    simp only [Desk.after] at led
    split <;> rename_i released <;> rw [released] at led <;> exact led
  · exact Desk.after_leads steady .releaseElsewhere rfl d

theorem announceDeletion_desk (outcome : Except GraphError Deletion × Desk) :
    (announceDeletion outcome).2.2 = outcome.2 := by
  unfold announceDeletion
  split <;> rfl

theorem editor_each (script : Option Text) (steady : Steady c P) (each : w.Each P) :
    (w.editor script).workspace.Each P :=
  atDesk_each steady each fun _ => .refl

theorem deleteNode_each (script node : Option Text) (steady : Steady c P) (each : w.Each P) :
    (w.deleteNode c script node).workspace.Each P := by
  refine atDesk_each steady each fun d => ?_
  rw [announceDeletion_desk]
  exact Desk.after_leads steady (.deleteNode node) rfl d

theorem deleteSelection_each (script : Option Text) (steady : Steady c P) (each : w.Each P) :
    (w.deleteSelection c script).workspace.Each P := by
  refine atDesk_each steady each fun d => ?_
  rw [announceDeletion_desk]
  exact Desk.after_leads steady .deleteSelection rfl d

theorem moveSelection_each (script : Option Text) (dx dy : Float) (steady : Steady c P) (each : w.Each P) :
    (w.moveSelection script dx dy).workspace.Each P :=
  atDesk_each steady each (Desk.after_leads steady (.moveSelection dx dy) rfl)

theorem cancelCommand_each (script : Option Text) (steady : Steady c P) (each : w.Each P) :
    (w.cancelCommand script).workspace.Each P :=
  atDesk_each steady each (Desk.after_leads steady .cancelCommand rfl)

theorem duplicateSelection_each (script : Option Text) (offset : Float) (steady : Steady c P)
    (each : w.Each P) : (w.duplicateSelection c script offset).workspace.Each P := by
  refine atDesk_each steady each fun d => ?_
  have led := Desk.after_leads steady (.duplicateSelection offset) rfl d
  simp only [Desk.after] at led
  split <;> rename_i copied <;> rw [copied] at led <;> exact led

theorem renameNode_each (script node : Option Text) (label : Text) (steady : Steady c P)
    (each : w.Each P) : (w.renameNode script node label).workspace.Each P := by
  refine atDesk_each steady each fun d => ?_
  have led := Desk.after_leads steady (.renameNode node label) rfl d
  simp only [Desk.after] at led
  split <;> rename_i renamed <;> rw [renamed] at led <;> exact led

theorem openCommandSurface_each (script : Option Text) (x y : Json) (query : Text)
    (steady : Steady c P) (each : w.Each P) :
    (w.openCommandSurface c script x y query).workspace.Each P := by
  refine atDesk_each steady each fun d => ?_
  have led := Desk.after_leads steady (.openCommandSurface x y query) rfl d
  simp only [Desk.after] at led
  split <;> rename_i opened <;> rw [opened] at led <;> exact led

/-- What a step has to keep besides: what held of the editor holds of it when a connection of its
script was deleted, and of the session that the work on a search leaves. -/
def Allows (c : Catalog) (P : Script → Editor → Prop) (w : Workspace) : WorkspaceStep → Prop
  | .deleteConnection script connection => ∀ s t removed found, w.script script = .ok s →
      s.deleteConnection c connection = .ok (removed, t) → w.editors.lookup s.id = some found →
      P s found.editor → P t found.editor
  | .search _ work => ∀ s e session recents, e.session? = some session → P s e →
      P s (e.withSession (work session recents).2.1)
  | _ => True

theorem atSession_each {α : Type} {script : Option Text} {work : Session → Recents → α × Session × Recents}
    (kept : ∀ s e session recents, e.session? = some session → P s e →
      P s (e.withSession (work session recents).2.1))
    (steady : Steady c P) (each : w.Each P) : (w.atSession script work).workspace.Each P := by
  refine atDesk_each steady each fun d => ?_
  split
  · exact .refl
  · rename_i session there
    exact ⟨rfl, kept d.script d.editor session d.recents there⟩

theorem commitCommand_of_desk {motive : Outcome (Option Node) → Prop} (script type : Option Text)
    (desk : motive (w.atDesk script fun d =>
      match d.commitCommand c type with
      | .error e => (.error (.graph e), [], d)
      | .ok (n, d) => (.ok n, n.toList.flatMap (commitAnnouncements d.script.id), d)))
    (stored : ∀ o, motive o → motive { o with workspace := o.workspace.saveRecents }) :
    motive (w.commitCommand c script type) := by
  unfold commitCommand
  dsimp only
  split
  · exact stored _ desk
  · exact desk

theorem commitCommand_each (script type : Option Text) (steady : Steady c P) (each : w.Each P) :
    (w.commitCommand c script type).workspace.Each P := by
  refine commitCommand_of_desk (motive := fun o => o.workspace.Each P) script type ?_ fun o left =>
    left.congr rfl rfl
  refine atDesk_each steady each fun d => ?_
  have led := Desk.after_leads steady (.commitCommand type) rfl d
  simp only [Desk.after] at led
  split <;> rename_i committed <;> rw [committed] at led <;> exact led

theorem addNode_each (script : Option Text) (draft : NodeDraft) (steady : Steady c P)
    (each : w.Each P) : (w.addNode c script draft).workspace.Each P := by
  refine onScript_each each fun s here => ?_
  split
  · exact each
  · rename_i n t ids added
    rw [Script.addNode_extends added]
    have extended : (w.setScript { s with nodes := s.nodes ++ [n] }).Each P :=
      extend_each steady each here rfl
        (.of_append [n] [] rfl (List.append_nil _).symm) rfl rfl
    exact extended.congr rfl rfl

theorem updateNode_each (script node : Option Text) (change : NodeChange)
    (steady : Steady c P) (each : w.Each P) : (w.updateNode script node change).workspace.Each P := by
  refine onScript_each each fun s here => ?_
  split
  · exact each
  · rename_i n t changed
    obtain ⟨nodes, rfl, same⟩ := Script.changeNode_shape change.apply (fun _ => rfl)
      (fun _ => rfl) changed
    exact extend_each steady each here rfl (.of_shape same rfl) rfl rfl

theorem connect_each (script : Option Text) (link : LinkDraft) (steady : Steady c P)
    (each : w.Each P) : (w.connect c script link).workspace.Each P := by
  refine onScript_each each fun s here => ?_
  split
  · exact each
  · rename_i k t ids connected
    obtain ⟨_, _, rfl⟩ := Script.connect_extends connected
    have extended : (w.setScript { s with connections := s.connections ++ [k] }).Each P :=
      extend_each steady each here rfl
        (.of_append [] [k] (List.append_nil _).symm rfl) rfl rfl
    exact extended.congr rfl rfl

theorem addVariable_each (script : Option Text) (draft : VariableDraft) (steady : Steady c P)
    (each : w.Each P) : (w.addVariable script draft).workspace.Each P := by
  refine onScript_each each fun s here => ?_
  have extended : (w.setScript (s.addVariable draft w.ids).2.1).Each P :=
    extend_each steady each here rfl (.of_shape rfl rfl) rfl rfl
  exact extended.congr rfl rfl

theorem deleteVariable_each (script id : Option Text) (steady : Steady c P) (each : w.Each P) :
    (w.deleteVariable script id).workspace.Each P := by
  refine onScript_each each fun s here => ?_
  split
  · exact each
  · rename_i t deleted
    unfold Script.deleteVariable at deleted
    split at deleted
    · cases deleted
      exact extend_each steady each here rfl (.of_shape rfl rfl) rfl rfl
    · cases deleted

theorem deleteConnection_each {script connection : Option Text}
    (allowed : w.Allows c P (.deleteConnection script connection)) (each : w.Each P) :
    (w.deleteConnection c script connection).workspace.Each P := by
  unfold deleteConnection onScript
  cases found : w.script script with
  | error e => exact each
  | ok s =>
      cases deleted : s.deleteConnection c connection with
      | error e =>
          simp only [deleted]
          exact each
      | ok result =>
          obtain ⟨removed, t⟩ := result
          simp only [deleted]
          have named : t.id = s.id := by
            obtain ⟨k, _, cut⟩ := ok_of_bind deleted
            cases cut
            rfl
          exact setScript_each each (script_found found) named fun held =>
            allowed s t removed held found deleted

theorem renameScript_each (id : Option Text) (name : Text) (steady : Steady c P) (each : w.Each P) :
    (w.renameScript id name).workspace.Each P := by
  unfold renameScript
  split
  · exact each
  · rename_i t project renamed
    obtain ⟨s, found, named, rfl⟩ := Project.renameScript_ok renamed
    obtain ⟨name, rfl⟩ := Script.setName_fields named
    have here : w.project.script? s.id = some s := requireScript_found found
    have extended : (w.setScript { s with name }).Each P :=
      extend_each steady each here rfl (.of_shape rfl rfl) rfl rfl
    exact extended.congr rfl rfl

theorem deleteScript_each (id : Option Text) (confirmed : Bool) (each : w.Each P) :
    (w.deleteScript id confirmed).workspace.Each P := by
  refine onScript_each each fun s here => ?_
  split
  · split
    · exact each
    · rename_i gone project deleted
      obtain ⟨u, found, deleted⟩ := ok_of_bind deleted
      cases deleted
      obtain rfl : s = gone := Option.some.inj (here.symm.trans (Project.requireScript_iff.mp found))
      exact each.removed rfl rfl
  · exact each

theorem selectScript_each (id : Option Text) (each : w.Each P) :
    (w.selectScript id).workspace.Each P := by
  unfold selectScript
  split
  · exact each
  · rename_i s project chosen
    refine each.congr ?_ rfl
    unfold Project.setCurrentScript at chosen
    split at chosen
    · cases chosen
      rfl
    · obtain ⟨u, _, chosen⟩ := ok_of_bind chosen
      cases chosen
      rfl

theorem duplicateScript_each (id name : Option Text) (each : w.Each P) :
    (w.duplicateScript id name).workspace.Each P := by
  unfold duplicateScript
  split
  · exact each
  · rename_i s project ids copied
    obtain ⟨source, _, copied⟩ := ok_of_bind copied
    cases copied
    exact each.added rfl rfl

theorem compile_each (script : Option Text) (each : w.Each P) : (w.compile c script).workspace.Each P :=
  onScript_each each fun _ _ => each

theorem listing_each (script : Option Text) (each : w.Each P) : (w.listing c script).workspace.Each P :=
  onScript_each each fun _ _ => each

theorem saveProject_each (time : String) (each : w.Each P) :
    (w.saveProject time).workspace.Each P := by
  unfold saveProject
  split
  · exact each
  · split <;> exact each.congr rfl rfl

theorem loadProject_each (each : w.Each P) : (w.loadProject c).workspace.Each P := by
  unfold loadProject
  split
  · exact each
  · exact each_of_noEditors rfl

theorem start_each (each : w.Each P) : (w.start c).workspace.Each P := by
  have recalled : (w.loadRecents c).Each P := by
    unfold loadRecents
    split
    · exact each
    · exact each.congr rfl rfl
  unfold start
  dsimp only
  split
  · exact loadProject_each recalled
  · exact recalled

/-- What is kept at every desk holds of every editor again. -/
theorem after_each (steady : Steady c P) (step : WorkspaceStep) (allowed : w.Allows c P step)
    (each : w.Each P) : (w.after c step).Each P := by
  cases step with
  | start => exact start_each each
  | clear => exact each_of_noEditors rfl
  | createScript name description => exact each.added rfl rfl
  | renameScript id name => exact renameScript_each id name steady each
  | duplicateScript id name => exact duplicateScript_each id name each
  | deleteScript id confirmed => exact deleteScript_each id confirmed each
  | selectScript id => exact selectScript_each id each
  | addNode script draft => exact addNode_each script draft steady each
  | updateNode script node change => exact updateNode_each script node change steady each
  | connect script link => exact connect_each script link steady each
  | deleteConnection script connection => exact deleteConnection_each allowed each
  | addVariable script draft => exact addVariable_each script draft steady each
  | deleteVariable script id => exact deleteVariable_each script id steady each
  | editor script => exact editor_each script steady each
  | clickNode script node additive =>
      exact select_each steady each (Desk.after_leads steady (.clickNode node additive) rfl)
  | clickConnection script connection =>
      exact select_each steady each (Desk.after_leads steady (.clickConnection connection) rfl)
  | clickCanvas script => exact select_each steady each (Desk.after_leads steady .clickCanvas rfl)
  | selectAll script => exact select_each steady each (Desk.after_leads steady .selectAll rfl)
  | beginConnection script node port =>
      exact select_each steady each (Desk.after_leads steady (.beginConnection node port) rfl)
  | releaseConnection script node port => exact releaseConnection_each script node port steady each
  | deleteNode script node => exact deleteNode_each script node steady each
  | deleteSelection script => exact deleteSelection_each script steady each
  | duplicateSelection script offset => exact duplicateSelection_each script offset steady each
  | moveSelection script dx dy => exact moveSelection_each script dx dy steady each
  | renameNode script node label => exact renameNode_each script node label steady each
  | openCommandSurface script x y query => exact openCommandSurface_each script x y query steady each
  | search script work => exact atSession_each allowed steady each
  | commitCommand script type => exact commitCommand_each script type steady each
  | cancelCommand script => exact cancelCommand_each script steady each
  | compile script => exact compile_each script each
  | listing script => exact listing_each script each
  | saveProject time => exact saveProject_each time each
  | loadProject => exact loadProject_each each

end

end Workspace

end NodeScript
