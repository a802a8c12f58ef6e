import NodeScript.Proofs.Editor.Refused
import NodeScript.Proofs.Workspace.Run

/-!
Refused operations of a workspace. Whatever the workspace has come to, an operation that is refused
leaves the scripts but for the selections they record, the current script, the recent types and the
files, and every editor as it is found by the next that asks for it; only a drag that was refused is
over. Nothing is announced but a connection that is refused.
-/
namespace NodeScript

namespace EditError

def isRefusal : EditError → Bool
  | .graph _ | .blankName => true
  | .invalid _ | .notWritten _ => false

end EditError

namespace WorkspaceStep

/-- The script in which the step makes a connection. -/
def links? : WorkspaceStep → Option (Option Text)
  | .connect script _ | .releaseConnection script _ _ => some script
  | _ => none

/-- How the editor of a script is found after the step was refused: the drag is over that was begun at
the editor of the step's script. -/
def leaves (w : Workspace) (given : Option Text) (e : Editor) : WorkspaceStep → Editor
  | .releaseConnection script _ _ =>
    if (w.script given).map Script.id = (w.script script).map Script.id then
      .resting .nothing e.leftSearch?
    else e
  | _ => e

end WorkspaceStep

namespace Workspace

/-- All but the editors, the ids that are drawn and the selections that scripts record is the same. -/
structure Undisturbed (w v : Workspace) : Prop where
  scripts : v.project.scripts.map Script.content = w.project.scripts.map Script.content
  current : v.project.currentScript = w.project.currentScript
  recents : v.recents = w.recents
  earlier : v.earlier = w.earlier
  files : v.files = w.files
  lastAudit : v.lastAudit = w.lastAudit

/-- The operation changed nothing and announced nothing. -/
structure Undone {α : Type} (w : Workspace) (o : Outcome α) : Prop extends Undisturbed w o.workspace where
  editors : ∀ given, (o.workspace.editor given).answer = (w.editor given).answer
  silent : o.announcements = []

section

variable {c : Catalog} {w v : Workspace} {s t : Script} {given : Option Text}

theorem Undisturbed.refl : Undisturbed w w := ⟨rfl, rfl, rfl, rfl, rfl, rfl⟩

theorem undone_failed {α : Type} (e : EditError) : Undone w (failed e w : Outcome α) :=
  ⟨.refl, fun _ => rfl, rfl⟩

theorem id_of_content (content : t.content = s.content) : t.id = s.id :=
  (congrArg Script.id content :)

theorem content_replaceScript {p : Project} (found : p.script? t.id = some s)
    (content : t.content = s.content) :
    (p.replaceScript t.id t).scripts.map Script.content = p.scripts.map Script.content := by
  simp only [Project.script?, Project.replaceScript] at found ⊢
  generalize p.scripts = scripts at found ⊢
  induction scripts with
  | nil => cases found
  | cons u rest ih =>
      unfold Project.replaceFirst
      by_cases here : u.id = t.id
      · have same : u = s := by simpa [here] using found
        rw [if_pos here, List.map_cons, List.map_cons, content, same]
      · have later : rest.find? (fun u => decide (u.id = t.id)) = some s := by simpa [here] using found
        rw [if_neg here, List.map_cons, List.map_cons, ih later]

theorem desk_content (s : Script) (w : Workspace) : (w.desk s).script.content = s.content := by
  unfold desk
  split
  · rfl
  · exact Desk.refresh_content _

theorem desk_recents (s : Script) (w : Workspace) :
    (w.desk s).recents = w.recentsIn (w.listOf s.id) := by
  unfold desk listOf
  cases w.editors.lookup s.id with
  | some found => rfl
  | none =>
      have opened : (Desk.start s w.recents w.ids).recents = w.recents := Desk.refresh_recents _
      simp [opened, recentsIn, presentList]

theorem desk_editor (s : Script) (w : Workspace) :
    (w.desk s).editor = (w.editors.lookup s.id).elim (Desk.start s {} {}).editor (·.editor) := by
  unfold desk
  cases w.editors.lookup s.id <;> rfl

theorem editor_answer (given : Option Text) (w : Workspace) :
    (w.editor given).answer = ((w.script given).mapError .graph).map fun s => (w.desk s).editor := by
  unfold editor atDesk onScript
  cases w.script given <;> rfl

theorem setRecents_same (list : Nat) (w : Workspace) :
    (w.setRecents list (w.recentsIn list)).recents = w.recents ∧
      (w.setRecents list (w.recentsIn list)).earlier = w.earlier := by
  unfold setRecents recentsIn
  by_cases before : list < w.presentList
  · rw [if_pos before]
    refine ⟨rfl, ?_⟩
    rw [List.getElem?_eq_getElem before, Option.getD_some]
    exact List.set_getElem_self before
  · rw [if_neg before]
    refine ⟨?_, rfl⟩
    simp [List.getElem?_eq_none (Nat.le_of_not_lt before)]

theorem putDesk_undisturbed {e : Desk} (here : w.project.script? s.id = some s)
    (content : e.script.content = s.content) (recents : e.recents = w.recentsIn (w.listOf s.id)) :
    Undisturbed w (w.putDesk e) := by
  have named := id_of_content content
  have same := setRecents_same (w.listOf s.id) w
  rw [← recents, ← named] at same
  constructor
  · exact content_replaceScript (named ▸ here) content
  · rfl
  · exact same.1
  · exact same.2
  · unfold putDesk setRecents
    dsimp only
    split <;> rfl
  · unfold putDesk setRecents
    dsimp only
    split <;> rfl

theorem putDesk_editor {e : Desk} (here : w.project.script? s.id = some s)
    (named : e.script.id = s.id) (given : Option Text) :
    ((w.putDesk e).editor given).answer = ((w.script given).mapError .graph).map fun u =>
      if u.id = s.id then e.editor else (w.desk u).editor := by
  have project : (w.putDesk e).project = w.project.replaceScript e.script.id e.script := rfl
  rw [editor_answer, script_replaced (named ▸ here) project]
  cases w.script given with
  | error error => rfl
  | ok u =>
      simp only [Except.map, Except.mapError, named, Except.ok.injEq]
      split
      · rw [desk_editor]
        simp [putDesk, Entries.lookup_put]
      · rename_i other
        rw [desk_editor, desk_editor]
        simp [putDesk, Entries.lookup_put, named, other]

theorem putDesk_unmoved {e : Desk} (found : w.script given = .ok s) (unmoved : Desk.Unmoved (w.desk s) e) :
    Undisturbed w (w.putDesk e) ∧ ∀ given, ((w.putDesk e).editor given).answer = (w.editor given).answer := by
  have here := script_found found
  have content := unmoved.content.trans (desk_content s w)
  refine ⟨putDesk_undisturbed here content (unmoved.recents.trans (desk_recents s w)), fun given => ?_⟩
  rw [putDesk_editor here (id_of_content content), editor_answer, unmoved.editor]
  cases looked : w.script given with
  | error error => rfl
  | ok u =>
      simp only [Except.map, Except.mapError, Except.ok.injEq]
      split
      · rename_i same
        have one := script_found looked
        rw [same, here, Option.some.injEq] at one
        rw [one]
      · rfl

theorem selects_steady (c : Catalog) : Steady c Editor.SelectsFrom where
  start := fun _ _ _ => Desk.refresh_selects _
  after := fun step _ _ => Desk.after_selects step
  extended := fun _ _ _ within _ _ => Editor.SelectsFrom.mono within

theorem selects_allows (c : Catalog) (w : Workspace) (step : WorkspaceStep) :
    w.Allows c Editor.SelectsFrom step := by
  cases step with
  | deleteConnection script connection =>
      intro s t removed found _ deleted _ selects id member
      obtain ⟨k, _, cut⟩ := ok_of_bind deleted
      cases cut
      rw [Script.prune_nodes]
      exact selects id member
  | search script work =>
      intro s e session recents _ selects
      unfold Editor.SelectsFrom
      rw [Desk.withSession_selection]
      exact selects
  | _ => trivial

theorem atDesk_undone {α : Type} {work : Desk → Except EditError α × List Announcement × Desk}
    {error : EditError} (c : Catalog) (each : w.Each Editor.SelectsFrom)
    (worked : ∀ d announcements e, d.Selects → work d = (.error error, announcements, e) →
      Desk.Unmoved d e ∧ announcements = [])
    (failed : (w.atDesk given work).answer = .error error) : Undone w (w.atDesk given work) := by
  cases found : w.script given with
  | error e =>
      rw [atDesk_missing found]
      exact undone_failed _
  | ok s =>
      rw [atDesk_eq found] at failed ⊢
      have selects : (w.desk s).Selects := desk_holds (selects_steady c) each (script_found found)
      obtain ⟨unmoved, silent⟩ := worked (w.desk s) _ _ selects (Prod.ext failed rfl)
      obtain ⟨undisturbed, editors⟩ := putDesk_unmoved found unmoved
      exact ⟨undisturbed, editors, silent⟩

theorem atDesk_untouched {α : Type} {work : Desk → Except EditError α × List Announcement × Desk}
    {error : EditError} (c : Catalog) (each : w.Each Editor.SelectsFrom)
    (worked : ∀ d announcements e, work d = (.error error, announcements, e) → e = d ∧ announcements = [])
    (failed : (w.atDesk given work).answer = .error error) : Undone w (w.atDesk given work) := by
  refine atDesk_undone c each (fun d announcements e _ refused => ?_) failed
  obtain ⟨rfl, silent⟩ := worked d announcements e refused
  exact ⟨.refl, silent⟩

theorem select_undone {change : Desk → Except GraphError Desk} {error : EditError} (c : Catalog)
    (each : w.Each Editor.SelectsFrom) (failed : (w.select given change).answer = .error error) :
    Undone w (w.select given change) := by
  refine atDesk_untouched c each (fun d announcements e refused => ?_) failed
  split at refused <;> cases refused
  exact ⟨rfl, rfl⟩

/-- The operation was left before anything was done, or it was done. -/
def Tried {α : Type} (w : Workspace) (o : Outcome α) : Prop :=
  (∃ e, o = w.failed e) ∨ ∃ a, o.answer = .ok a

theorem Tried.undone {α : Type} {o : Outcome α} {error : EditError} (tried : Tried w o)
    (failed : o.answer = .error error) : Undone w o := by
  rcases tried with ⟨e, rfl⟩ | ⟨a, ok⟩
  · exact undone_failed e
  · rw [ok] at failed
    cases failed

theorem onScript_tried {α : Type} {work : Script → Outcome α} (worked : ∀ s, Tried w (work s)) :
    Tried w (w.onScript given work) := by
  unfold onScript
  split
  · exact worked _
  · exact .inl ⟨_, rfl⟩

theorem renameScript_tried (id : Option Text) (name : Text) : Tried w (w.renameScript id name) := by
  unfold renameScript
  split
  · exact .inl ⟨_, rfl⟩
  · exact .inr ⟨_, rfl⟩

theorem duplicateScript_tried (id name : Option Text) : Tried w (w.duplicateScript id name) := by
  unfold duplicateScript
  split
  · exact .inl ⟨_, rfl⟩
  · exact .inr ⟨_, rfl⟩

theorem deleteScript_tried (id : Option Text) (confirmed : Bool) : Tried w (w.deleteScript id confirmed) := by
  refine onScript_tried fun s => ?_
  split
  · split
    · exact .inl ⟨_, rfl⟩
    · exact .inr ⟨_, rfl⟩
  · exact .inr ⟨_, rfl⟩

theorem selectScript_tried (id : Option Text) : Tried w (w.selectScript id) := by
  unfold selectScript
  split
  · exact .inl ⟨_, rfl⟩
  · exact .inr ⟨_, rfl⟩

theorem addNode_tried (draft : NodeDraft) : Tried w (w.addNode c given draft) := by
  refine onScript_tried fun s => ?_
  split
  · exact .inl ⟨_, rfl⟩
  · exact .inr ⟨_, rfl⟩

theorem updateNode_tried (node : Option Text) (change : NodeChange) :
    Tried w (w.updateNode given node change) := by
  refine onScript_tried fun s => ?_
  split
  · exact .inl ⟨_, rfl⟩
  · exact .inr ⟨_, rfl⟩

theorem deleteConnection_tried (connection : Option Text) :
    Tried w (w.deleteConnection c given connection) := by
  refine onScript_tried fun s => ?_
  split
  · exact .inl ⟨_, rfl⟩
  · exact .inr ⟨_, rfl⟩

theorem deleteVariable_tried (id : Option Text) : Tried w (w.deleteVariable given id) := by
  refine onScript_tried fun s => ?_
  split
  · exact .inl ⟨_, rfl⟩
  · exact .inr ⟨_, rfl⟩

theorem announceDeletion_refused {outcome : Except GraphError Deletion × Desk} {error : EditError}
    {announcements : List Announcement} {e : Desk}
    (refused : announceDeletion outcome = (.error error, announcements, e)) :
    (∃ cause, outcome = (.error cause, e)) ∧ announcements = [] := by
  unfold announceDeletion at refused
  split at refused <;> cases refused
  exact ⟨⟨_, rfl⟩, rfl⟩

theorem deleteNode_undone {node : Option Text} {error : EditError} (each : w.Each Editor.SelectsFrom)
    (failed : (w.deleteNode c given node).answer = .error error) :
    Undone w (w.deleteNode c given node) := by
  refine atDesk_untouched c each (fun d announcements e refused => ?_) failed
  obtain ⟨⟨cause, refused⟩, silent⟩ := announceDeletion_refused refused
  exact ⟨Desk.deleteNode_refused refused, silent⟩

theorem deleteSelection_undone {error : EditError} (each : w.Each Editor.SelectsFrom)
    (failed : (w.deleteSelection c given).answer = .error error) :
    Undone w (w.deleteSelection c given) := by
  refine atDesk_undone c each (fun d announcements e _ refused => ?_) failed
  obtain ⟨⟨cause, refused⟩, silent⟩ := announceDeletion_refused refused
  exact ⟨(Desk.deleteSelection_refused refused).2, silent⟩

theorem duplicateSelection_undone {offset : Float} {error : EditError}
    (each : w.Each Editor.SelectsFrom)
    (failed : (w.duplicateSelection c given offset).answer = .error error) :
    Undone w (w.duplicateSelection c given offset) := by
  refine atDesk_undone c each (fun d announcements e selects refused => ?_) failed
  split at refused <;> cases refused
  rename_i refused
  exact ⟨Desk.duplicateSelection_refused selects refused, rfl⟩

theorem renameNode_undone {node : Option Text} {label : Text} {error : EditError} (c : Catalog)
    (each : w.Each Editor.SelectsFrom) (failed : (w.renameNode given node label).answer = .error error) :
    Undone w (w.renameNode given node label) := by
  refine atDesk_untouched c each (fun d announcements e refused => ?_) failed
  split at refused <;> cases refused
  exact ⟨rfl, rfl⟩

theorem openCommandSurface_undone {x y : Json} {query : Text} {error : EditError}
    (refusal : error.isRefusal = true) (each : w.Each Editor.SelectsFrom)
    (failed : (w.openCommandSurface c given x y query).answer = .error error) :
    Undone w (w.openCommandSurface c given x y query) := by
  refine atDesk_untouched c each (fun d announcements e refused => ?_) failed
  split at refused <;> cases refused
  cases refusal

theorem search_undone {α : Type} {work : Session → Recents → α × Session × Recents} {error : EditError}
    (c : Catalog) (each : w.Each Editor.SelectsFrom)
    (failed : (w.atSession given work).answer = .error error) : Undone w (w.atSession given work) := by
  refine atDesk_untouched c each (fun d announcements e refused => ?_) failed
  split at refused <;> cases refused
  exact ⟨rfl, rfl⟩

theorem commitCommand_undone {type : Option Text} {error : EditError} (each : w.Each Editor.SelectsFrom)
    (failed : (w.commitCommand c given type).answer = .error error) :
    Undone w (w.commitCommand c given type) := by
  unfold commitCommand at failed ⊢
  dsimp only at failed ⊢
  split at failed
  · rename_i committed
    rw [committed] at failed
    cases failed
  · refine atDesk_untouched c each (fun d announcements e refused => ?_) failed
    split at refused <;> cases refused
    exact ⟨rfl, rfl⟩

theorem atDesk_refused {α : Type} {work : Desk → Except EditError α × List Announcement × Desk}
    {error : EditError} (c : Catalog) (each : w.Each Editor.SelectsFrom)
    (succeeds : ∀ d, ∃ a, (work d).1 = .ok a)
    (failed : (w.atDesk given work).answer = .error error) : Undone w (w.atDesk given work) := by
  refine atDesk_untouched c each (fun d announcements e refused => ?_) failed
  obtain ⟨a, ok⟩ := succeeds d
  rw [refused] at ok
  cases ok

/-- What a refused step leaves of the workspace, and what it announces: nothing, but for a connection
that is refused in a script that was found. -/
structure Transactional (w : Workspace) (step : WorkspaceStep) (o : Outcome (Option Deletion)) : Prop
    extends Undisturbed w o.workspace where
  editors : ∀ given, (o.workspace.editor given).answer =
    (w.editor given).answer.map fun e => step.leaves w given e
  silent : (∀ given s, step.links? = some given → w.script given ≠ .ok s) → o.announcements = []
  rejected : ∀ given s error, step.links? = some given → w.script given = .ok s →
    o.answer = .error (.graph error) → ∃ d, error.diagnostic = .ok d ∧ o.announcements =
      [.ofScript s.id .connectionRejected {
        data := some [("kind", .str d.kind.name), ("message", .str d.message),
          ("node_ids", .arr (d.nodes.map .str)), ("connection_ids", .arr (d.connections.map .str)),
          ("fatal", .bool d.fatal)]
        error := some error.message }]

theorem map_self {ε α : Type} (result : Except ε α) : (result.map fun a => a) = result := by
  cases result <;> rfl

theorem Undone.transactional {step : WorkspaceStep} {o : Outcome (Option Deletion)} (undone : Undone w o)
    (elsewhere : step.links? = none) : Transactional w step o := by
  refine ⟨undone.toUndisturbed, fun given => ?_, fun _ => undone.silent, fun given s error links => ?_⟩
  · have stays : (fun e => step.leaves w given e) = fun e => e := by
      cases step <;> first | rfl | cases elsewhere
    rw [stays, map_self]
    exact undone.editors given
  · rw [elsewhere] at links
    cases links

theorem rejection_of_graph {script : Text} {e error : GraphError} (refused : rejected e = .graph error) :
    ∃ d, error.diagnostic = .ok d ∧ rejection script e =
      [.ofScript script .connectionRejected { data := some d.members, error := some error.message }] := by
  unfold rejected at refused
  split at refused
  · rename_i d told
    cases refused
    exact ⟨d, told, by simp [rejection, told, Except.toOption]⟩
  · cases refused

theorem transactional_missing {α : Type} {step : WorkspaceStep} {script : Option Text} {e : GraphError}
    (links : step.links? = some script) (missing : w.script script = .error e) :
    Transactional w step ((w.failed (.graph e) : Outcome α).answering fun _ => none) := by
  refine ⟨.refl, fun given => ?_, fun _ => rfl, fun given s error named there => ?_⟩
  · change (w.editor given).answer = (w.editor given).answer.map _
    rw [editor_answer]
    cases looked : w.script given with
    | error e => rfl
    | ok u =>
        cases step with
        | releaseConnection script node port =>
            cases links
            simp [WorkspaceStep.leaves, looked, missing, Except.map, Except.mapError]
        | _ => rfl
  · cases links.symm.trans named
    cases missing.symm.trans there

theorem connect_transactional {script : Option Text} {link : LinkDraft} {error : EditError}
    (failed : (w.connect c script link).answer = .error error) :
    Transactional w (.connect script link) ((w.connect c script link).answering fun _ => none) := by
  cases found : w.script script with
  | error e =>
      rw [connect, onScript_missing found]
      exact transactional_missing rfl found
  | ok s =>
      rw [connect, onScript_eq found] at failed ⊢
      split
      · rename_i e refused
        refine ⟨.refl, fun given => (map_self _).symm, fun nowhere => absurd found (nowhere script s rfl), ?_⟩
        rintro given t cause ⟨⟩ there answered
        cases found.symm.trans there
        refine rejection_of_graph ?_
        simpa [Outcome.answering, Except.map] using answered
      · rename_i made
        simp [made] at failed

theorem released_editor {script node port : Option Text} (found : w.script script = .ok s)
    (given : Option Text) :
    ((w.putDesk ((w.desk s).choose .nothing)).editor given).answer =
      (w.editor given).answer.map fun e =>
        (WorkspaceStep.releaseConnection script node port).leaves w given e := by
  have here := script_found found
  rw [putDesk_editor (e := (w.desk s).choose .nothing) here (desk_script s w), editor_answer]
  cases looked : w.script given with
  | error => rfl
  | ok u =>
      by_cases same : u.id = s.id
      · have one := script_found looked
        rw [same, here, Option.some.injEq] at one
        simp [WorkspaceStep.leaves, looked, found, Except.map, Except.mapError, one, Desk.choose]
      · simp [WorkspaceStep.leaves, looked, found, Except.map, Except.mapError, same]

theorem releaseConnection_transactional {script node port : Option Text} {error : EditError}
    (failed : (w.releaseConnection c script node port).answer = .error error) :
    Transactional w (.releaseConnection script node port)
      ((w.releaseConnection c script node port).answering fun _ => none) := by
  cases found : w.script script with
  | error e =>
      rw [releaseConnection, atDesk_missing found]
      exact transactional_missing rfl found
  | ok s =>
      rw [releaseConnection, atDesk_eq found] at failed ⊢
      split at failed
      · split at failed
        · rename_i e d refused
          cases Desk.releaseOnPort_refused refused
          have kept := putDesk_undisturbed (e := (w.desk s).choose .nothing) (script_found found)
            (desk_content s w) (desk_recents s w)
          refine ⟨kept, fun given => ?_, fun nowhere => absurd found (nowhere script s rfl), ?_⟩
          · exact released_editor found given
          · rintro given t cause ⟨⟩ there answered
            cases found.symm.trans there
            rw [← desk_script s w]
            refine rejection_of_graph ?_
            simpa [Outcome.answering, Except.map] using answered
        · cases failed
      · cases failed

theorem answering_error {α β : Type} {f : α → β} {o : Outcome α} {error : EditError}
    (failed : (o.answering f).answer = .error error) : o.answer = .error error := by
  unfold Outcome.answering at failed
  cases answered : o.answer with
  | ok a => simp [answered, Except.map] at failed
  | error e =>
      rw [answered] at failed
      cases failed
      rfl

theorem Undone.answering {α : Type} {f : α → Option Deletion} {o : Outcome α} {error : EditError}
    (undone : o.answer = .error error → Undone w o) (failed : (o.answering f).answer = .error error) :
    Undone w (o.answering f) :=
  have undone := undone (answering_error failed)
  ⟨undone.toUndisturbed, undone.editors, undone.silent⟩

theorem loadProject_succeeds (c : Catalog) (w : Workspace) : ∃ p, (w.loadProject c).answer = .ok p := by
  unfold loadProject
  split <;> exact ⟨_, rfl⟩

theorem start_succeeds (c : Catalog) (w : Workspace) : (w.start c).answer = .ok () := by
  unfold start
  dsimp only
  split
  · obtain ⟨p, loaded⟩ := loadProject_succeeds c (w.loadRecents c)
    rw [loaded]
    rfl
  · rfl

theorem saveProject_answer {time : String} {error : EditError}
    (failed : (w.saveProject time).answer = .error error) : error.isRefusal = false := by
  unfold saveProject at failed
  split at failed
  · cases failed
  · split at failed <;> cases failed
    rfl

/-- A step that is refused where the selected nodes are in their scripts, and makes no connection. -/
theorem perform_undone {step : WorkspaceStep} {error : EditError} (each : w.Each Editor.SelectsFrom)
    (elsewhere : step.links? = none) (refusal : error.isRefusal = true)
    (failed : (w.perform c step).answer = .error error) : Undone w (w.perform c step) := by
  cases step with
  | connect | releaseConnection => cases elsewhere
  | start =>
      have failed := answering_error failed
      rw [start_succeeds] at failed
      cases failed
  | clear | createScript => cases failed
  | renameScript id name => exact .answering (renameScript_tried id name).undone failed
  | duplicateScript id name => exact .answering (duplicateScript_tried id name).undone failed
  | deleteScript id confirmed => exact .answering (deleteScript_tried id confirmed).undone failed
  | selectScript id => exact .answering (selectScript_tried id).undone failed
  | addNode script draft => exact .answering (addNode_tried draft).undone failed
  | updateNode script node change => exact .answering (updateNode_tried node change).undone failed
  | deleteConnection script connection => exact .answering (deleteConnection_tried connection).undone failed
  | addVariable script draft => exact .answering (onScript_tried fun s => .inr ⟨_, rfl⟩).undone failed
  | deleteVariable script id => exact .answering (deleteVariable_tried id).undone failed
  | editor script => exact .answering (atDesk_refused c each fun d => ⟨d.editor, rfl⟩) failed
  | clickNode script node additive => exact .answering (select_undone c each) failed
  | clickConnection script connection => exact .answering (select_undone c each) failed
  | clickCanvas script => exact .answering (select_undone c each) failed
  | selectAll script => exact .answering (select_undone c each) failed
  | beginConnection script node port => exact .answering (select_undone c each) failed
  | deleteNode script node => exact .answering (deleteNode_undone each) failed
  | deleteSelection script => exact .answering (deleteSelection_undone each) failed
  | duplicateSelection script offset => exact .answering (duplicateSelection_undone each) failed
  | moveSelection script dx dy =>
      exact .answering (atDesk_refused c each fun d => ⟨(d.moveSelection dx dy).1, rfl⟩) failed
  | renameNode script node label => exact .answering (renameNode_undone c each) failed
  | openCommandSurface script x y query => exact .answering (openCommandSurface_undone refusal each) failed
  | search script work => exact .answering (search_undone c each) failed
  | commitCommand script type => exact .answering (commitCommand_undone each) failed
  | cancelCommand script => exact .answering (atDesk_refused c each fun d => ⟨d.cancelCommand.editor, rfl⟩) failed
  | compile script => exact .answering (onScript_tried fun s => .inr ⟨_, rfl⟩).undone failed
  | listing script => exact .answering (onScript_tried fun s => .inr ⟨_, rfl⟩).undone failed
  | saveProject time =>
      have file := saveProject_answer (answering_error failed)
      rw [refusal] at file
      cases file
  | loadProject =>
      have failed := answering_error failed
      obtain ⟨p, loaded⟩ := loadProject_succeeds c w
      rw [loaded] at failed
      cases failed

/-- Whatever a workspace without editors has come to, a step that is refused leaves everything but
the drag that it ends, and announces nothing but a connection that is refused. -/
theorem run_refused (c : Catalog) (w : Workspace) (fresh : w.editors = []) (steps : List WorkspaceStep)
    (step : WorkspaceStep) (error : EditError) (refusal : error.isRefusal = true)
    (failed : ((w.run c steps).perform c step).answer = .error error) :
    Transactional (w.run c steps) step ((w.run c steps).perform c step) := by
  have each : (w.run c steps).Each Editor.SelectsFrom :=
    run_each (selects_steady c) (fun w step (_ : True) => selects_allows c w step) steps
      (fun _ _ => trivial) (each_of_noEditors fresh)
  cases links : step.links? with
  | none => exact (perform_undone each links refusal failed).transactional links
  | some script =>
      cases step with
      | connect script link => exact connect_transactional (answering_error failed)
      | releaseConnection script node port =>
          exact releaseConnection_transactional (answering_error failed)
      | _ => cases links

end

def dragRun : List WorkspaceStep := traceRun ++ [.beginConnection none (some "id-2") (some "exec")]

def occupiedRelease : WorkspaceStep := .releaseConnection none (some "id-3") (some "exec")

theorem run_refused_occupied :
    ({} : Workspace).editors = [] ∧
      (EditError.graph (.portOccupied "id-3" "exec" "id-5")).isRefusal = true ∧
      ((({} : Workspace).run traceCatalog dragRun).perform traceCatalog occupiedRelease).answer =
        .error (.graph (.portOccupied "id-3" "exec" "id-5")) ∧
      Transactional (({} : Workspace).run traceCatalog dragRun) occupiedRelease
        ((({} : Workspace).run traceCatalog dragRun).perform traceCatalog occupiedRelease) ∧
      ((({} : Workspace).run traceCatalog dragRun).perform traceCatalog occupiedRelease).announcements =
        [.ofScript "id-1" .connectionRejected {
          data := some [("kind", .str "PortOccupied"), ("message", .str "Input id-3.exec already connected"),
            ("node_ids", .arr [.str "id-3"]), ("connection_ids", .arr [.str "id-5"]), ("fatal", .bool true)]
          error := some "Input id-3.exec already connected" }] := by
  have failed : ((({} : Workspace).run traceCatalog dragRun).perform traceCatalog occupiedRelease).answer =
      .error (.graph (.portOccupied "id-3" "exec" "id-5")) := rfl
  have refused := run_refused traceCatalog {} rfl dragRun occupiedRelease _ rfl failed
  obtain ⟨s, found⟩ : ∃ s, (({} : Workspace).run traceCatalog dragRun).script none = .ok s := ⟨_, rfl⟩
  have named : s.id = "id-1" := by
    have here : ((({} : Workspace).run traceCatalog dragRun).script none).map Script.id = .ok "id-1" := rfl
    rw [found] at here
    exact Except.ok.inj here
  obtain ⟨d, ⟨⟩, announced⟩ := refused.rejected none s _ rfl found failed
  rw [named] at announced
  exact ⟨rfl, rfl, failed, refused, announced⟩

end Workspace

end NodeScript
