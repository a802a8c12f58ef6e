import NodeScript.Http.Service
import NodeScript.Proofs.Workspace.Answers
import NodeScript.Proofs.Workspace.Refused

namespace NodeScript.Http

open Record

/-- No error leaves the handler but about a value that cannot be written, and such a value is in the
catalog or in the project that is left. -/
def Answers (c : Catalog) (h : Handled) : Prop :=
  ∀ escape, h.1 = .escaped escape →
    (∃ fault, escape = .notWritten fault) ∧ (Written c.templates → ¬Written h.2.2.project)

section

variable {α : Type} {c : Catalog} {w : Workspace} {o : Outcome α} {encode : α → Body}
  {tell : EditError → Ending}

theorem ofBody_escaped {b : Body} {escape : Escape} (escaped : Ending.ofBody b = .escaped escape) :
    (∃ fault, escape = .notWritten fault) ∧ ¬∀ v ∈ b.free, v.Writable := by
  unfold Ending.ofBody at escaped
  split at escaped <;> cases escaped
  rename_i fault found
  refine ⟨⟨fault, rfl⟩, fun writable => ?_⟩
  rw [firstFault?_eq_none.mpr writable] at found
  cases found

theorem ofError_told {g : GraphError} (told : g.Told) : ∃ d, Ending.ofError (.graph g) = .refused d := by
  obtain ⟨d, told⟩ := told
  exact ⟨d, by simp [Ending.ofError, told]⟩

theorem ended_answers
    (errors : ∀ e, o.answer = .error e → ∀ escape, tell e ≠ .escaped escape)
    (values : ∀ a, o.answer = .ok a → Written c.templates → Written o.workspace.project →
      ∀ v ∈ (encode a).free, v.Writable) : Answers c (ended tell encode o) := by
  intro escape escaped
  cases answer : o.answer with
  | error e =>
      simp only [ended, answer] at escaped
      exact absurd escaped (errors e answer escape)
  | ok a =>
      simp only [ended, answer] at escaped
      obtain ⟨fault, unwritable⟩ := ofBody_escaped escaped
      exact ⟨fault, fun templates left => unwritable (values a answer templates left)⟩

theorem handled_answers (told : o.FailsTold)
    (values : ∀ a, o.answer = .ok a → Written c.templates → Written o.workspace.project →
      ∀ v ∈ (encode a).free, v.Writable) : Answers c (handled encode o) := by
  refine ended_answers (fun e failed escape escaped => ?_) values
  obtain ⟨g, rfl, told⟩ := told e failed
  obtain ⟨d, refused⟩ := ofError_told told
  cases refused.symm.trans escaped

theorem handled_part [Record α] (name : Text) (told : o.FailsTold) (writes : o.Writes c) :
    Answers c (handled (part name) o) := handled_answers told writes

theorem handled_json {json : α → Json} (told : o.FailsTold) :
    Answers c (handled (fun a => { json := json a }) o) := by
  refine handled_answers told fun _ _ _ _ _ member => ?_
  cases member

theorem look_answers {body : Body} (values : Written c.templates → ∀ v ∈ body.free, v.Writable) :
    Answers c (look body w) := by
  intro escape escaped
  obtain ⟨fault, unwritable⟩ := ofBody_escaped escaped
  exact ⟨fault, fun templates _ => unwritable (values templates)⟩

theorem bound_of_withBody {take : Option Json → Except (List Fault) α} {text : String} {go : α → Handler}
    {handle : Handler} (bound : withBody take text go = .ok handle) :
    ∃ a, taken take text = .ok a ∧ go a = handle := by
  unfold withBody at bound
  cases read : taken take text with
  | error reply => simp [read, Except.map] at bound
  | ok a =>
      rw [read] at bound
      exact ⟨a, rfl, Except.ok.inj bound⟩

theorem sessionBody_writable {s : Session} (offers : s.Offers c) (templates : Written c.templates) :
    ∀ v ∈ (sessionBody s).free, v.Writable :=
  written_list.mpr fun t member => Catalog.written_template templates (offers t member)

end

/-- The request is answered, and the searches that are left offer what is in the catalog. -/
structure Served (c : Catalog) (h : Handled) : Prop where
  answers : Answers c h
  offers : h.2.2.Each (Editor.Offers c)

/-- The request begins a connection in a script that is there, and names no node. -/
def BeginsNowhere (w : Workspace) (endpoint : Endpoint) (body : String) : Prop :=
  ∃ id s port, endpoint = .editor .beginConnection id ∧ w.script (some id) = .ok s ∧
    taken (required PortRequest.read) body = .ok { node := none, port }

section

variable {c : Catalog} {clock : Clock} {id : Text} {body : String} {handle : Handler} {w : Workspace}

theorem Served.of_step {h : Handled} (answers : Answers c h) (step : WorkspaceStep)
    (left : h.2.2 = w.after c step) (searchless : ∀ script work, step ≠ .search script work)
    (each : w.Each (Editor.Offers c)) : Served c h :=
  ⟨answers, left ▸ Workspace.after_offers step searchless each⟩

theorem scriptAction_served {action : ScriptAction} (bound : scriptAction c id body action = .ok handle)
    (each : w.Each (Editor.Offers c)) : Served c (handle w) := by
  cases action with
  | get =>
      cases bound
      refine ⟨handled_part _ (Workspace.fails_of_told (Workspace.script_told _) rfl) ?_, each⟩
      intro s ok _ left
      have found : w.script id = .ok s := ok_of_mapError ok
      exact Project.written_script left (Project.script?_mem (Workspace.script_found found)).1
  | rename =>
      obtain ⟨name, _, rfl⟩ := bound_of_withBody bound
      refine .of_step (ended_answers (fun e failed escape escaped => ?_) fun _ _ _ _ => nofun)
        (.renameScript id name) rfl nofun each
      rcases Workspace.renameScript_fails failed with rfl | ⟨g, rfl, told⟩
      · cases escaped
      · obtain ⟨d, refused⟩ := ofError_told told
        cases refused.symm.trans escaped
  | duplicate =>
      obtain ⟨name, _, rfl⟩ := bound_of_withBody bound
      exact .of_step
        (handled_part _ (Workspace.duplicateScript_told _ _) (Workspace.duplicateScript_writes _ _))
        (.duplicateScript id (name.getD none)) rfl nofun each
  | delete =>
      obtain ⟨confirmed, _, rfl⟩ := bound_of_withBody bound
      exact .of_step (handled_json (Workspace.deleteScript_told _ _))
        (.deleteScript id (confirmed.getD false)) rfl nofun each
  | select =>
      cases bound
      exact .of_step (handled_json (Workspace.selectScript_told _)) (.selectScript id) rfl nofun each
  | compile =>
      cases bound
      exact .of_step (handled_part _ Workspace.compile_told Workspace.compile_writes) (.compile id) rfl nofun
        each
  | listing =>
      cases bound
      exact .of_step (handled_json Workspace.listing_told) (.listing id) rfl nofun each

theorem partAction_served {action : PartAction} (bound : partAction c id body action = .ok handle)
    (each : w.Each (Editor.Offers c)) : Served c (handle w) := by
  cases action with
  | addNode =>
      obtain ⟨draft, _, rfl⟩ := bound_of_withBody bound
      exact .of_step (handled_part _ (Workspace.addNode_told _) (Workspace.addNode_writes _))
        (.addNode id draft) rfl nofun each
  | updateNode node =>
      obtain ⟨change, _, rfl⟩ := bound_of_withBody bound
      exact .of_step (handled_part _ (Workspace.updateNode_told _ _) (Workspace.updateNode_writes _ _))
        (.updateNode id node change) rfl nofun each
  | deleteNode node =>
      cases bound
      exact .of_step (handled_json (Workspace.deleteNode_told _)) (.deleteNode id node) rfl nofun each
  | connect =>
      obtain ⟨link, _, rfl⟩ := bound_of_withBody bound
      exact .of_step (handled_part _ (Workspace.connect_told _) (.of_none fun _ => rfl))
        (.connect id link.draft) rfl nofun each
  | deleteConnection connection =>
      cases bound
      exact .of_step (handled_json (Workspace.deleteConnection_told _)) (.deleteConnection id connection)
        rfl nofun each
  | addVariable =>
      obtain ⟨draft, _, rfl⟩ := bound_of_withBody bound
      exact .of_step (handled_part _ (Workspace.addVariable_told _) (Workspace.addVariable_writes _))
        (.addVariable id draft) rfl nofun each
  | deleteVariable variableId =>
      cases bound
      exact .of_step (handled_json (Workspace.deleteVariable_told _)) (.deleteVariable id variableId) rfl
        nofun each

theorem beginConnection_answers {node port : Option Text}
    (read : taken (required PortRequest.read) body = .ok ⟨node, port⟩)
    (somewhere : ¬BeginsNowhere w (.editor .beginConnection id) body) :
    Answers c (handled (part "state") (w.beginConnection c id node port)) := by
  refine handled_part _ ?_ (.of_none fun _ => rfl)
  cases node with
  | some node => exact Workspace.select_told fun _ => Desk.beginConnection_told node port
  | none =>
      cases found : w.script (some id) with
      | ok s => exact absurd ⟨id, s, port, rfl, found, read⟩ somewhere
      | error e =>
          rw [Workspace.beginConnection, Workspace.select, Workspace.atDesk_missing found]
          exact Workspace.fails_failed (Workspace.script_told _ e found)

theorem editorAction_served {action : EditorAction} (bound : editorAction c id body action = .ok handle)
    (each : w.Each (Editor.Offers c)) (somewhere : ¬BeginsNowhere w (.editor action id) body) :
    Served c (handle w) := by
  cases action with
  | state =>
      cases bound
      exact .of_step (handled_part _ Workspace.editor_told (.of_none fun _ => rfl)) (.editor id) rfl nofun each
  | clickNode =>
      obtain ⟨r, _, rfl⟩ := bound_of_withBody bound
      have told : (w.clickNode id r.node r.additive).FailsTold :=
        Workspace.select_told fun _ => Desk.clickNode_told r.node r.additive
      exact .of_step (handled_part _ told (.of_none fun _ => rfl)) (.clickNode id r.node r.additive) rfl nofun
        each
  | clickConnection =>
      obtain ⟨connection, _, rfl⟩ := bound_of_withBody bound
      have told : (w.clickConnection id connection).FailsTold :=
        Workspace.select_told fun _ => Desk.clickConnection_told connection
      exact .of_step (handled_part _ told (.of_none fun _ => rfl)) (.clickConnection id connection) rfl nofun
        each
  | clickCanvas =>
      cases bound
      exact .of_step (handled_part _ (Workspace.select_told fun _ => .ok) (.of_none fun _ => rfl))
        (.clickCanvas id) rfl nofun each
  | selectAll =>
      cases bound
      exact .of_step (handled_part _ (Workspace.select_told fun _ => .ok) (.of_none fun _ => rfl))
        (.selectAll id) rfl nofun each
  | beginConnection =>
      obtain ⟨r, read, rfl⟩ := bound_of_withBody bound
      exact .of_step (beginConnection_answers read somewhere) (.beginConnection id r.node r.port) rfl nofun
        each
  | releaseConnection =>
      obtain ⟨r, _, rfl⟩ := bound_of_withBody bound
      exact .of_step
        (handled_part _ (Workspace.releaseConnection_told _ _) (.of_none fun k => by cases k <;> rfl))
        (.releaseConnection id r.node r.port) rfl nofun each
  | deleteSelection =>
      cases bound
      exact .of_step (handled_part _ Workspace.deleteSelection_told (.of_none fun _ => rfl))
        (.deleteSelection id) rfl nofun each
  | duplicateSelection =>
      obtain ⟨offset, _, rfl⟩ := bound_of_withBody bound
      exact .of_step
        (handled_part _ (Workspace.duplicateSelection_told _) (Workspace.duplicateSelection_writes _))
        (.duplicateSelection id (offset.getD Desk.defaultOffset)) rfl nofun each
  | moveSelection =>
      obtain ⟨r, _, rfl⟩ := bound_of_withBody bound
      exact .of_step (handled_part _ (Workspace.moveSelection_told _ _) (Workspace.moveSelection_writes _ _))
        (.moveSelection id r.dx r.dy) rfl nofun each
  | renameNode =>
      obtain ⟨r, _, rfl⟩ := bound_of_withBody bound
      exact .of_step (handled_part _ (Workspace.renameNode_told _ _) (Workspace.renameNode_writes _ _))
        (.renameNode id r.node r.label) rfl nofun each

theorem requery_offers (r : QueryRequest) (recents : Recents) {s : Session} (offers : s.Offers c) :
    (requery c r s recents).Offers c := by
  unfold requery
  dsimp only
  cases r.query with
  | some query => exact Session.refresh_offers _ _
  | none =>
      cases r.filter with
      | some filter => exact Session.refresh_offers _ _
      | none => exact offers

theorem atSession_served (work : Session → Recents → Session × Recents)
    (kept : ∀ session recents, session.Offers c → (work session recents).1.Offers c)
    (each : w.Each (Editor.Offers c)) :
    Served c (handled sessionBody (w.atSession id fun s recents => ((work s recents).1, work s recents))) := by
  refine ⟨handled_answers (Workspace.atSession_told _) fun a ok templates _ => ?_,
    Workspace.atSession_offers kept each⟩
  obtain ⟨s, session, recents, _, offers, rfl⟩ := Workspace.atSession_answer each ok
  exact sessionBody_writable (kept session recents offers) templates

theorem pressKey_served (r : KeyRequest) (each : w.Each (Editor.Offers c)) : Served c (pressKey id r w) := by
  unfold pressKey
  split
  · exact ⟨nofun, each⟩
  · rename_i key _
    exact atSession_served (fun s recents =>
        ((s.press key r.shift (some recents)).2.1, (s.press key r.shift (some recents)).2.2.getD recents))
      (fun s recents => Session.press_offers key r.shift (some recents)) each

/-- The search that is there has its script, so that no key fails. -/
theorem keyAction_served (r : KeyRequest) (each : w.Each (Editor.Offers c)) :
    Served c (keyAction c id r w) := by
  have left : (w.session id).workspace.Each (Editor.Offers c) :=
    Workspace.atSession_offers (fun _ _ offers => offers) each
  unfold keyAction
  dsimp only
  split
  · rename_i e failed
    obtain ⟨g, rfl, told⟩ := Workspace.atSession_told _ e failed
    obtain ⟨d, refused⟩ := ofError_told told
    rw [refused]
    exact ⟨nofun, left⟩
  · rename_i session ok
    obtain ⟨s, _, _, found, _⟩ := Workspace.atSession_answer each ok
    obtain ⟨t, there⟩ : ∃ t, (w.session id).workspace.script id = .ok t := by
      refine Workspace.atDesk_script (fun d => ?_) found
      split <;> rfl
    split
    · refine .of_step (ended_answers (fun e failed => ?_) (Workspace.commitCommand_writes none))
        (.commitCommand id none) rfl nofun left
      obtain ⟨n, committed⟩ := Workspace.commitCommand_succeeds left there
      cases committed.symm.trans failed
    · split
      · refine .of_step (ended_answers (fun e failed => ?_) fun _ _ _ _ => nofun) (.cancelCommand id) rfl nofun
          left
        obtain ⟨editor, cancelled⟩ := Workspace.cancelCommand_succeeds there
        cases cancelled.symm.trans failed
      · exact pressKey_served r left

theorem commandAction_served {action : CommandAction} (bound : commandAction c id body action = .ok handle)
    (each : w.Each (Editor.Offers c)) : Served c (handle w) := by
  cases action with
  | opening =>
      obtain ⟨r, _, rfl⟩ := bound_of_withBody bound
      refine .of_step (handled_answers (Workspace.openCommandSurface_told _ _ _) fun session ok templates _ => ?_)
        (.openCommandSurface id (.float r.x) (.float r.y) r.query) rfl nofun each
      exact sessionBody_writable (Workspace.openCommandSurface_offers ok) templates
  | query =>
      obtain ⟨r, _, rfl⟩ := bound_of_withBody bound
      exact atSession_served (fun s recents => (requery c r s recents, recents))
        (fun _ recents => requery_offers r recents) each
  | key =>
      obtain ⟨r, _, rfl⟩ := bound_of_withBody bound
      exact keyAction_served r each
  | commit =>
      obtain ⟨type, _, rfl⟩ := bound_of_withBody bound
      exact .of_step (handled_part _ (Workspace.commitCommand_told _) (Workspace.commitCommand_writes _))
        (.commitCommand id (type.getD none)) rfl nofun each
  | cancel =>
      cases bound
      exact .of_step (handled_part _ Workspace.cancelCommand_told (.of_none fun _ => rfl))
        (.cancelCommand id) rfl nofun each

theorem searchFor_writable (r : SearchRequest) (templates : Written c.templates) :
    ∀ v ∈ (searchFor c w r).free, v.Writable := by
  refine written_list.mpr fun t member => Catalog.written_template templates ?_
  split at member
  · exact mem_search ((upTo_sublist ..).subset member)
  · exact mem_search member

theorem saveProject_answers (time : String) (encode : Bool → Json) (w : Workspace) :
    Answers c (ended .uncaught (fun saved => { json := encode saved }) (w.saveProject time)) := by
  intro escape escaped
  unfold Workspace.saveProject at escaped ⊢
  split at escaped
  · cases escaped
  · split at escaped <;> cases escaped
    rename_i fault unwritten
    refine ⟨⟨fault, rfl⟩, fun _ left => ?_⟩
    have written : Written w.project := left
    unfold ProjectFile.save at unwritten
    rw [fault?_eq_none.mpr written] at unwritten
    dsimp only at unwritten
    split at unwritten <;> cases unwritten

theorem handler_served {endpoint : Endpoint} (bound : handler c clock body endpoint = .ok handle)
    (each : w.Each (Editor.Offers c)) (somewhere : ¬BeginsNowhere w endpoint body) :
    Served c (handle w) := by
  cases endpoint with
  | shutdown | ping | scripts =>
      cases bound
      exact ⟨look_answers fun _ => nofun, each⟩
  | templates | categories =>
      cases bound
      exact ⟨look_answers fun templates => templates, each⟩
  | template type =>
      cases bound
      refine ⟨handled_part _ (Workspace.fails_of_told (Catalog.template_told _) rfl) ?_, each⟩
      intro t ok templates _
      have known : c.find? t.type = some t := Catalog.template_ok (ok_of_mapError ok)
      exact Catalog.written_template templates (List.mem_of_find?_eq_some known)
  | search =>
      obtain ⟨r, _, rfl⟩ := bound_of_withBody bound
      exact ⟨look_answers (searchFor_writable r), each⟩
  | createScript =>
      obtain ⟨r, _, rfl⟩ := bound_of_withBody bound
      exact .of_step (ended_answers (fun _ => nofun) (Workspace.createScript_writes _ _))
        (.createScript r.name r.description) rfl nofun each
  | script action id => exact scriptAction_served bound each
  | part action id => exact partAction_served bound each
  | editor action id => exact editorAction_served bound each somewhere
  | command action id => exact commandAction_served bound each
  | saveProject =>
      cases bound
      exact .of_step (saveProject_answers clock.time _ w) (.saveProject clock.time) rfl nofun each
  | loadProject =>
      cases bound
      refine .of_step (ended_answers (fun e failed => ?_) fun _ _ _ _ => nofun) .loadProject rfl nofun each
      obtain ⟨p, loaded⟩ := Workspace.loadProject_succeeds c w
      cases loaded.symm.trans failed

/-- No node is found without an id, and no diagnostic tells that; all but the reply is in order. -/
theorem beginConnection_nowhere {endpoint : Endpoint} (bound : handler c clock body endpoint = .ok handle)
    (nowhere : BeginsNowhere w endpoint body) (each : w.Each (Editor.Offers c)) :
    (handle w).1 = .escaped (.notTold [⟨["node_ids", "0"], .notText⟩]) ∧
      (handle w).2.2.Each (Editor.Offers c) := by
  obtain ⟨id, s, port, rfl, found, read⟩ := nowhere
  obtain ⟨r, read', rfl⟩ := bound_of_withBody bound
  cases read.symm.trans read'
  have failed : (w.beginConnection c (some id) none port).answer = .error (.graph (.nodeNotFound none)) := by
    rw [Workspace.beginConnection, Workspace.select, Workspace.atDesk_eq found]
    rfl
  refine ⟨?_, Workspace.after_offers (.beginConnection id none port) (by simp) each⟩
  simp only [handled, ended, failed]
  rfl

end

end NodeScript.Http
