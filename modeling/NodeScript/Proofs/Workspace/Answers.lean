import NodeScript.Proofs.Editor.Offered
import NodeScript.Proofs.Script.Told
import NodeScript.Proofs.Workspace.Step
import NodeScript.Proofs.Written

namespace NodeScript

open Record

/-- What the operation refuses can be told, and it fails for no other reason. -/
def Outcome.FailsTold {α : Type} (o : Outcome α) : Prop :=
  ∀ e, o.answer = .error e → ∃ g, e = .graph g ∧ g.Told

def Outcome.Writes {α : Type} [Record α] (c : Catalog) (o : Outcome α) : Prop :=
  ∀ a, o.answer = .ok a → Written c.templates → Written o.workspace.project → Written a

theorem Outcome.Writes.of_none {α : Type} [Record α] {c : Catalog} {o : Outcome α}
    (none : ∀ a : α, free a = []) : o.Writes c := by
  intro a _ _ _ v member
  rw [none a] at member
  cases member

namespace Script

variable {s t : Script} {n : Node}

theorem mem_replaced {id : Text} {change : Node → Node} {nodes : List Node}
    (found : nodes.find? (·.id = id) = some n) : change n ∈ replaceNode id change nodes := by
  induction nodes with
  | nil => cases found
  | cons m rest ih =>
      unfold replaceNode
      by_cases here : m.id = id
      · have same : m = n := by simpa [here] using found
        rw [if_pos here, same]
        exact List.mem_cons_self
      · rw [if_neg here]
        exact List.mem_cons_of_mem _ (ih (by simpa [here] using found))

theorem changeNode_mem {id : Option Text} {change : Node → Node} (ok : s.changeNode id change = .ok (n, t)) :
    n ∈ t.nodes ∧ t.id = s.id := by
  obtain ⟨m, found, ok⟩ := ok_of_bind ok
  cases ok
  exact ⟨mem_replaced (requireNode_found found), rfl⟩

theorem addNode_listed {c : Catalog} {t : Template} {d : NodeDraft} (listed : t ∈ c.templates)
    (type : d.type = some t.type) (parent : d.parentId = none) (ids : IdSupply) :
    ∃ r, s.addNode c d ids = .ok r := by
  obtain ⟨u, known⟩ : ∃ u, c.find? t.type = some u :=
    Option.isSome_iff_exists.mp (List.find?_isSome.mpr ⟨t, listed, decide_eq_true rfl⟩)
  have found : c.template d.type = .ok u := by simp [Catalog.template, type, known]
  refine ⟨(d.node ids.draw.1 u.type, { s with nodes := s.nodes ++ [d.node ids.draw.1 u.type] }, ids.draw.2), ?_⟩
  rw [addNode, found, parent]
  rfl

end Script

namespace Desk

variable {c : Catalog} {d e : Desk}

theorem commitCommand_written {type : Option Text} {made : Option Node}
    (ok : d.commitCommand c type = .ok (made, e)) (written : Written e.script) : Written made := by
  refine written_option.mpr fun n member => ?_
  rcases commitCommand_cases ok with ⟨rfl, _⟩ | ⟨_, _, m, _, _, _, added, rfl, rfl⟩
  · cases member
  · obtain ⟨_, _, _, _, rfl⟩ := Script.addNode_ok added
    cases member
    exact Script.written_node written (List.mem_append_right _ List.mem_cons_self)

theorem commitCommand_ok (offers : d.Offers c) : ∃ r, d.commitCommand c none = .ok r := by
  unfold commitCommand
  split
  · exact ⟨_, rfl⟩
  · rename_i surface held
    cases current : surface.session.current? with
    | none =>
        refine ⟨(none, d), ?_⟩
        simp only [commandType?, current]
        rfl
    | some t =>
        have listed : t ∈ c.templates := (offers surface.session (by rw [held]; rfl)).current current
        obtain ⟨⟨n, s, ids⟩, added⟩ := Script.addNode_listed (s := d.script)
          (d := { type := t.type, position := some surface.position }) listed rfl rfl d.ids
        refine ⟨(some n, { d with script := s, ids, recents := d.recents.record t.type }.choose .nothing), ?_⟩
        simp only [commandType?, current]
        change (d.script.addNode c _ d.ids >>= _) = _
        rw [added]
        rfl

end Desk

namespace Workspace

variable {c : Catalog} {w : Workspace} {s t : Script} {given : Option Text}

theorem fails_of_told {α : Type} {o : Outcome α} {result : Except GraphError α} (told : FailsTold result)
    (answer : o.answer = result.mapError .graph) : o.FailsTold := by
  intro e failed
  cases result with
  | ok a => cases answer.symm.trans failed
  | error g =>
      cases answer.symm.trans failed
      exact ⟨g, rfl, told g rfl⟩

theorem fails_failed {α : Type} {g : GraphError} (told : g.Told) :
    (w.failed (.graph g) : Outcome α).FailsTold := by
  rintro _ ⟨⟩
  exact ⟨g, rfl, told⟩

theorem fails_ok {α : Type} {o : Outcome α} {a : α} (ok : o.answer = .ok a) : o.FailsTold := by
  intro e failed
  rw [ok] at failed
  cases failed

theorem script_told (given : Option Text) : FailsTold (w.script given) := by
  unfold script
  split
  · exact .error ⟨_, rfl⟩
  · split
    · exact .ok
    · exact .error ⟨_, rfl⟩

theorem onScript_told {α : Type} {work : Script → Outcome α} (each : ∀ s, (work s).FailsTold) :
    (w.onScript given work).FailsTold := by
  unfold onScript
  split
  · exact each _
  · exact fails_failed (script_told given _ ‹_›)

theorem atDesk_told {α : Type} {work : Desk → Except EditError α × List Announcement × Desk}
    (each : ∀ d e, (work d).1 = .error e → ∃ g, e = .graph g ∧ g.Told) : (w.atDesk given work).FailsTold :=
  onScript_told fun _ => each _

theorem onScript_writes {α : Type} [Record α] {work : Script → Outcome α}
    (each : ∀ s, w.script given = .ok s → (work s).Writes c) : (w.onScript given work).Writes c := by
  unfold onScript
  split
  · exact each _ ‹_›
  · nofun

theorem mem_replaceScript {p : Project} (found : p.script? t.id = some s) :
    t ∈ (p.replaceScript t.id t).scripts := by
  have looked : (p.replaceScript t.id t).script? t.id = some t := by
    rw [script?_replaceScript found, if_pos rfl]
  exact (Project.script?_mem looked).1

theorem setScript_written (found : w.script given = .ok s) (named : t.id = s.id)
    (left : Written (w.setScript t).project) : Written t :=
  Project.written_script left (mem_replaceScript (named ▸ script_found found))

theorem putDesk_written {d : Desk} (found : w.script given = .ok s) (named : d.script.id = s.id)
    (left : Written (w.putDesk d).project) : Written d.script :=
  Project.written_script left (mem_replaceScript (named ▸ script_found found))

theorem atDesk_writes {α : Type} [Record α] {work : Desk → Except EditError α × List Announcement × Desk}
    (each : ∀ d a, (work d).1 = .ok a → (work d).2.2.script.id = d.script.id ∧
      (Written (work d).2.2.script → Written a)) : (w.atDesk given work).Writes c := by
  refine onScript_writes fun s found a ok _ left => ?_
  obtain ⟨named, written⟩ := each _ a ok
  exact written (putDesk_written found (named.trans (desk_script s w)) left)

theorem createScript_writes (name : Text) (description : Option Text) :
    (w.createScript name description).Writes c := by
  rintro _ ⟨⟩ _ left
  exact Project.written_script left (List.mem_append_right _ List.mem_cons_self)

theorem renameScript_fails {id : Option Text} {name : Text} {e : EditError}
    (failed : (w.renameScript id name).answer = .error e) :
    e = .blankName ∨ ∃ g, e = .graph g ∧ g.Told := by
  unfold renameScript at failed
  split at failed <;> cases failed
  rename_i refused
  unfold Project.renameScript at refused
  cases required : w.project.requireScript id with
  | error g =>
      rw [required] at refused
      cases refused
      exact .inr ⟨g, rfl, Project.requireScript_told id g required⟩
  | ok s =>
      rw [required] at refused
      change s.setName name >>= _ = _ at refused
      unfold Script.setName at refused
      split at refused <;> cases refused
      exact .inl rfl

theorem duplicateScript_told (id name : Option Text) : (w.duplicateScript id name).FailsTold := by
  unfold duplicateScript
  split
  · exact fails_failed (Project.duplicateScript_told id name _ ‹_›)
  · exact fails_ok rfl

theorem duplicateScript_writes (id name : Option Text) : (w.duplicateScript id name).Writes c := by
  unfold duplicateScript
  split
  · nofun
  · rename_i s project ids copied
    obtain ⟨source, _, copied⟩ := ok_of_bind copied
    cases copied
    rintro _ ⟨⟩ _ left
    exact Project.written_script left (List.mem_append_right _ List.mem_cons_self)

theorem deleteScript_told (id : Option Text) (confirmed : Bool) : (w.deleteScript id confirmed).FailsTold := by
  refine onScript_told fun s => ?_
  split
  · split
    · exact fails_failed (Project.deleteScript_told _ _ ‹_›)
    · exact fails_ok rfl
  · exact fails_ok rfl

theorem selectScript_told (id : Option Text) : (w.selectScript id).FailsTold := by
  unfold selectScript
  split
  · exact fails_failed (Project.setCurrentScript_told id _ ‹_›)
  · exact fails_ok rfl

theorem compile_told : (w.compile c given).FailsTold := onScript_told fun _ => fails_ok rfl

theorem compile_writes : (w.compile c given).Writes c := by
  refine onScript_writes fun s found => ?_
  rintro _ ⟨⟩ templates left
  exact compile_written (Project.written_script left (Project.script?_mem (script_found found)).1) templates

theorem listing_told : (w.listing c given).FailsTold := onScript_told fun _ => fails_ok rfl

theorem addNode_told (draft : NodeDraft) : (w.addNode c given draft).FailsTold := by
  refine onScript_told fun s => ?_
  split
  · exact fails_failed (Script.addNode_told draft _ ‹_›)
  · exact fails_ok rfl

theorem addNode_writes (draft : NodeDraft) : (w.addNode c given draft).Writes c := by
  refine onScript_writes fun s found => ?_
  split
  · nofun
  · rename_i n t ids added
    obtain ⟨_, _, _, _, rfl⟩ := Script.addNode_ok added
    rintro _ ⟨⟩ _ left
    have written := setScript_written (t := { s with nodes := s.nodes ++ [n] }) found rfl left
    exact Script.written_node written (List.mem_append_right _ List.mem_cons_self)

theorem updateNode_told (node : Text) (change : NodeChange) : (w.updateNode given node change).FailsTold := by
  refine onScript_told fun s => ?_
  split
  · exact fails_failed (Script.changeNode_told node _ _ ‹_›)
  · exact fails_ok rfl

theorem updateNode_writes (node : Option Text) (change : NodeChange) :
    (w.updateNode given node change).Writes c := by
  refine onScript_writes fun s found => ?_
  split
  · nofun
  · rename_i n t changed
    obtain ⟨member, named⟩ := Script.changeNode_mem changed
    rintro _ ⟨⟩ _ left
    exact Script.written_node (setScript_written found named left) member

theorem rejected_told {g : GraphError} (told : g.Told) : ∃ h, rejected g = .graph h ∧ h.Told := by
  obtain ⟨d, told⟩ := told
  exact ⟨g, by rw [rejected, told], d, told⟩

theorem connect_told (link : Link) : (w.connect c given link.draft).FailsTold := by
  refine onScript_told fun s => ?_
  split
  · rintro _ ⟨⟩
    exact rejected_told (Script.connect_told _ _ _ _ _ ‹_›)
  · exact fails_ok rfl

theorem deleteConnection_told (connection : Text) : (w.deleteConnection c given connection).FailsTold := by
  refine onScript_told fun s => ?_
  split
  · exact fails_failed (Script.deleteConnection_told connection _ ‹_›)
  · exact fails_ok rfl

theorem addVariable_told (draft : VariableDraft) : (w.addVariable given draft).FailsTold :=
  onScript_told fun _ => fails_ok rfl

theorem addVariable_writes (draft : VariableDraft) : (w.addVariable given draft).Writes c := by
  refine onScript_writes fun s found => ?_
  rintro _ ⟨⟩ _ left
  have written := setScript_written (t := (s.addVariable draft w.ids).2.1) found rfl left
  exact Script.written_variable written (List.mem_append_right _ List.mem_cons_self)

theorem deleteVariable_told (id : Option Text) : (w.deleteVariable given id).FailsTold := by
  refine onScript_told fun s => ?_
  split
  · exact fails_failed (Script.deleteVariable_told id _ ‹_›)
  · exact fails_ok rfl

theorem editor_told : (w.editor given).FailsTold := atDesk_told fun _ _ => nofun

theorem select_told {change : Desk → Except GraphError Desk} (told : ∀ d, FailsTold (change d)) :
    (w.select given change).FailsTold := by
  refine atDesk_told fun d e failed => ?_
  split at failed <;> cases failed
  exact ⟨_, rfl, told d _ ‹_›⟩

theorem releaseConnection_told (node port : Option Text) :
    (w.releaseConnection c given node port).FailsTold := by
  refine atDesk_told fun d e failed => ?_
  split at failed
  · rename_i node port
    have told := Desk.releaseOnPort_told (c := c) (d := d) node (some port)
    split at failed <;> cases failed
    rename_i refused
    rw [refused] at told
    exact rejected_told (told _ rfl)
  · cases failed

theorem announceDeletion_told {outcome : Except GraphError Deletion × Desk} (told : FailsTold outcome.1) :
    ∀ e, (announceDeletion outcome).1 = .error e → ∃ g, e = .graph g ∧ g.Told := by
  intro e failed
  unfold announceDeletion at failed
  split at failed <;> cases failed
  exact ⟨_, rfl, told _ rfl⟩

theorem deleteNode_told (node : Text) : (w.deleteNode c given node).FailsTold :=
  atDesk_told fun _ => announceDeletion_told (Desk.deleteNode_told node)

theorem deleteSelection_told : (w.deleteSelection c given).FailsTold :=
  atDesk_told fun d => announceDeletion_told (Desk.deleteSelection_told d)

theorem duplicateSelection_told (offset : Float) : (w.duplicateSelection c given offset).FailsTold := by
  refine atDesk_told fun d e failed => ?_
  have told := Desk.duplicateSelection_told (c := c) (d := d) offset
  split at failed <;> cases failed
  rename_i refused
  rw [refused] at told
  exact ⟨_, rfl, told _ rfl⟩

theorem duplicateSelection_writes (offset : Float) : (w.duplicateSelection c given offset).Writes c := by
  refine atDesk_writes fun d copies ok => ?_
  have named := (Desk.after_kept (c := c) (.duplicateSelection offset) d).id
  simp only [Desk.after] at named
  split at ok <;> cases ok
  rename_i copied
  rw [copied] at named
  refine ⟨named, fun written => written_list.mpr fun n member => ?_⟩
  refine Script.written_node written ?_
  rcases Desk.duplicateSelection_cases c offset d with same | ⟨_, _, _, _, same⟩ | ⟨_, s, _, nodes, same⟩ <;>
    cases copied.symm.trans same
  · cases member
  · have behind : n ∈ s.nodes := nodes ▸ List.mem_append_right _ member
    exact behind

theorem moveSelection_told (dx dy : Float) : (w.moveSelection given dx dy).FailsTold :=
  atDesk_told fun _ _ => nofun

theorem moveSelection_writes (dx dy : Float) : (w.moveSelection given dx dy).Writes c := by
  refine atDesk_writes fun d moved ok => ?_
  cases ok
  refine ⟨(Desk.after_kept (c := c) (.moveSelection dx dy) d).id, fun written => ?_⟩
  refine written_list.mpr fun n member => Script.written_node written ?_
  obtain ⟨m, chosen, rfl⟩ := List.mem_map.mp member
  obtain ⟨present, selected⟩ := List.mem_filter.mp chosen
  refine List.mem_map.mpr ⟨m, present, ?_⟩
  rw [if_pos selected]

theorem renameNode_told (node : Text) (label : Text) : (w.renameNode given node label).FailsTold := by
  refine atDesk_told fun d e failed => ?_
  split at failed <;> cases failed
  exact ⟨_, rfl, Script.changeNode_told node _ _ ‹_›⟩

theorem renameNode_writes (node : Option Text) (label : Text) : (w.renameNode given node label).Writes c := by
  refine atDesk_writes fun d n ok => ?_
  split at ok <;> cases ok
  rename_i t renamed
  obtain ⟨member, named⟩ := Script.changeNode_mem renamed
  exact ⟨named, fun written => Script.written_node written member⟩

theorem openCommandSurface_told (x y : Float) (query : Text) :
    (w.openCommandSurface c given (.float x) (.float y) query).FailsTold := by
  refine atDesk_told fun d e failed => ?_
  cases failed

theorem openCommandSurface_offers {x y : Float} {query : Text} {session : Session}
    (ok : (w.openCommandSurface c given (.float x) (.float y) query).answer = .ok session) :
    session.Offers c := by
  unfold openCommandSurface atDesk onScript at ok
  split at ok
  · cases ok
    exact Session.refresh_offers _ _
  · cases ok

theorem atSession_told {α : Type} (work : Session → Recents → α × Session × Recents) :
    (w.atSession given work).FailsTold := by
  refine atDesk_told fun d e failed => ?_
  split at failed <;> cases failed
  exact ⟨_, rfl, _, rfl⟩

theorem commitCommand_told (type : Option Text) : (w.commitCommand c given type).FailsTold := by
  refine commitCommand_of_desk given type (atDesk_told fun d e failed => ?_) fun _ told => told
  split at failed <;> cases failed
  exact ⟨_, rfl, Desk.commitCommand_told type _ ‹_›⟩

theorem commitCommand_writes (type : Option Text) : (w.commitCommand c given type).Writes c := by
  refine commitCommand_of_desk given type (atDesk_writes fun d a ok => ?_) fun _ writes => writes
  split at ok <;> cases ok
  rename_i e committed
  have named := (Desk.after_kept (c := c) (.commitCommand type) d).id
  simp only [Desk.after, committed] at named
  exact ⟨named, Desk.commitCommand_written committed⟩

/-- Where a search offers what is in the catalog, the template at its cursor can be committed. -/
theorem commitCommand_succeeds (each : w.Each (Editor.Offers c)) (found : w.script given = .ok s) :
    ∃ n, (w.commitCommand c given none).answer = .ok n := by
  have offers : (w.desk s).Offers c := desk_holds (offers_steady c) each (script_found found)
  obtain ⟨⟨n, e⟩, committed⟩ := Desk.commitCommand_ok offers
  refine ⟨n, ?_⟩
  unfold commitCommand
  rw [atDesk_eq found]
  simp only [committed]
  split <;> rfl

theorem cancelCommand_told : (w.cancelCommand given).FailsTold := atDesk_told fun _ _ => nofun

theorem offers_allows (step : WorkspaceStep) (searchless : ∀ script work, step ≠ .search script work)
    (w : Workspace) : w.Allows c (Editor.Offers c) step := by
  cases step with
  | deleteConnection script connection => exact fun _ _ _ _ _ _ _ offers => offers
  | search script work => exact absurd rfl (searchless script work)
  | _ => trivial

theorem after_offers (step : WorkspaceStep) (searchless : ∀ script work, step ≠ .search script work)
    (each : w.Each (Editor.Offers c)) : (w.after c step).Each (Editor.Offers c) :=
  after_each (offers_steady c) step (offers_allows step searchless w) each

theorem atSession_offers {α : Type} {work : Session → Recents → α × Session × Recents}
    (kept : ∀ session recents, session.Offers c → (work session recents).2.1.Offers c)
    (each : w.Each (Editor.Offers c)) : (w.atSession given work).workspace.Each (Editor.Offers c) :=
  atSession_each (fun s e session recents there offers =>
    Editor.withSession_offers (kept session recents (offers session there)) s e) (offers_steady c) each

theorem atSession_answer {α : Type} {work : Session → Recents → α × Session × Recents} {a : α}
    (each : w.Each (Editor.Offers c)) (ok : (w.atSession given work).answer = .ok a) :
    ∃ s session recents, w.script given = .ok s ∧ session.Offers c ∧ a = (work session recents).1 := by
  cases found : w.script given with
  | error e =>
      rw [atSession, atDesk_missing found] at ok
      cases ok
  | ok s =>
      have offers : (w.desk s).Offers c := desk_holds (offers_steady c) each (script_found found)
      rw [atSession, atDesk_eq found] at ok
      cases held : (w.desk s).editor.session? with
      | none =>
          simp only [held] at ok
          cases ok
      | some session =>
          simp only [held] at ok
          cases ok
          exact ⟨s, session, _, rfl, offers session held, rfl⟩

theorem atDesk_script {α : Type} {work : Desk → Except EditError α × List Announcement × Desk}
    (named : ∀ d, (work d).2.2.script.id = d.script.id) (found : w.script given = .ok s) :
    ∃ t, (w.atDesk given work).workspace.script given = .ok t := by
  rw [atDesk_eq found]
  have named := (named (w.desk s)).trans (desk_script s w)
  have project : (w.putDesk (work (w.desk s)).2.2).project =
      w.project.replaceScript (work (w.desk s)).2.2.script.id (work (w.desk s)).2.2.script := rfl
  rw [script_replaced (named ▸ script_found found) project, found]
  exact ⟨_, rfl⟩

theorem cancelCommand_succeeds (found : w.script given = .ok s) : ∃ e, (w.cancelCommand given).answer = .ok e := by
  rw [cancelCommand, atDesk_eq found]
  exact ⟨_, rfl⟩

end Workspace

end NodeScript
