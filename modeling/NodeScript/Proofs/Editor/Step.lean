import NodeScript.Editor.Command
import NodeScript.Editor.Removal
import NodeScript.Proofs.Editor.Copy
import NodeScript.Proofs.Script.Link
import NodeScript.Proofs.Script.Removal

namespace NodeScript

/-- What can be done at an editor. A search is left with the session and the recent types it has
then. -/
inductive EditorStep where
  | reopen
  | clickNode (id : Option Text) (additive : Bool)
  | clickCanvas
  | clickConnection (id : Option Text)
  | selectAll
  | beginConnection (node port : Option Text)
  | releaseOnPort (node port : Option Text)
  | releaseElsewhere
  | openCommandSurface (x y : Json) (query : Text)
  | searchOn (session : Session) (recents : Recents)
  | commitCommand (type : Option Text)
  | cancelCommand
  | deleteSelection
  | deleteNode (id : Option Text)
  | duplicateSelection (offset : Float)
  | moveSelection (dx dy : Float)
  | renameScript (name : Text)
  | renameNode (id : Option Text) (label : Text)

namespace Desk

variable {c : Catalog} {d e : Desk}

/-- The desk after a step, failed or not. -/
def after (c : Catalog) (d : Desk) : EditorStep → Desk
  | .reopen => start d.script d.recents d.ids
  | .clickNode node additive => orSame d id (d.clickNode node additive)
  | .clickCanvas => d.clickCanvas
  | .clickConnection link => orSame d id (d.clickConnection link)
  | .selectAll => d.selectAll
  | .beginConnection node port => orSame d id (d.beginConnection c node port)
  | .releaseOnPort node port => (d.releaseOnPort c node port).2
  | .releaseElsewhere => d.releaseElsewhere
  | .openCommandSurface x y query => (d.openCommandSurface c x y query).2
  | .searchOn session recents => d.setSession session recents
  | .commitCommand type => orSame d (·.2) (d.commitCommand c type)
  | .cancelCommand => d.cancelCommand
  | .deleteSelection => (d.deleteSelection c).2
  | .deleteNode id => (d.deleteNode c id).2
  | .duplicateSelection offset => (d.duplicateSelection c offset).2
  | .moveSelection dx dy => (d.moveSelection dx dy).2
  | .renameScript name => orSame d (fun s => { d with script := s }) (d.script.setName name)
  | .renameNode id label =>
    orSame d (fun r => { d with script := r.2 }) (d.script.renameNode id label)

theorem clickNode_ok {id : Option Text} {additive : Bool} (ok : d.clickNode id additive = .ok e) :
    ∃ n, d.script.requireNode id = .ok n ∧
      e = d.cancelCommand.choose (withNode n.id additive d.cancelCommand.editor.selection) := by
  obtain ⟨n, found, ok⟩ := ok_of_bind ok
  cases ok
  exact ⟨n, found, rfl⟩

theorem clickConnection_ok {id : Option Text} (ok : d.clickConnection id = .ok e) :
    ∃ k, d.script.requireConnection id = .ok k ∧ e = d.cancelCommand.choose (.connection k.id) := by
  obtain ⟨k, found, ok⟩ := ok_of_bind ok
  cases ok
  exact ⟨k, found, rfl⟩

theorem beginConnection_ok {node port : Option Text} (ok : d.beginConnection c node port = .ok e) :
    ∃ n t output, d.script.requireNode node = .ok n ∧ c.templateOf n = .ok t ∧
      port.bind t.output? = some output ∧ e = d.cancelCommand.choose (.drag n.id output.name) := by
  obtain ⟨n, found, ok⟩ := ok_of_bind ok
  obtain ⟨t, known, ok⟩ := ok_of_bind ok
  cases out : port.bind t.output? with
  | none => simp [out] at ok
  | some output =>
      simp only [out] at ok
      cases ok
      exact ⟨n, t, output, found, known, out, rfl⟩

theorem releaseOnPort_cases (c : Catalog) (node port : Option Text) (d : Desk) :
    d.releaseOnPort c node port = (.ok none, d) ∨
    (∃ error, d.releaseOnPort c node port = (.error error, d.choose .nothing)) ∨
    ∃ link k s ids, (d.choose .nothing).script.connect c link d.ids = .ok (k, s, ids) ∧
      d.releaseOnPort c node port = (.ok (some k), { d.choose .nothing with script := s, ids }) := by
  unfold releaseOnPort
  cases d.dragLink? node port with
  | none => exact Or.inl rfl
  | some link =>
      cases made : (d.choose .nothing).script.connect c link (d.choose .nothing).ids with
      | error error => exact Or.inr (Or.inl ⟨error, by simp only [made]⟩)
      | ok result =>
          obtain ⟨k, s, ids⟩ := result
          exact Or.inr (Or.inr ⟨link, k, s, ids, made, by simp only [made]⟩)

theorem commitCommand_cases {type : Option Text} {made : Option Node}
    (ok : d.commitCommand c type = .ok (made, e)) :
    made = none ∧ e = d ∨
    ∃ surface, ∃ t : Template, ∃ n s ids, d.editor = .commanding surface ∧
      d.script.addNode c { type := t.type, position := some surface.position } d.ids = .ok (n, s, ids) ∧
      made = some n ∧
      e = { d with script := s, ids, recents := d.recents.record t.type }.choose .nothing := by
  unfold commitCommand at ok
  split at ok
  · cases ok
    exact Or.inl ⟨rfl, rfl⟩
  · rename_i surface held
    obtain ⟨found, _, ok⟩ := ok_of_bind ok
    cases found with
    | none =>
        cases ok
        exact Or.inl ⟨rfl, rfl⟩
    | some t =>
        obtain ⟨⟨n, s, ids⟩, added, ok⟩ := ok_of_bind ok
        cases ok
        exact Or.inr ⟨surface, t, n, s, ids, held, added, rfl, rfl⟩

/-- A delete of what is selected removes a connection, or nodes that are no event alone with others to
feed, or is refused and leaves the desk. -/
theorem deletePresent_cases {deletion : Deletion} (ok : d.deletePresent c = .ok (deletion, e)) :
    (∃ id links s, d.editor.selection = .connection id ∧ d.script.deleteConnection c id = .ok (links, s) ∧
      deletion = .removed { connections := links } ∧ e = { d with script := s }.choose .nothing) ∨
    (∃ ids removal s, d.editor.selection = .nodes ids ∧ (∀ id, ids = [id] → feeds c d.script id = 0) ∧
      d.script.deleteNodes c (ids.map some) = .ok (removal, s) ∧ deletion = .removed removal ∧
      e = { d with script := s }.choose .nothing) ∨
    e = d ∧ ∃ reason, deletion.reason? = some reason := by
  unfold deletePresent at ok
  split at ok
  · rename_i id chosen
    obtain ⟨⟨links, s⟩, deleted, ok⟩ := ok_of_bind ok
    cases ok
    exact Or.inl ⟨id, links, s, chosen, deleted, rfl, rfl⟩
  · rename_i id chosen
    dsimp only at ok
    split at ok
    · rename_i free
      obtain ⟨⟨removal, s⟩, deleted, ok⟩ := ok_of_bind ok
      cases ok
      refine Or.inr (Or.inl ⟨[id], removal, s, chosen, ?_, deleted, rfl, rfl⟩)
      intro other same
      exact (List.cons.inj same).1 ▸ free
    · cases ok
      exact Or.inr (Or.inr ⟨rfl, _, rfl⟩)
  · rename_i ids many chosen
    obtain ⟨⟨removal, s⟩, deleted, ok⟩ := ok_of_bind ok
    cases ok
    refine Or.inr (Or.inl ⟨ids, removal, s, chosen, ?_, deleted, rfl, rfl⟩)
    rintro id rfl
    exact absurd rfl (many id)
  · cases ok
    exact Or.inr (Or.inr ⟨rfl, _, rfl⟩)

theorem deleteSelection_cases (c : Catalog) (d : Desk) :
    (d.deleteSelection c).2 = d.refresh ∨
      ∃ s, (d.deleteSelection c).2 = { d.refresh with script := s }.choose .nothing := by
  unfold deleteSelection
  cases deleted : d.refresh.deletePresent c with
  | error => exact Or.inl (by simp only [deleted])
  | ok result =>
      simp only [deleted]
      rcases deletePresent_cases deleted with ⟨_, _, s, _, _, _, chosen⟩ | ⟨_, _, s, _, _, _, _, chosen⟩ |
        ⟨same, _⟩
      · exact Or.inr ⟨s, chosen⟩
      · exact Or.inr ⟨s, chosen⟩
      · exact Or.inl same

/-- Copying leaves the desk refreshed where no nodes are selected. Else it is refused when ids are drawn,
or adds copies to the nodes and selects them. -/
theorem duplicateSelection_cases (c : Catalog) (offset : Float) (d : Desk) :
    d.duplicateSelection c offset = (.ok [], d.refresh) ∨
      (∃ e selected ids, d.refresh.editor.selection = .nodes selected ∧
        d.duplicateSelection c offset = (.error e, { d.refresh with ids })) ∨
      ∃ copies s ids, s.nodes = d.refresh.script.nodes ++ copies ∧
        d.duplicateSelection c offset =
          (.ok copies, { d.refresh with script := s, ids }.choose (.nodes (copies.map Node.id))) := by
  unfold duplicateSelection
  dsimp only
  split
  · rename_i selected left
    unfold duplicateNodes
    dsimp only
    split
    · exact Or.inr (Or.inl ⟨_, selected, _, left, rfl⟩)
    · exact Or.inr (Or.inr ⟨_, _, _, rfl, rfl⟩)
  · exact Or.inl rfl

def Kept (c : Catalog) (d e : Desk) : Prop := d.script.Kept c d.ids e.ids e.script

theorem Kept.trans {f : Desk} (first : Kept c d e) (second : Kept c e f) : Kept c d f :=
  Script.Kept.trans first second

theorem kept_of_graph (id : e.script.id = d.script.id) (nodes : e.script.nodes = d.script.nodes)
    (connections : e.script.connections = d.script.connections) (ids : e.ids = d.ids) : Kept c d e :=
  .of_graph (ids ▸ IdSupply.le_refl d.ids) id nodes connections

theorem choose_kept (selection : Selection) (d : Desk) : Kept c d (d.choose selection) :=
  kept_of_graph rfl rfl rfl rfl

theorem refresh_kept (d : Desk) : Kept c d d.refresh := by
  unfold refresh
  split
  · exact choose_kept _ d
  · exact kept_of_graph rfl rfl rfl rfl

theorem cancelCommand_kept (d : Desk) : Kept c d d.cancelCommand := by
  unfold cancelCommand
  split
  · exact Script.Kept.refl
  · exact choose_kept _ d

theorem clickNode_kept {id : Option Text} {additive : Bool} (ok : d.clickNode id additive = .ok e) :
    Kept c d e := by
  obtain ⟨n, _, rfl⟩ := clickNode_ok ok
  exact (cancelCommand_kept d).trans (choose_kept _ _)

theorem clickConnection_kept {id : Option Text} (ok : d.clickConnection id = .ok e) : Kept c d e := by
  obtain ⟨k, _, rfl⟩ := clickConnection_ok ok
  exact (cancelCommand_kept d).trans (choose_kept _ _)

theorem beginConnection_kept {node port : Option Text} (ok : d.beginConnection c node port = .ok e) :
    Kept c d e := by
  obtain ⟨n, t, output, _, _, _, rfl⟩ := beginConnection_ok ok
  exact (cancelCommand_kept d).trans (choose_kept _ _)

theorem releaseOnPort_kept (node port : Option Text) (d : Desk) :
    Kept c d (d.releaseOnPort c node port).2 := by
  rcases releaseOnPort_cases c node port d with same | ⟨_, refused⟩ | ⟨_, k, s, ids, made, released⟩
  · exact same ▸ Script.Kept.refl
  · exact refused ▸ choose_kept .nothing d
  · exact released ▸ (choose_kept .nothing d).trans (Script.connect_kept made)

theorem releaseElsewhere_kept (d : Desk) : Kept c d d.releaseElsewhere := by
  unfold releaseElsewhere
  split
  · exact choose_kept _ d
  · exact Script.Kept.refl

theorem openCommandSurface_kept (x y : Json) (query : Text) (d : Desk) :
    Kept c d (d.openCommandSurface c x y query).2 := by
  unfold openCommandSurface
  split <;> exact kept_of_graph rfl rfl rfl rfl

theorem commitCommand_kept {type : Option Text} {n : Option Node}
    (ok : d.commitCommand c type = .ok (n, e)) : Kept c d e := by
  rcases commitCommand_cases ok with ⟨_, rfl⟩ | ⟨_, _, _, _, ids, _, added, _, rfl⟩
  · exact Script.Kept.refl
  · exact Script.Kept.trans (Script.addNode_kept added) (.of_graph (IdSupply.le_refl ids) rfl rfl rfl)

theorem deletePresent_kept {deletion : Deletion} (ok : d.deletePresent c = .ok (deletion, e)) :
    Kept c d e := by
  rcases deletePresent_cases ok with ⟨_, _, _, _, deleted, _, rfl⟩ | ⟨_, _, _, _, _, deleted, _, rfl⟩ |
    ⟨rfl, _⟩
  · exact Script.Kept.trans (Script.deleteConnection_kept deleted)
      (.of_graph (IdSupply.le_refl d.ids) rfl rfl rfl)
  · exact Script.Kept.trans (Script.deleteNodes_kept deleted)
      (.of_graph (IdSupply.le_refl d.ids) rfl rfl rfl)
  · exact Script.Kept.refl

theorem deleteSelection_kept (d : Desk) : Kept c d (d.deleteSelection c).2 := by
  unfold deleteSelection
  cases deleted : d.refresh.deletePresent c with
  | error => simpa only [deleted] using refresh_kept d
  | ok result =>
      simp only [deleted]
      exact (refresh_kept d).trans (deletePresent_kept deleted)

theorem deleteNode_kept (id : Option Text) (d : Desk) : Kept c d (d.deleteNode c id).2 := by
  unfold deleteNode
  cases clicked : d.clickNode id false with
  | error => exact Script.Kept.refl
  | ok e => exact (clickNode_kept clicked).trans (deleteSelection_kept e)

theorem duplicateNodes_kept (offset : Float) {selected : List Node}
    (sub : selected.Sublist d.script.nodes) : Kept c d (d.duplicateNodes c offset selected).2 := by
  have newNodes := IdSupply.drawFor_new d.ids selected
  have newLinks := copiedConnections_new (d.ids.drawFor selected).1 d.script.connections
    (d.ids.drawFor selected).2
  have later := IdSupply.le_trans newNodes.later newLinks.later
  unfold duplicateNodes
  dsimp only
  split
  · exact Script.Kept.of_graph later rfl rfl rfl
  · rename_i kept ok
    refine ⟨rfl, later, fun sound => ?_⟩
    refine duplicated_sound (IdSupply.drawFor_items d.ids selected) sub
      (newNodes.widen (IdSupply.le_refl _) newLinks.later)
      (newLinks.widen newNodes.later (IdSupply.le_refl _)) ?_ ?_ ok rfl rfl sound
    · exact fun link member => mem_copiedConnections member
    · exact copiedConnections_inputs newNodes.distinct sound.formed.inputs

theorem duplicateSelection_kept (offset : Float) (d : Desk) :
    Kept c d (d.duplicateSelection c offset).2 := by
  unfold duplicateSelection
  dsimp only
  split
  · exact (refresh_kept d).trans (duplicateNodes_kept offset List.filter_sublist)
  · exact refresh_kept d

theorem moveSelection_kept (dx dy : Float) (d : Desk) : Kept c d (d.moveSelection dx dy).2 := by
  refine (refresh_kept d).trans (Script.map_kept _ ?_ ?_ ?_) <;>
  · intro n
    dsimp only
    split <;> rfl

theorem after_kept (step : EditorStep) (d : Desk) : Kept c d (d.after c step) := by
  cases step with
  | reopen =>
      have opened : Kept c { d with editor := .resting (Selection.recorded d.script) }
        (start d.script d.recents d.ids) := refresh_kept _
      exact opened
  | clickNode id additive => exact orSame_of Script.Kept.refl fun _ ok => clickNode_kept ok
  | clickCanvas => exact (cancelCommand_kept d).trans (choose_kept _ _)
  | clickConnection id => exact orSame_of Script.Kept.refl fun _ ok => clickConnection_kept ok
  | selectAll => exact (cancelCommand_kept d).trans (choose_kept _ _)
  | beginConnection node port => exact orSame_of Script.Kept.refl fun _ ok => beginConnection_kept ok
  | releaseOnPort node port => exact releaseOnPort_kept node port d
  | releaseElsewhere => exact releaseElsewhere_kept d
  | openCommandSurface x y query => exact openCommandSurface_kept x y query d
  | searchOn session recents => exact kept_of_graph rfl rfl rfl rfl
  | commitCommand type => exact orSame_of Script.Kept.refl fun _ ok => commitCommand_kept ok
  | cancelCommand => exact cancelCommand_kept d
  | deleteSelection => exact deleteSelection_kept d
  | deleteNode id => exact deleteNode_kept id d
  | duplicateSelection offset => exact duplicateSelection_kept offset d
  | moveSelection dx dy => exact moveSelection_kept dx dy d
  | renameScript name => exact orSame_of Script.Kept.refl fun _ ok => Script.setName_kept ok
  | renameNode id label => exact orSame_of Script.Kept.refl fun _ ok => Script.renameNode_kept ok

end Desk

end NodeScript
