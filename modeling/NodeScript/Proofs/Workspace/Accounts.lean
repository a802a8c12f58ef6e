import NodeScript.Proofs.Editor.Run
import NodeScript.Proofs.Script.Deletions
import NodeScript.Proofs.Workspace.Telling

/-!
The announcements of a workspace account for the changes of its scripts. Whatever is done on a script
whose ids are distinct, the ids that went from it and the ids that came to it are the ones announced,
each once, and a delete that is refused is announced and changes neither nodes nor connections.
-/
namespace NodeScript

namespace Script

/-- Nodes and connections have ids of their own, which the supply does not give any more. -/
structure Identified (ids : IdSupply) (s : Script) : Prop where
  nodes : (s.nodes.map Node.id).Nodup
  connections : (s.connections.map Connection.id).Nodup
  spentNodes : ∀ id ∈ s.nodes.map Node.id, ids.Spent id
  spentConnections : ∀ id ∈ s.connections.map Connection.id, ids.Spent id

variable {c : Catalog} {s t : Script}

theorem deleteNodes_removes {given : List (Option Text)} {removal : Removal}
    (distinct : (s.nodes.map Node.id).Nodup) (links : (s.connections.map Connection.id).Nodup)
    (ok : s.deleteNodes c given = .ok (removal, t)) : Removes removal s t := by
  have left := (deleteNodes_remainder distinct links ok).2.2
  obtain ⟨doomed, found, ok⟩ := ok_of_bind ok
  cases ok
  obtain ⟨named, there⟩ := requireNodes_iff.mp found
  have once : (doomed.map some).Nodup := named ▸ nodup_eraseDups given
  constructor
  · rfl
  · refine ⟨doomed, rfl, List.Nodup.of_map _ once, fun id => ?_⟩
    have there := @there id
    rw [mem_prune_ids]
    tauto
  · exact ⟨_, rfl, left.once, left.others⟩
  · exact fun id member => (mem_prune_ids.mp member).1
  · exact (left.order.map _).subset

theorem deleteConnection_removes {id : Option Text} {removed : List Text}
    (distinct : (s.nodes.map Node.id).Nodup) (links : (s.connections.map Connection.id).Nodup)
    (ok : s.deleteConnection c id = .ok (removed, t)) : Removes { connections := removed } s t := by
  obtain ⟨rfl, left⟩ := deleteConnection_remainder distinct links ok
  constructor
  · rfl
  · refine Difference.of_subset fun id member => mem_prune_ids.mpr ⟨member, ?_⟩
    exact List.not_mem_nil
  · exact ⟨removed, rfl, left.once, left.others⟩
  · exact fun id member => (mem_prune_ids.mp member).1
  · exact (left.order.map _).subset

end Script

namespace Desk

variable {c : Catalog} {d e f : Desk} {copying : Bool} {deletion : Deletion}

theorem SameGraph.identified (same : SameGraph d e) (identified : d.script.Identified d.ids) :
    e.script.Identified e.ids := by
  constructor <;> simp only [same.nodes, same.connections, same.ids]
  · exact identified.nodes
  · exact identified.connections
  · exact identified.spentNodes
  · exact identified.spentConnections

theorem SameGraph.tells {announcements : List Announcement} (same : SameGraph d e)
    (tells : Tells copying announcements e.script f.script) :
    Tells copying announcements d.script f.script :=
  tells.congr same.id same.nodes same.connections

theorem SameGraph.nothing (same : SameGraph d e) : Tells copying [] d.script e.script :=
  .nothing same.id (by rw [same.nodes]) (by rw [same.connections])

theorem SameGraph.selected (same : SameGraph d e) :
    Tells copying [Workspace.selectionChanged e] d.script e.script :=
  same.nothing.aside same.id rfl

theorem deletePresent_removes (identified : d.script.Identified d.ids)
    (ok : d.deletePresent c = .ok (deletion, e)) :
    (∃ removal, deletion = .removed removal ∧ Removes removal d.script e.script) ∨
      ((∃ reason, deletion.reason? = some reason) ∧ e = d) := by
  rcases deletePresent_cases ok with ⟨_, _, _, _, deleted, rfl, rfl⟩ | ⟨_, _, _, _, _, deleted, rfl, rfl⟩ |
    ⟨rfl, reason⟩
  · have removes := Script.deleteConnection_removes identified.nodes identified.connections deleted
    exact .inl ⟨_, rfl, removes.recordSelection .nothing⟩
  · have removes := Script.deleteNodes_removes identified.nodes identified.connections deleted
    exact .inl ⟨_, rfl, removes.recordSelection .nothing⟩
  · exact .inr ⟨reason, rfl⟩

theorem deleteSelection_accounts (identified : d.script.Identified d.ids) :
    Accounts copying ((Workspace.announceDeletion (d.deleteSelection c)).1.map some)
      (Workspace.announceDeletion (d.deleteSelection c)).2.1 d.script
      (Workspace.announceDeletion (d.deleteSelection c)).2.2.script := by
  have same := refresh_same d
  refine Accounts.congr ?_ same.id same.nodes same.connections
  unfold deleteSelection
  cases deleted : d.refresh.deletePresent c with
  | error e =>
      simp only [deleted, Workspace.announceDeletion]
      exact ⟨SameGraph.refl.nothing, nofun, nofun⟩
  | ok result =>
      obtain ⟨deletion, e⟩ := result
      simp only [deleted, Workspace.announceDeletion]
      rcases deletePresent_removes (same.identified identified) deleted with
        ⟨removal, rfl, removes⟩ | ⟨⟨reason, told⟩, rfl⟩
      · have tells : Tells copying _ d.refresh.script e.script := removes.tells
        rw [← removes.id] at tells
        refine ⟨tells.aside removes.id rfl, ?_, ?_⟩
        · rintro ⟨⟩
        · rintro event count ⟨⟩
      · simp only [Workspace.deletionAnnouncements, told]
        refine ⟨SameGraph.refl.nothing.aside rfl rfl, ?_, ?_⟩
        · rintro ⟨⟩
          cases told
          exact ⟨rfl, rfl, rfl⟩
        · rintro event count ⟨⟩
          cases told
          exact ⟨rfl, rfl, rfl⟩

theorem deleteNode_accounts (id : Option Text) (identified : d.script.Identified d.ids) :
    Accounts copying ((Workspace.announceDeletion (d.deleteNode c id)).1.map some)
      (Workspace.announceDeletion (d.deleteNode c id)).2.1 d.script
      (Workspace.announceDeletion (d.deleteNode c id)).2.2.script := by
  unfold deleteNode
  cases clicked : d.clickNode id false with
  | error e => exact ⟨SameGraph.refl.nothing, nofun, nofun⟩
  | ok e =>
      have same := clickNode_same clicked
      exact (deleteSelection_accounts (same.identified identified)).congr same.id same.nodes
        same.connections

theorem copies_tells {s : Script} {copies : List Node} {ids last : IdSupply}
    (spent : ∀ id ∈ s.nodes.map Node.id, ids.Spent id)
    (new : IdSupply.New ids last (copies.map Node.id)) (id : e.script.id = s.id)
    (nodes : e.script.nodes = s.nodes ++ copies)
    (connections : s.connections.map Connection.id ⊆ e.script.connections.map Connection.id) :
    Tells true (Workspace.copyAnnouncements e copies) s e.script := by
  unfold Workspace.copyAnnouncements
  split
  · rename_i none
    rw [none, List.append_nil] at nodes
    refine ⟨id, by simp, ?_, ?_, .of_subset connections, nofun⟩ <;> rw [nodes] <;>
      exact Difference.of_subset (List.Subset.refl _)
  · rw [id]
    exact (Tells.copied spent new id nodes connections).aside id rfl

theorem duplicateSelection_tells (offset : Float) (identified : d.script.Identified d.ids) {copies : List Node}
    (ok : d.duplicateSelection c offset = (.ok copies, e)) :
    Tells true (Workspace.copyAnnouncements e copies) d.script e.script := by
  have same := refresh_same d
  refine same.tells ?_
  replace identified := same.identified identified
  unfold duplicateSelection at ok
  dsimp only at ok
  split at ok
  · rename_i ids selection
    unfold duplicateNodes at ok
    dsimp only at ok
    split at ok
    · cases ok
    · rename_i kept links
      cases ok
      have distinct : ((d.refresh.script.nodes.filter (isSelected (.nodes ids))).map Node.id).Nodup :=
        identified.nodes.sublist (List.filter_sublist.map _)
      have new := copies_new (d := d.refresh) offset distinct
      have more : d.refresh.script.connections.map Connection.id ⊆
          (d.refresh.script.connections ++ kept).map Connection.id := by
        rw [List.map_append]
        exact List.subset_append_left _ _
      exact copies_tells identified.spentNodes new rfl rfl more
  · cases ok
    exact SameGraph.refl.nothing

theorem duplicateSelection_failed {offset : Float} {error : GraphError}
    (failed : d.duplicateSelection c offset = (.error error, e)) :
    Tells true [] d.script e.script := by
  refine (refresh_same d).tells ?_
  rcases duplicateSelection_cases c offset d with same | ⟨_, _, ids, _, same⟩ | ⟨_, _, _, _, same⟩ <;>
    cases failed.symm.trans same
  exact .nothing rfl rfl rfl

theorem releaseOnPort_tells (copying : Bool) (node port : Option Text) (identified : d.script.Identified d.ids) :
    match d.releaseOnPort c node port with
    | (.error e, f) => Tells copying (Workspace.rejection f.script.id e) d.script f.script
    | (.ok k, f) => Tells copying (k.toList.map fun k =>
        .ofScript f.script.id .connectionAdded { connection := some k.id }) d.script f.script := by
  rcases releaseOnPort_cases c node port d with same | ⟨e, refused⟩ | ⟨_, k, t, ids, made, released⟩
  · rw [same]
    exact SameGraph.refl.nothing
  · rw [refused]
    exact (choose_same .nothing d).nothing.rejection rfl e
  · obtain ⟨named, rfl, rfl⟩ := Script.connect_extends made
    rw [released]
    exact Tells.connectionAdded identified.spentConnections (IdSupply.new_drawn named) rfl rfl rfl

theorem commitCommand_tells {type : Option Text} {n : Option Node} (identified : d.script.Identified d.ids)
    (ok : d.commitCommand c type = .ok (n, e)) :
    Tells copying (n.toList.flatMap (Workspace.commitAnnouncements e.script.id)) d.script e.script := by
  rcases commitCommand_cases ok with ⟨rfl, rfl⟩ | ⟨_, _, m, _, _, _, added, rfl, rfl⟩
  · exact SameGraph.refl.nothing
  · obtain ⟨_, named, rfl, _, rfl⟩ := Script.addNode_ok added
    change Tells copying ([_] ++ [_]) _ _
    refine Tells.aside ?_ rfl rfl
    exact Tells.nodeAdded identified.spentNodes (IdSupply.new_drawn named) rfl rfl rfl

theorem renameNode_tells {id : Option Text} {label : Text} {n : Node} {t : Script} {data : Option Members}
    (ok : d.script.renameNode id label = .ok (n, t)) :
    Tells copying [.ofScript t.id .nodeUpdated { node := some n.id, data }] d.script t := by
  obtain ⟨nodes, rfl, shaped⟩ := Script.renameNode_shape ok
  exact .noted rfl (ids_of_shape shaped) rfl rfl rfl

theorem moveSelection_tells (dx dy : Float) (d : Desk) (moved : List Node) :
    Tells copying (moved.map fun n => Workspace.nodeChanged (d.moveSelection dx dy).2 .nodeUpdated n.id)
      d.script (d.moveSelection dx dy).2.script := by
  have moved_ids := ids_of_shape (moveSelection_shape dx dy d)
  have still : Tells copying [] d.refresh.script (d.moveSelection dx dy).2.script :=
    .nothing rfl moved_ids rfl
  refine (refresh_same d).tells (still.beside ?_ ?_)
  · exact List.forall_mem_map.mpr fun _ _ => rfl
  · exact List.forall_mem_map.mpr fun _ _ => rfl

end Desk

namespace Workspace

variable {c : Catalog} {w v : Workspace} {s t : Script} {given : Option Text} {copying : Bool}

theorem desk_same (s : Script) (w : Workspace) :
    Desk.SameGraph { script := s, ids := w.ids } (w.desk s) := by
  unfold desk
  split
  · exact ⟨rfl, rfl, rfl, rfl⟩
  · have opened := Desk.refresh_same
      { script := s, editor := .resting (Selection.recorded s), recents := w.recents, ids := w.ids }
    exact ⟨opened.id, opened.nodes, opened.connections, opened.ids⟩

/-- Of the scripts one became another, and the announcements account for it. -/
def AccountsFor (copying : Bool) (w : Workspace) (s : Script) (o : Outcome (Option Deletion)) : Prop :=
  ∃ t, o.workspace.project.script? s.id = some t ∧
    (∀ id, id ≠ s.id → o.workspace.project.script? id = w.project.script? id) ∧
    Accounts copying o.answer o.announcements s t

theorem accountsFor_replaced {o : Outcome (Option Deletion)} (found : w.script given = .ok s)
    (project : o.workspace.project = w.project.replaceScript t.id t)
    (accounts : Accounts copying o.answer o.announcements s t) : AccountsFor copying w s o := by
  have named := accounts.tells.id
  have here : w.project.script? t.id = some s := named ▸ script_found found
  refine ⟨t, ?_, fun id other => ?_, accounts⟩ <;> rw [project, script?_replaceScript here, named]
  · rw [if_pos rfl]
  · rw [if_neg other]

theorem told_replaced {α : Type} {o : Outcome α} (found : w.script given = .ok s)
    (project : o.workspace.project = w.project.replaceScript t.id t)
    (tells : Tells copying o.announcements s t) :
    AccountsFor copying w s (o.answering fun _ => none) :=
  accountsFor_replaced found project (tells.accounts o.answer)

theorem told_same {α : Type} {o : Outcome α} (found : w.script given = .ok s)
    (same : o.workspace.project = w.project) (tells : Tells copying o.announcements s s) :
    AccountsFor copying w s (o.answering fun _ => none) := by
  refine ⟨s, ?_, fun id _ => ?_, tells.accounts o.answer⟩ <;> simp only [Outcome.answering, same]
  exact script_found found

theorem failed_accountsFor {α : Type} (found : w.script given = .ok s) (e : EditError) :
    AccountsFor copying w s ((failed e w : Outcome α).answering fun _ => none) :=
  told_same found rfl (.nothing rfl rfl rfl)

theorem atDesk_accountsFor {α : Type} {work : Desk → Except EditError α × List Announcement × Desk}
    {pick : α → Option Deletion} (found : w.script given = .ok s) (identified : s.Identified w.ids)
    (worked : ∀ d : Desk, d.script.Identified d.ids →
      Accounts copying ((work d).1.map pick) (work d).2.1 d.script (work d).2.2.script) :
    AccountsFor copying w s ((w.atDesk given work).answering pick) := by
  have same := desk_same s w
  rw [atDesk_eq found]
  exact accountsFor_replaced found rfl
    ((worked (w.desk s) (same.identified identified)).congr same.id same.nodes same.connections)

theorem told_atDesk {α : Type} {work : Desk → Except EditError α × List Announcement × Desk}
    (found : w.script given = .ok s) (identified : s.Identified w.ids)
    (tells : ∀ d : Desk, d.script.Identified d.ids →
      Tells copying (work d).2.1 d.script (work d).2.2.script) :
    AccountsFor copying w s ((w.atDesk given work).answering fun _ => none) :=
  atDesk_accountsFor found identified fun d identified => (tells d identified).accounts _

theorem select_accountsFor {change : Desk → Except GraphError Desk} (found : w.script given = .ok s)
    (identified : s.Identified w.ids) (same : ∀ d e, change d = .ok e → Desk.SameGraph d e) :
    AccountsFor copying w s ((w.select given change).answering fun _ => none) := by
  refine told_atDesk found identified fun d _ => ?_
  cases changed : change d with
  | error e => exact Desk.SameGraph.refl.nothing
  | ok e => exact (same d e changed).selected

theorem releaseConnection_accountsFor (node port : Option Text) (found : w.script given = .ok s)
    (identified : s.Identified w.ids) :
    AccountsFor copying w s ((w.releaseConnection c given node port).answering fun _ => none) := by
  refine told_atDesk found identified fun d identified => ?_
  split
  · rename_i node port
    have told := Desk.releaseOnPort_tells (c := c) copying (some node) (some port) identified
    split <;> rename_i released <;> rw [released] at told <;> exact told
  · have same : Desk.SameGraph d d.releaseElsewhere := Desk.releaseElsewhere_same d
    exact same.selected

theorem duplicateSelection_accountsFor (offset : Float) (found : w.script given = .ok s)
    (identified : s.Identified w.ids) :
    AccountsFor true w s ((w.duplicateSelection c given offset).answering fun _ => none) := by
  refine told_atDesk found identified fun d identified => ?_
  split <;> rename_i copied
  · exact Desk.duplicateSelection_tells offset identified copied
  · exact Desk.duplicateSelection_failed copied

theorem renameNode_accountsFor (node : Option Text) (label : Text) (found : w.script given = .ok s)
    (identified : s.Identified w.ids) :
    AccountsFor copying w s ((w.renameNode given node label).answering fun _ => none) := by
  refine told_atDesk found identified fun d _ => ?_
  split <;> rename_i renamed
  · exact Desk.SameGraph.refl.nothing
  · exact Desk.renameNode_tells renamed

theorem openCommandSurface_accountsFor (x y : Json) (query : Text) (found : w.script given = .ok s)
    (identified : s.Identified w.ids) :
    AccountsFor copying w s ((w.openCommandSurface c given x y query).answering fun _ => none) := by
  refine told_atDesk found identified fun d _ => ?_
  have same := Desk.openCommandSurface_same (c := c) x y query d
  split <;> rename_i opened <;> rw [opened] at same
  · exact same.nothing.aside same.id rfl
  · exact same.nothing

theorem search_accountsFor {α : Type} (work : Session → Recents → α × Session × Recents)
    (found : w.script given = .ok s) (identified : s.Identified w.ids) :
    AccountsFor copying w s ((w.atSession given work).answering fun _ => none) := by
  refine told_atDesk found identified fun d _ => ?_
  split <;> exact .nothing rfl rfl rfl

theorem commitCommand_accountsFor (type : Option Text) (found : w.script given = .ok s)
    (identified : s.Identified w.ids) :
    AccountsFor copying w s ((w.commitCommand c given type).answering fun _ => none) := by
  refine commitCommand_of_desk (motive := fun o => AccountsFor copying w s (o.answering fun _ => none))
    given type (told_atDesk found identified fun d identified => ?_) fun _ accounts => accounts
  split <;> rename_i committed
  · exact Desk.SameGraph.refl.nothing
  · exact Desk.commitCommand_tells identified committed

theorem cancelCommand_accountsFor (found : w.script given = .ok s) (identified : s.Identified w.ids) :
    AccountsFor copying w s ((w.cancelCommand given).answering fun _ => none) := by
  refine told_atDesk found identified fun d _ => ?_
  have same := Desk.cancelCommand_same d
  exact same.nothing.aside same.id rfl

theorem addNode_accountsFor (draft : NodeDraft) (found : w.script given = .ok s)
    (identified : s.Identified w.ids) :
    AccountsFor copying w s ((w.addNode c given draft).answering fun _ => none) := by
  rw [addNode, onScript_eq found]
  split
  · exact failed_accountsFor found _
  · rename_i n t ids added
    obtain ⟨_, named, rfl, _, rfl⟩ := Script.addNode_ok added
    refine told_replaced (t := { s with nodes := s.nodes ++ [n] }) found rfl ?_
    exact Tells.nodeAdded identified.spentNodes (IdSupply.new_drawn named) rfl rfl rfl

theorem updateNode_accountsFor (node : Option Text) (change : NodeChange) (found : w.script given = .ok s) :
    AccountsFor copying w s ((w.updateNode given node change).answering fun _ => none) := by
  rw [updateNode, onScript_eq found]
  split
  · exact failed_accountsFor found _
  · rename_i n t changed
    obtain ⟨nodes, rfl, shaped⟩ := Script.changeNode_shape change.apply (fun _ => rfl) (fun _ => rfl) changed
    refine told_replaced (t := { s with nodes }) found rfl ?_
    exact .noted rfl (ids_of_shape shaped) rfl rfl rfl

theorem connect_accountsFor (link : LinkDraft) (found : w.script given = .ok s)
    (identified : s.Identified w.ids) :
    AccountsFor copying w s ((w.connect c given link).answering fun _ => none) := by
  rw [connect, onScript_eq found]
  split
  · rename_i e _
    exact told_same found rfl ((Tells.nothing rfl rfl rfl).rejection rfl e)
  · rename_i k t ids connected
    obtain ⟨named, rfl, rfl⟩ := Script.connect_extends connected
    refine told_replaced (t := { s with connections := s.connections ++ [k] }) found rfl ?_
    exact Tells.connectionAdded identified.spentConnections (IdSupply.new_drawn named) rfl rfl rfl

theorem deleteConnection_accountsFor (connection : Option Text) (found : w.script given = .ok s)
    (identified : s.Identified w.ids) :
    AccountsFor copying w s ((w.deleteConnection c given connection).answering fun _ => none) := by
  rw [deleteConnection, onScript_eq found]
  split
  · exact failed_accountsFor found _
  · rename_i removed t deleted
    have removes := Script.deleteConnection_removes identified.nodes identified.connections deleted
    have tells : Tells copying _ s t := removes.tells
    rw [← removes.id] at tells
    exact told_replaced (t := t) found rfl tells

theorem addVariable_accountsFor (draft : VariableDraft) (found : w.script given = .ok s) :
    AccountsFor copying w s ((w.addVariable given draft).answering fun _ => none) := by
  rw [addVariable, onScript_eq found]
  refine told_replaced (t := (s.addVariable draft w.ids).2.1) found rfl ?_
  exact .noted rfl rfl rfl rfl rfl

theorem deleteVariable_accountsFor (id : Option Text) (found : w.script given = .ok s) :
    AccountsFor copying w s ((w.deleteVariable given id).answering fun _ => none) := by
  rw [deleteVariable, onScript_eq found]
  split
  · exact failed_accountsFor found _
  · rename_i t deleted
    unfold Script.deleteVariable at deleted
    split at deleted
    · cases deleted
      refine told_replaced (t := { s with vars := s.vars.filter fun v => some v.id ≠ id }) found rfl ?_
      exact .noted rfl rfl rfl rfl rfl
    · cases deleted

theorem compiled_tells (c : Catalog) (s : Script) :
    Tells copying [compiled (NodeScript.compile c s)] s s := by
  refine .noted rfl rfl rfl rfl ?_
  split <;> rfl

theorem compile_accountsFor (found : w.script given = .ok s) :
    AccountsFor copying w s ((w.compile c given).answering fun _ => none) := by
  rw [compile, onScript_eq found]
  exact told_same found rfl (compiled_tells c s)

theorem listing_accountsFor (found : w.script given = .ok s) :
    AccountsFor copying w s ((w.listing c given).answering fun _ => none) := by
  rw [listing, onScript_eq found]
  exact told_same found rfl (compiled_tells c s)

/-- Whatever is done on a script whose ids are distinct, the announcements account for it. -/
theorem perform_accounts (c : Catalog) (w : Workspace) (step : WorkspaceStep) (given : Option Text)
    (s : Script) (works : step.script? = some given) (found : w.script given = .ok s)
    (identified : s.Identified w.ids) : AccountsFor step.copies w s (w.perform c step) := by
  cases step with
  | start | clear | createScript | renameScript | duplicateScript | deleteScript | selectScript
  | saveProject | loadProject => cases works
  | addNode script draft =>
      cases works
      exact addNode_accountsFor draft found identified
  | updateNode script node change =>
      cases works
      exact updateNode_accountsFor node change found
  | connect script link =>
      cases works
      exact connect_accountsFor link found identified
  | deleteConnection script connection =>
      cases works
      exact deleteConnection_accountsFor connection found identified
  | addVariable script draft =>
      cases works
      exact addVariable_accountsFor draft found
  | deleteVariable script id =>
      cases works
      exact deleteVariable_accountsFor id found
  | editor script =>
      cases works
      exact told_atDesk found identified fun _ _ => Desk.SameGraph.refl.nothing
  | clickNode script node additive =>
      cases works
      exact select_accountsFor found identified fun _ _ => Desk.clickNode_same
  | clickConnection script connection =>
      cases works
      exact select_accountsFor found identified fun _ _ => Desk.clickConnection_same
  | clickCanvas script =>
      cases works
      refine select_accountsFor found identified fun d e ok => ?_
      cases ok
      exact (Desk.cancelCommand_same d).trans (Desk.choose_same _ _)
  | selectAll script =>
      cases works
      refine select_accountsFor found identified fun d e ok => ?_
      cases ok
      exact (Desk.cancelCommand_same d).trans (Desk.choose_same _ _)
  | beginConnection script node port =>
      cases works
      exact select_accountsFor found identified fun _ _ => Desk.beginConnection_same
  | releaseConnection script node port =>
      cases works
      exact releaseConnection_accountsFor node port found identified
  | deleteNode script node =>
      cases works
      exact atDesk_accountsFor found identified fun _ => Desk.deleteNode_accounts node
  | deleteSelection script =>
      cases works
      exact atDesk_accountsFor found identified fun _ => Desk.deleteSelection_accounts
  | duplicateSelection script offset =>
      cases works
      exact duplicateSelection_accountsFor offset found identified
  | moveSelection script dx dy =>
      cases works
      exact told_atDesk found identified fun d _ => Desk.moveSelection_tells dx dy d _
  | renameNode script node label =>
      cases works
      exact renameNode_accountsFor node label found identified
  | openCommandSurface script x y query =>
      cases works
      exact openCommandSurface_accountsFor x y query found identified
  | search script work =>
      cases works
      exact search_accountsFor work found identified
  | commitCommand script type =>
      cases works
      exact commitCommand_accountsFor type found identified
  | cancelCommand script =>
      cases works
      exact cancelCommand_accountsFor found identified
  | compile script =>
      cases works
      exact compile_accountsFor found
  | listing script =>
      cases works
      exact listing_accountsFor found

def repliedWorkspace : Workspace :=
  { project := { scripts := [replied], currentScript := some "replied" } }

/-- The bridge goes away, and with it the connection that only it allowed. -/
theorem perform_accounts_replied :
    let step : WorkspaceStep := .deleteNode none (some "bridge")
    let o := repliedWorkspace.perform replyCatalog step
    step.script? = some none ∧ repliedWorkspace.script none = .ok replied ∧
      replied.Identified repliedWorkspace.ids ∧ AccountsFor false repliedWorkspace replied o ∧
      toldNodes .nodeRemoved o.announcements = [some ("bridge" : Text)] ∧
      toldConnections .connectionRemoved o.announcements =
        [some ("c0" : Text), some "c1", some "c2"] := by
  have found : repliedWorkspace.script none = .ok replied := rfl
  have identified : replied.Identified repliedWorkspace.ids := by
    have nodes : ∀ id ∈ replied.nodes.map Node.id, id.letters.head? ≠ some (.char 'i') := by decide
    have connections : ∀ id ∈ replied.connections.map Connection.id,
        id.letters.head? ≠ some (.char 'i') := by decide
    exact ⟨by decide, by decide, fun id member n _ => IdSupply.idText_ne (nodes id member),
      fun id member n _ => IdSupply.idText_ne (connections id member)⟩
  exact ⟨rfl, found, identified,
    perform_accounts replyCatalog repliedWorkspace _ none replied rfl found identified,
    by decide +kernel, by decide +kernel⟩

end Workspace

end NodeScript
