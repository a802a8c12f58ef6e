import NodeScript.Proofs.Editor.Standing

namespace NodeScript

namespace IdSupply

/-- Some of the old ids, and behind them new ones. -/
def Renewed (ids more : IdSupply) (old now : List Text) : Prop :=
  ∃ kept added, kept.Sublist old ∧ now = kept ++ added ∧ New ids more added

variable {ids more last : IdSupply} {old now later : List Text}

theorem Renewed.of_sublist (le : ids ≤ more) (sub : now.Sublist old) : Renewed ids more old now :=
  ⟨now, [], sub, (List.append_nil _).symm, new_nil le⟩

theorem Renewed.of_new {added : List Text} (new : New ids more added) :
    Renewed ids more old (old ++ added) :=
  ⟨old, added, List.Sublist.refl _, rfl, new⟩

theorem New.trans {l m : List Text} (first : New ids more l) (second : New more last m) :
    New ids last (l ++ m) where
  later := le_trans first.later second.later
  distinct := second.append first.distinct first.spent
  fresh := by
    intro id member
    rcases List.mem_append.mp member with old | new
    · exact first.fresh id old
    · exact fun spent => second.fresh id new (spent.mono first.later)
  spent := second.spent_append first.spent

theorem Renewed.trans (first : Renewed ids more old now) (second : Renewed more last now later) :
    Renewed ids last old later := by
  obtain ⟨kept, added, sub, rfl, new⟩ := first
  obtain ⟨kept', added', sub', rfl, new'⟩ := second
  obtain ⟨front, back, rfl, fewer, fewer'⟩ := List.sublist_append_iff.mp sub'
  exact ⟨front, back ++ added', fewer.trans sub, List.append_assoc _ _ _,
    (new.sublist fewer').trans new'⟩

theorem Renewed.nodup (renewed : Renewed ids more old now) (distinct : old.Nodup)
    (spent : ∀ id ∈ old, ids.Spent id) : now.Nodup := by
  obtain ⟨kept, added, sub, rfl, new⟩ := renewed
  exact new.append (distinct.sublist sub) fun id member => spent id (sub.subset member)

theorem Renewed.spent (renewed : Renewed ids more old now) (spent : ∀ id ∈ old, ids.Spent id) :
    ∀ id ∈ now, more.Spent id := by
  obtain ⟨kept, added, sub, rfl, new⟩ := renewed
  exact new.spent_append fun id member => spent id (sub.subset member)

theorem Renewed.origin (renewed : Renewed ids more old now) {id : Text} (member : id ∈ now) :
    id ∈ old ∨ ∃ n, ids.name n = id := by
  obtain ⟨kept, added, sub, rfl, new⟩ := renewed
  rcases List.mem_append.mp member with before | given
  · exact Or.inl (sub.subset before)
  · have fresh := new.fresh id given
    simp only [Spent, not_forall, not_not] at fresh
    obtain ⟨n, _, same⟩ := fresh
    exact Or.inr ⟨n, same⟩

end IdSupply

namespace Desk

structure Renewed (d e : Desk) : Prop where
  later : d.ids ≤ e.ids
  nodes : IdSupply.Renewed d.ids e.ids (d.script.nodes.map Node.id) (e.script.nodes.map Node.id)
  connections : IdSupply.Renewed d.ids e.ids (d.script.connections.map Connection.id)
    (e.script.connections.map Connection.id)

section

variable {c : Catalog} {d e f : Desk}

theorem Renewed.trans (first : Renewed d e) (second : Renewed e f) : Renewed d f :=
  ⟨IdSupply.le_trans first.later second.later, first.nodes.trans second.nodes,
    first.connections.trans second.connections⟩

theorem Renewed.of_sublist (later : d.ids ≤ e.ids)
    (nodes : (e.script.nodes.map Node.id).Sublist (d.script.nodes.map Node.id))
    (connections : (e.script.connections.map Connection.id).Sublist
      (d.script.connections.map Connection.id)) : Renewed d e :=
  ⟨later, .of_sublist later nodes, .of_sublist later connections⟩

theorem SameGraph.renewed (same : SameGraph d e) : Renewed d e := by
  refine .of_sublist ?_ ?_ ?_
  · rw [same.ids]
    exact IdSupply.le_refl _
  · rw [same.nodes]
  · rw [same.connections]

theorem refresh_renewed (d : Desk) : Renewed d d.refresh := (refresh_same d).renewed

theorem clickNode_same {id : Option Text} {additive : Bool} (ok : d.clickNode id additive = .ok e) :
    SameGraph d e := by
  obtain ⟨n, _, rfl⟩ := clickNode_ok ok
  exact (cancelCommand_same d).trans (choose_same _ _)

theorem clickConnection_same {id : Option Text} (ok : d.clickConnection id = .ok e) :
    SameGraph d e := by
  obtain ⟨k, _, rfl⟩ := clickConnection_ok ok
  exact (cancelCommand_same d).trans (choose_same _ _)

theorem beginConnection_same {node port : Option Text} (ok : d.beginConnection c node port = .ok e) :
    SameGraph d e := by
  obtain ⟨n, t, output, _, _, _, rfl⟩ := beginConnection_ok ok
  exact (cancelCommand_same d).trans (choose_same _ _)

theorem releaseElsewhere_same (d : Desk) : SameGraph d d.releaseElsewhere := by
  unfold releaseElsewhere
  split
  · exact choose_same _ d
  · exact .refl

theorem openCommandSurface_same (x y : Json) (query : Text) (d : Desk) :
    SameGraph d (d.openCommandSurface c x y query).2 := by
  unfold openCommandSurface
  split <;> exact ⟨rfl, rfl, rfl, rfl⟩

theorem releaseOnPort_renewed (node port : Option Text) (d : Desk) :
    Renewed d (d.releaseOnPort c node port).2 := by
  rcases releaseOnPort_cases c node port d with same | ⟨_, refused⟩ | ⟨_, k, s, ids, made, released⟩
  · exact same ▸ SameGraph.refl.renewed
  · exact refused ▸ (choose_same .nothing d).renewed
  · obtain ⟨named, rfl, rfl⟩ := Script.connect_extends made
    have later := IdSupply.le_draw d.ids
    rw [released]
    refine ⟨later, .of_sublist later (List.Sublist.refl _), ?_⟩
    simp only [choose, Script.recordSelection, List.map_append]
    exact .of_new (IdSupply.new_drawn named)

theorem commitCommand_renewed {type : Option Text} {n : Option Node}
    (ok : d.commitCommand c type = .ok (n, e)) : Renewed d e := by
  rcases commitCommand_cases ok with ⟨_, rfl⟩ | ⟨_, _, _, _, _, _, added, _, rfl⟩
  · exact SameGraph.refl.renewed
  · obtain ⟨_, named, rfl, _, rfl⟩ := Script.addNode_ok added
    have later := IdSupply.le_draw d.ids
    refine ⟨later, ?_, .of_sublist later (List.Sublist.refl _)⟩
    simp only [choose, Script.recordSelection, List.map_append]
    exact .of_new (IdSupply.new_drawn named)

theorem prune_renewed (nodes connections : List Text) (d : Desk) (selection : Selection) :
    Renewed d (({ d with script := d.script.prune nodes connections } : Desk).choose selection) := by
  refine .of_sublist (IdSupply.le_refl _) ?_ (List.filter_sublist.map _)
  have pruned := ids_of_shape (Script.shape_prune nodes connections d.script)
  simp only [choose, Script.recordSelection, pruned]
  exact List.filter_sublist.map _

theorem deletePresent_renewed {deletion : Deletion} (ok : d.deletePresent c = .ok (deletion, e)) :
    Renewed d e := by
  rcases deletePresent_cases ok with ⟨_, _, _, _, deleted, _, rfl⟩ | ⟨_, _, _, _, _, deleted, _, rfl⟩ |
    ⟨rfl, _⟩
  · obtain ⟨k, _, deleted⟩ := ok_of_bind deleted
    cases deleted
    exact prune_renewed _ _ d _
  · obtain ⟨doomed, _, deleted⟩ := ok_of_bind deleted
    cases deleted
    exact prune_renewed _ _ d _
  · exact SameGraph.refl.renewed

theorem deleteSelection_renewed (d : Desk) : Renewed d (d.deleteSelection c).2 := by
  unfold deleteSelection
  cases deleted : d.refresh.deletePresent c with
  | error => simpa only [deleted] using refresh_renewed d
  | ok result =>
      simp only [deleted]
      exact (refresh_renewed d).trans (deletePresent_renewed deleted)

theorem deleteNode_renewed (id : Option Text) (d : Desk) : Renewed d (d.deleteNode c id).2 := by
  unfold deleteNode
  cases clicked : d.clickNode id false with
  | error => exact SameGraph.refl.renewed
  | ok e => exact (clickNode_same clicked).renewed.trans (deleteSelection_renewed e)

theorem copies_new (offset : Float) {selected : List Node} (distinct : (selected.map Node.id).Nodup) :
    IdSupply.New d.ids (d.ids.drawFor selected).2
      ((selected.map (copiedNode (d.ids.drawFor selected).1 offset)).map Node.id) := by
  rw [copied_ids (IdSupply.drawFor_items d.ids selected) distinct fun _ => rfl]
  exact IdSupply.drawFor_new d.ids selected

theorem duplicateNodes_renewed (offset : Float) {selected : List Node}
    (distinct : (selected.map Node.id).Nodup) :
    Renewed d (d.duplicateNodes c offset selected).2 := by
  have newNodes := copies_new (d := d) offset distinct
  have newLinks := copiedConnections_new (d.ids.drawFor selected).1 d.script.connections
    (d.ids.drawFor selected).2
  have later := IdSupply.le_trans newNodes.later newLinks.later
  unfold duplicateNodes
  dsimp only
  split
  · exact .of_sublist later (List.Sublist.refl _) (List.Sublist.refl _)
  · rename_i kept ok
    have fewer := keptConnections_eq ok ▸ List.filter_sublist
    refine ⟨later, ?_, ?_⟩ <;> simp only [choose, Script.recordSelection, List.map_append]
    · exact .of_new (newNodes.widen (IdSupply.le_refl _) newLinks.later)
    · exact .of_new ((newLinks.sublist (fewer.map _)).widen newNodes.later (IdSupply.le_refl _))

theorem duplicateSelection_renewed (offset : Float) (distinct : (d.script.nodes.map Node.id).Nodup) :
    Renewed d (d.duplicateSelection c offset).2 := by
  unfold duplicateSelection
  dsimp only
  split
  · refine (refresh_renewed d).trans (duplicateNodes_renewed offset ?_)
    rw [(refresh_same d).nodes]
    exact distinct.sublist (List.filter_sublist.map _)
  · exact refresh_renewed d

theorem moveSelection_renewed (dx dy : Float) (d : Desk) : Renewed d (d.moveSelection dx dy).2 := by
  refine (refresh_renewed d).trans (.of_sublist (IdSupply.le_refl _) ?_ (List.Sublist.refl _))
  rw [ids_of_shape (moveSelection_shape dx dy d)]

theorem after_renewed (step : EditorStep) (distinct : (d.script.nodes.map Node.id).Nodup) :
    Renewed d (d.after c step) := by
  have same : Renewed d d := SameGraph.refl.renewed
  cases step with
  | reopen =>
      have opened : SameGraph { d with editor := .resting (Selection.recorded d.script) }
        (start d.script d.recents d.ids) := refresh_same _
      exact ⟨opened.renewed.later, opened.renewed.nodes, opened.renewed.connections⟩
  | clickNode id additive => exact orSame_of same fun _ ok => (clickNode_same ok).renewed
  | clickCanvas => exact ((cancelCommand_same d).trans (choose_same _ _)).renewed
  | clickConnection id => exact orSame_of same fun _ ok => (clickConnection_same ok).renewed
  | selectAll => exact ((cancelCommand_same d).trans (choose_same _ _)).renewed
  | beginConnection node port => exact orSame_of same fun _ ok => (beginConnection_same ok).renewed
  | releaseOnPort node port => exact releaseOnPort_renewed node port d
  | releaseElsewhere => exact (releaseElsewhere_same d).renewed
  | openCommandSurface x y query => exact (openCommandSurface_same x y query d).renewed
  | searchOn session recents => exact ⟨same.later, same.nodes, same.connections⟩
  | commitCommand type => exact orSame_of same fun _ ok => commitCommand_renewed ok
  | cancelCommand => exact (cancelCommand_same d).renewed
  | deleteSelection => exact deleteSelection_renewed d
  | deleteNode id => exact deleteNode_renewed id d
  | duplicateSelection offset => exact duplicateSelection_renewed offset distinct
  | moveSelection dx dy => exact moveSelection_renewed dx dy d
  | renameScript name =>
      refine orSame_of same fun s ok => ?_
      obtain ⟨_, rfl⟩ := Script.setName_fields ok
      exact ⟨same.later, same.nodes, same.connections⟩
  | renameNode id label =>
      refine orSame_of same fun r ok => ?_
      obtain ⟨nodes, renamed, shaped⟩ := Script.renameNode_shape ok
      rw [renamed]
      refine .of_sublist (IdSupply.le_refl _) ?_ (List.Sublist.refl _)
      rw [ids_of_shape shaped]

end

end Desk

end NodeScript
