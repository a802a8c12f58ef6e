import NodeScript.Proofs.Editor.Step

namespace NodeScript

def HasOutput (c : Catalog) (s : Script) (node port : Text) : Prop :=
  ∃ n t output, s.node? node = some n ∧ c.find? n.type = some t ∧ t.output? port = some output

namespace Selection

/-- Everything the selection names is in the script. -/
def Stands (c : Catalog) (s : Script) : Selection → Prop
  | nothing => True
  | nodes ids => ids ≠ [] ∧ ∀ id ∈ ids, id ∈ s.nodes.map Node.id
  | connection id => id ∈ s.connections.map Connection.id
  | drag node port => HasOutput c s node port

end Selection

/-- The selection stands and is recorded; an open surface brings back what stands. -/
def Editor.InStep (c : Catalog) (s : Script) : Editor → Prop
  | resting selection _ => selection.Stands c s ∧ s.selectedNodes = selection.nodeIds ∧
      s.selectedConnection = selection.connectionId?
  | commanding surface => (surface.prior.present s).Stands c s

namespace Script

/-- Every node is in the other script with its type, and so is every connection. -/
structure Within (s t : Script) : Prop where
  nodes : ∀ id n, s.node? id = some n → ∃ m, t.node? id = some m ∧ m.type = n.type
  connections : s.connections.map Connection.id ⊆ t.connections.map Connection.id

section

variable {c : Catalog} {s t : Script} {ids more : IdSupply}

theorem requireNode_found {id : Option Text} {n : Node} (ok : s.requireNode id = .ok n) :
    s.node? n.id = some n := by
  obtain ⟨given, _, looked⟩ := Option.bind_eq_some_iff.mp (requireNode_iff.mp ok)
  rw [(node?_mem looked).2, looked]

theorem Within.of_append (nodes : List Node) (links : List Connection)
    (extended : t.nodes = s.nodes ++ nodes) (linked : t.connections = s.connections ++ links) :
    s.Within t where
  nodes := by
    intro id n found
    refine ⟨n, ?_, rfl⟩
    rw [node?, extended, List.find?_append, ← node?, found, Option.some_or]
  connections := by
    rw [linked, List.map_append]
    exact List.subset_append_left _ _

theorem Within.of_shape (same : shape t.nodes = shape s.nodes) (links : t.connections = s.connections) :
    s.Within t where
  nodes := by
    intro id n found
    have typed (u : Script) :
        (u.node? id).map (·.type) = ((shape u.nodes).find? (·.1 = id)).map (·.2) := by
      simp [node?, shape, List.find?_map, Function.comp_def]
    have looked : (t.node? id).map (·.type) = some n.type := by
      rw [typed, same, ← typed, found, Option.map_some]
    exact Option.map_eq_some_iff.mp looked
  connections := by rw [links]; exact List.Subset.refl _

theorem addNode_extends {draft : NodeDraft} {n : Node} (ok : s.addNode c draft ids = .ok (n, t, more)) :
    t = { s with nodes := s.nodes ++ [n] } := (addNode_ok ok).2.2.2.2

theorem connect_extends {l : LinkDraft} {k : Connection} (ok : s.connect c l ids = .ok (k, t, more)) :
    k.id = ids.draw.1 ∧ more = ids.draw.2 ∧ t = { s with connections := s.connections ++ [k] } := by
  obtain ⟨link, _, ok⟩ := ok_of_bind ok
  cases ok
  exact ⟨rfl, rfl, rfl⟩

theorem changeNode_shape {id : Option Text} (change : Node → Node) {n : Node}
    (named : ∀ n, (change n).id = n.id) (typed : ∀ n, (change n).type = n.type)
    (ok : s.changeNode id change = .ok (n, t)) :
    ∃ nodes, t = { s with nodes } ∧ shape nodes = shape s.nodes := by
  obtain ⟨m, _, ok⟩ := ok_of_bind ok
  cases ok
  exact ⟨_, rfl, shape_replaceNode named typed⟩

theorem renameNode_shape {id : Option Text} {label : Text} {n : Node}
    (ok : s.renameNode id label = .ok (n, t)) :
    ∃ nodes, t = { s with nodes } ∧ shape nodes = shape s.nodes :=
  changeNode_shape (fun n => { n with label := labelOf label }) (fun _ => rfl)
    (fun _ => rfl) ok

end

end Script

section

variable {c : Catalog} {s t : Script}

theorem HasOutput.mono {node port : Text} (within : s.Within t) (has : HasOutput c s node port) :
    HasOutput c t node port := by
  obtain ⟨n, template, output, found, known, out⟩ := has
  obtain ⟨m, found', typed⟩ := within.nodes node n found
  exact ⟨m, template, output, found', typed ▸ known, out⟩

namespace Selection

variable {selection : Selection}

theorem Stands.mono (within : s.Within t) (stands : selection.Stands c s) : selection.Stands c t := by
  cases selection with
  | nothing => trivial
  | nodes ids =>
      refine ⟨stands.1, fun id member => ?_⟩
      obtain ⟨n, found⟩ := Option.isSome_iff_exists.mp (Script.node?_isSome.mpr (stands.2 id member))
      obtain ⟨m, found', _⟩ := within.nodes id n found
      exact Script.node?_isSome.mp (by rw [found']; rfl)
  | connection id => exact within.connections stands
  | drag node port => exact HasOutput.mono within stands

theorem Stands.nodes_mem (stands : selection.Stands c s) :
    ∀ id ∈ selection.nodeIds, id ∈ s.nodes.map Node.id := by
  cases selection with
  | nodes ids => exact stands.2
  | nothing | connection | drag => simp [nodeIds]

theorem Stands.connection_mem {id : Text} (stands : selection.Stands c s)
    (chosen : selection.connectionId? = some id) : id ∈ s.connections.map Connection.id := by
  cases selection with
  | connection other =>
      cases chosen
      exact stands
  | nothing | nodes | drag => cases chosen

theorem ofNodes_stands {ids : List Text} (there : ∀ id ∈ ids, id ∈ s.nodes.map Node.id) :
    (ofNodes ids).Stands c s := by
  unfold ofNodes
  split
  · trivial
  · exact ⟨‹_›, there⟩

theorem Stands.present (stands : selection.Stands c s) : selection.present s = selection := by
  cases selection with
  | nothing | drag => rfl
  | nodes ids =>
      have all : (ids.filter fun id => (s.node? id).isSome) = ids :=
        List.filter_eq_self.mpr fun id member => Script.node?_isSome.mpr (stands.2 id member)
      simp only [Selection.present, all, ofNodes, stands.1, if_false]
  | connection id =>
      have there := Script.connection?_isSome.mpr stands
      simp [Selection.present, Option.isSome_iff_ne_none.mp there]

/-- What is left of a selection stands, if the output of a drag is there and a connection without a
name, which is never cut. -/
theorem present_stands (link : selection = .connection "" → selection.Stands c s)
    (drag : ∀ node port, selection = .drag node port → HasOutput c s node port) :
    (selection.present s).Stands c s := by
  cases selection with
  | nothing => trivial
  | nodes ids =>
      exact ofNodes_stands fun id member => Script.node?_isSome.mp (List.mem_filter.mp member).2
  | connection id =>
      by_cases gone : id ≠ "" ∧ s.connection? id = none
      · simp [Selection.present, gone, Stands]
      · simp only [Selection.present, gone, if_false]
        by_cases nameless : id = ""
        · exact nameless ▸ link (nameless ▸ rfl)
        · have found : s.connection? id ≠ none := fun none => gone ⟨nameless, none⟩
          exact Script.connection?_isSome.mp (Option.isSome_iff_ne_none.mpr found)
  | drag node port => exact drag node port rfl

theorem Stands.returns (stands : selection.Stands c s) : (selection.present s).Stands c s := by
  rw [stands.present]
  exact stands

theorem returns_mono (within : s.Within t) (returns : (selection.present s).Stands c s) :
    (selection.present t).Stands c t := by
  refine present_stands ?_ ?_
  · rintro rfl
    simp only [Selection.present, ne_eq, not_true, false_and, if_false] at returns
    exact returns.mono within
  · rintro node port rfl
    exact HasOutput.mono within returns

end Selection

/-- An editor stays in step with a script that is extended or changed elsewhere. -/
theorem Editor.InStep.mono {e : Editor} (within : s.Within t) (nodes : t.selectedNodes = s.selectedNodes)
    (connection : t.selectedConnection = s.selectedConnection) (inStep : e.InStep c s) :
    e.InStep c t := by
  cases e with
  | resting selection search =>
      exact ⟨inStep.1.mono within, nodes ▸ inStep.2.1, connection ▸ inStep.2.2⟩
  | commanding surface => exact Selection.returns_mono within inStep

end

namespace Desk

/-- The script, its graph and the supply are the same. -/
structure SameGraph (d e : Desk) : Prop where
  id : e.script.id = d.script.id
  nodes : e.script.nodes = d.script.nodes
  connections : e.script.connections = d.script.connections
  ids : e.ids = d.ids

section

variable {c : Catalog} {d e f : Desk} {selection : Selection}

theorem SameGraph.refl : SameGraph d d := ⟨rfl, rfl, rfl, rfl⟩

theorem SameGraph.trans (first : SameGraph d e) (second : SameGraph e f) : SameGraph d f :=
  ⟨second.id.trans first.id, second.nodes.trans first.nodes, second.connections.trans first.connections,
    second.ids.trans first.ids⟩

theorem SameGraph.within (same : SameGraph d e) : d.script.Within e.script :=
  .of_shape (congrArg shape same.nodes) same.connections

theorem choose_same (selection : Selection) (d : Desk) : SameGraph d (d.choose selection) :=
  ⟨rfl, rfl, rfl, rfl⟩

theorem refresh_same (d : Desk) : SameGraph d d.refresh := by
  unfold refresh
  split
  · exact choose_same _ d
  · exact ⟨rfl, rfl, rfl, rfl⟩

theorem cancelCommand_same (d : Desk) : SameGraph d d.cancelCommand := by
  unfold cancelCommand
  split
  · exact .refl
  · exact choose_same _ d

def InStep (c : Catalog) (d : Desk) : Prop := d.editor.InStep c d.script

theorem choose_inStep (selection : Selection) (stands : selection.Stands c d.script) :
    (d.choose selection).InStep c :=
  ⟨stands.mono (choose_same selection d).within, rfl, rfl⟩

theorem nothing_inStep (d : Desk) : (d.choose .nothing).InStep c :=
  choose_inStep .nothing trivial

theorem start_inStep (s : Script) (recents : Recents) (ids : IdSupply) :
    (start s recents ids).InStep c := by
  refine choose_inStep _ (Selection.present_stands ?_ ?_) <;>
  · unfold Selection.recorded
    grind

theorem refresh_inStep (inStep : d.InStep c) : d.refresh.InStep c := by
  unfold refresh
  unfold InStep at inStep
  split <;> rename_i held <;> rw [held] at inStep
  · exact choose_inStep _ inStep.1.returns
  · simp only [InStep, held]
    exact Selection.returns_mono (.of_shape rfl rfl) inStep

theorem cancelCommand_inStep (inStep : d.InStep c) : d.cancelCommand.InStep c := by
  unfold cancelCommand
  unfold InStep at inStep
  split
  · exact inStep
  · rename_i held
    rw [held] at inStep
    exact choose_inStep _ inStep

theorem InStep.chosen (inStep : d.InStep c) : d.editor.selection.Stands c d.script := by
  unfold InStep at inStep
  cases held : d.editor with
  | resting selection search =>
      rw [held] at inStep
      exact inStep.1
  | commanding surface => trivial

theorem withNode_stands {id : Text} {additive : Bool} {s : Script} (there : id ∈ s.nodes.map Node.id)
    (stands : selection.Stands c s) : (withNode id additive selection).Stands c s := by
  have alone : (Selection.nodes [id]).Stands c s := ⟨by simp, by simpa using there⟩
  cases selection with
  | nodes ids =>
      cases additive with
      | false => exact alone
      | true =>
          by_cases old : id ∈ ids
          · simpa only [withNode, old, if_true] using stands
          · simp only [withNode, old, if_true, if_false]
            refine ⟨by simp, fun other member => ?_⟩
            rcases List.mem_append.mp member with before | new
            · exact stands.2 other before
            · exact List.mem_singleton.mp new ▸ there
  | nothing | connection | drag => exact alone

theorem clickNode_inStep {id : Option Text} {additive : Bool} (inStep : d.InStep c)
    (ok : d.clickNode id additive = .ok e) : e.InStep c := by
  obtain ⟨n, found, rfl⟩ := clickNode_ok ok
  have there : n.id ∈ d.cancelCommand.script.nodes.map Node.id := by
    rw [(cancelCommand_same d).nodes]
    exact List.mem_map_of_mem (Script.requireNode_ok found).1
  exact choose_inStep _ (withNode_stands there (cancelCommand_inStep inStep).chosen)

theorem clickConnection_inStep {id : Option Text} (ok : d.clickConnection id = .ok e) :
    e.InStep c := by
  obtain ⟨k, found, rfl⟩ := clickConnection_ok ok
  refine choose_inStep (.connection k.id) ?_
  rw [Selection.Stands, (cancelCommand_same d).connections]
  exact List.mem_map_of_mem (Script.requireConnection_ok found).1

theorem selectAll_inStep (d : Desk) : d.selectAll.InStep c := by
  refine choose_inStep _ (Selection.ofNodes_stands fun id member => ?_)
  obtain ⟨n, free, rfl⟩ := List.mem_map.mp member
  exact List.mem_map_of_mem (List.mem_filter.mp free).1

theorem beginConnection_inStep {node port : Option Text} (ok : d.beginConnection c node port = .ok e) :
    e.InStep c := by
  obtain ⟨n, t, output, found, known, out, rfl⟩ := beginConnection_ok ok
  refine choose_inStep (.drag n.id output.name) ?_
  have there : HasOutput c d.script n.id output.name := by
    obtain ⟨name, _, outputs⟩ := Option.bind_eq_some_iff.mp out
    refine ⟨n, t, output, Script.requireNode_found found, Catalog.templateOf_ok.mp known, ?_⟩
    rw [Template.output?_name outputs]
    exact outputs
  exact there.mono (cancelCommand_same d).within

theorem releaseOnPort_inStep (node port : Option Text) (inStep : d.InStep c) :
    (d.releaseOnPort c node port).2.InStep c := by
  rcases releaseOnPort_cases c node port d with same | ⟨_, refused⟩ | ⟨_, k, s, ids, made, released⟩
  · exact same ▸ inStep
  · exact refused ▸ nothing_inStep d
  · obtain ⟨_, _, rfl⟩ := Script.connect_extends made
    exact released ▸ ⟨trivial, rfl, rfl⟩

theorem releaseElsewhere_inStep (inStep : d.InStep c) : d.releaseElsewhere.InStep c := by
  unfold releaseElsewhere
  split
  · exact nothing_inStep d
  · exact inStep

theorem openCommandSurface_inStep (x y : Json) (query : Text) (inStep : d.InStep c) :
    (d.openCommandSurface c x y query).2.InStep c := by
  unfold openCommandSurface
  unfold InStep at inStep ⊢
  cases held : d.editor with
  | resting selection search =>
      rw [held] at inStep
      split
      · exact inStep.1.returns
      · exact inStep
  | commanding surface =>
      rw [held] at inStep
      split <;> exact inStep

theorem searchOn_inStep (session : Session) (recents : Recents) (inStep : d.InStep c) :
    (d.setSession session recents).InStep c := by
  unfold setSession
  unfold InStep at inStep ⊢
  cases held : d.editor <;> rw [held] at inStep <;> exact inStep

theorem commitCommand_inStep {type : Option Text} {n : Option Node} (inStep : d.InStep c)
    (ok : d.commitCommand c type = .ok (n, e)) : e.InStep c := by
  rcases commitCommand_cases ok with ⟨_, rfl⟩ | ⟨_, _, _, _, _, _, _, _, rfl⟩
  · exact inStep
  · exact nothing_inStep _

theorem deleteSelection_inStep (inStep : d.InStep c) : (d.deleteSelection c).2.InStep c := by
  rcases deleteSelection_cases c d with same | ⟨s, chosen⟩
  · exact same ▸ refresh_inStep inStep
  · exact chosen ▸ nothing_inStep _

theorem deleteNode_inStep (id : Option Text) (inStep : d.InStep c) :
    (d.deleteNode c id).2.InStep c := by
  unfold deleteNode
  cases clicked : d.clickNode id false with
  | error => exact inStep
  | ok e => exact deleteSelection_inStep (clickNode_inStep inStep clicked)

theorem duplicateSelection_inStep (offset : Float) (inStep : d.InStep c) :
    (d.duplicateSelection c offset).2.InStep c := by
  have refreshed := refresh_inStep inStep
  unfold duplicateSelection
  dsimp only
  split
  · rename_i ids selected
    unfold duplicateNodes
    dsimp only
    split
    · exact refreshed
    · have stands := refreshed.chosen
      rw [selected] at stands
      obtain ⟨id, listed⟩ := List.exists_mem_of_ne_nil _ stands.1
      obtain ⟨n, member, named⟩ := List.mem_map.mp (stands.2 id listed)
      refine choose_inStep (.nodes _) ⟨?_, fun copy copied => ?_⟩
      · have chosen : isSelected (.nodes ids) n = true := by
          simpa [isSelected, Selection.nodeIds, named] using listed
        simp only [ne_eq, List.map_eq_nil_iff, List.filter_eq_nil_iff, not_forall, not_not]
        exact ⟨n, member, chosen⟩
      · rw [List.map_append]
        exact List.mem_append_right _ copied
  · exact refreshed

theorem moveSelection_shape (dx dy : Float) (d : Desk) :
    shape (d.moveSelection dx dy).2.script.nodes = shape d.refresh.script.nodes := by
  simp only [moveSelection, shape, List.map_map]
  refine List.map_congr_left fun n _ => ?_
  simp only [Function.comp_apply]
  split <;> rfl

theorem moveSelection_inStep (dx dy : Float) (inStep : d.InStep c) :
    (d.moveSelection dx dy).2.InStep c :=
  (refresh_inStep inStep).mono (.of_shape (moveSelection_shape dx dy d) rfl) rfl rfl

theorem renameScript_inStep {name : Text} {s : Script} (inStep : d.InStep c)
    (ok : d.script.setName name = .ok s) : ({ d with script := s } : Desk).InStep c := by
  obtain ⟨_, rfl⟩ := Script.setName_fields ok
  exact Editor.InStep.mono (.of_shape rfl rfl) rfl rfl inStep

theorem renameNode_inStep {id : Option Text} {label : Text} {n : Node} {s : Script}
    (inStep : d.InStep c) (ok : d.script.renameNode id label = .ok (n, s)) :
    ({ d with script := s } : Desk).InStep c := by
  obtain ⟨nodes, rfl, same⟩ := Script.renameNode_shape ok
  exact Editor.InStep.mono (.of_shape same rfl) rfl rfl inStep

theorem after_inStep (step : EditorStep) (inStep : d.InStep c) : (d.after c step).InStep c := by
  cases step with
  | reopen => exact start_inStep _ _ _
  | clickNode id additive => exact orSame_of inStep fun _ ok => clickNode_inStep inStep ok
  | clickCanvas => exact nothing_inStep _
  | clickConnection id => exact orSame_of inStep fun _ ok => clickConnection_inStep ok
  | selectAll => exact selectAll_inStep d
  | beginConnection node port => exact orSame_of inStep fun _ ok => beginConnection_inStep ok
  | releaseOnPort node port => exact releaseOnPort_inStep node port inStep
  | releaseElsewhere => exact releaseElsewhere_inStep inStep
  | openCommandSurface x y query => exact openCommandSurface_inStep x y query inStep
  | searchOn session recents => exact searchOn_inStep session recents inStep
  | commitCommand type => exact orSame_of inStep fun _ ok => commitCommand_inStep inStep ok
  | cancelCommand => exact cancelCommand_inStep inStep
  | deleteSelection => exact deleteSelection_inStep inStep
  | deleteNode id => exact deleteNode_inStep id inStep
  | duplicateSelection offset => exact duplicateSelection_inStep offset inStep
  | moveSelection dx dy => exact moveSelection_inStep dx dy inStep
  | renameScript name => exact orSame_of inStep fun _ ok => renameScript_inStep inStep ok
  | renameNode id label => exact orSame_of inStep fun _ ok => renameNode_inStep inStep ok

end

end Desk

end NodeScript
