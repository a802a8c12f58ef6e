import NodeScript.Editor.Command
import NodeScript.Editor.Copy
import NodeScript.Editor.Removal
import NodeScript.Proofs.Script.Edit

namespace NodeScript

namespace GraphError

/-- The error has a diagnostic. -/
def Told (e : GraphError) : Prop := ∃ d, e.diagnostic = .ok d

end GraphError

def Fails {α : Type} (P : GraphError → Prop) (result : Except GraphError α) : Prop :=
  ∀ e, result = .error e → P e

namespace Fails

variable {α β : Type} {P : GraphError → Prop}

theorem ok {a : α} : Fails P (.ok a) := nofun

theorem error {e : GraphError} (holds : P e) : Fails P (.error e : Except GraphError α) := by
  rintro _ ⟨⟩
  exact holds

theorem bind {first : Except GraphError α} {next : α → Except GraphError β} (head : Fails P first)
    (tail : ∀ a, first = .ok a → Fails P (next a)) : Fails P (first >>= next) := by
  cases first with
  | error e => exact error (head e rfl)
  | ok a => exact tail a rfl

theorem map {result : Except GraphError α} (pick : α → β) (fails : Fails P result) :
    Fails P (pick <$> result) := by
  cases result with
  | error e => exact error (fails e rfl)
  | ok a => exact ok

theorem mapM {act : α → Except GraphError β} {l : List α} (each : ∀ a ∈ l, Fails P (act a)) :
    Fails P (l.mapM act) := by
  induction l with
  | nil => exact ok
  | cons a rest ih =>
      obtain ⟨this, those⟩ := List.forall_mem_cons.mp each
      rw [List.mapM_cons]
      exact this.bind fun _ _ => (ih those).bind fun _ _ => ok

theorem imp {Q : GraphError → Prop} {result : Except GraphError α} (weaker : ∀ e, P e → Q e)
    (fails : Fails P result) : Fails Q result :=
  fun e failed => weaker e (fails e failed)

end Fails

def FailsTold {α : Type} (result : Except GraphError α) : Prop := ∀ e, result = .error e → e.Told

namespace FailsTold

variable {α β : Type}

theorem ok {a : α} : FailsTold (.ok a) := Fails.ok

theorem error {e : GraphError} (told : e.Told) : FailsTold (.error e : Except GraphError α) :=
  Fails.error told

theorem bind {first : Except GraphError α} {next : α → Except GraphError β} (head : FailsTold first)
    (tail : ∀ a, FailsTold (next a)) : FailsTold (first >>= next) :=
  Fails.bind head fun a _ => tail a

theorem map {result : Except GraphError α} (pick : α → β) (told : FailsTold result) :
    FailsTold (pick <$> result) :=
  Fails.map pick told

theorem mapM {act : α → Except GraphError β} {l : List α} (each : ∀ a ∈ l, FailsTold (act a)) :
    FailsTold (l.mapM act) :=
  Fails.mapM each

end FailsTold

open GraphError

variable {c : Catalog}

namespace Catalog

theorem template_told (type : Option Text) : FailsTold (c.template type) := by
  unfold template
  split
  · exact .ok
  · exact .error ⟨_, rfl⟩

theorem templateOf_told (n : Node) : FailsTold (c.templateOf n) := by
  unfold templateOf
  split
  · exact .ok
  · exact .error ⟨_, rfl⟩

end Catalog

namespace Script

variable {s : Script} {ids : IdSupply}

theorem requireNode_told (id : Text) : FailsTold (s.requireNode id) := by
  unfold requireNode
  split
  · exact .ok
  · exact .error ⟨_, rfl⟩

theorem requireConnection_told (id : Text) : FailsTold (s.requireConnection id) := by
  unfold requireConnection
  split
  · exact .ok
  · exact .error ⟨_, rfl⟩

theorem addNode_told (draft : NodeDraft) : FailsTold (s.addNode c draft ids) := by
  refine .bind (Catalog.template_told _) fun t => ?_
  cases draft.parentId with
  | none => exact .ok
  | some parent => exact .bind (requireNode_told parent) fun _ => .ok

theorem changeNode_told (id : Text) (change : Node → Node) : FailsTold (s.changeNode id change) :=
  .bind (requireNode_told id) fun _ => .ok

theorem deleteNodes_told (doomed : List Text) : FailsTold (s.deleteNodes c (doomed.map some)) := by
  refine .bind (.mapM fun id member => ?_) fun _ => .ok
  obtain ⟨name, _, rfl⟩ := List.mem_map.mp (List.mem_eraseDups.mp member)
  exact .map _ (requireNode_told name)

theorem deleteConnection_told (id : Text) : FailsTold (s.deleteConnection c id) :=
  .bind (requireConnection_told id) fun _ => .ok

theorem deleteVariable_told (id : Option Text) : FailsTold (s.deleteVariable id) := by
  unfold deleteVariable
  split
  · exact .ok
  · exact .error ⟨_, rfl⟩

theorem checkLink_told (fromNode toNode : Text) (fromPort toPort : Option Text) :
    FailsTold (s.checkLink c ⟨fromNode, fromPort, toNode, toPort⟩) := by
  refine .bind (requireNode_told fromNode) fun source => .bind (requireNode_told toNode) fun target => ?_
  refine .bind (Catalog.templateOf_told source) fun t => .bind (Catalog.templateOf_told target) fun u => ?_
  split
  · split
    · dsimp only
      split
      · split
        · split
          · exact .error ⟨_, rfl⟩
          · exact .ok
        · exact .error ⟨_, rfl⟩
      · exact .error ⟨_, rfl⟩
    · exact .error ⟨_, rfl⟩
  · exact .error ⟨_, rfl⟩

theorem connect_told (fromNode toNode : Text) (fromPort toPort : Option Text) :
    FailsTold (s.connect c ⟨fromNode, fromPort, toNode, toPort⟩ ids) :=
  .bind (checkLink_told fromNode toNode fromPort toPort) fun _ => .ok

end Script

namespace Project

variable {p : Project} {ids : IdSupply}

theorem requireScript_told (id : Option Text) : FailsTold (p.requireScript id) := by
  unfold requireScript
  split
  · exact .ok
  · exact .error ⟨_, rfl⟩

theorem duplicateScript_told (id name : Option Text) : FailsTold (p.duplicateScript id name ids) :=
  .bind (requireScript_told id) fun _ => .ok

theorem deleteScript_told (id : Option Text) : FailsTold (p.deleteScript id) :=
  .bind (requireScript_told id) fun _ => .ok

theorem setCurrentScript_told (id : Option Text) : FailsTold (p.setCurrentScript id) := by
  cases id with
  | none => exact .ok
  | some id => exact .bind (requireScript_told id) fun _ => .ok

end Project

namespace Desk

variable {d : Desk}

theorem clickNode_told (id : Text) (additive : Bool) : FailsTold (d.clickNode id additive) :=
  .bind (Script.requireNode_told id) fun _ => .ok

theorem clickConnection_told (id : Text) : FailsTold (d.clickConnection id) :=
  .bind (Script.requireConnection_told id) fun _ => .ok

theorem beginConnection_told (node : Text) (port : Option Text) :
    FailsTold (d.beginConnection c node port) := by
  refine .bind (Script.requireNode_told node) fun n => .bind (Catalog.templateOf_told n) fun t => ?_
  split
  · exact .ok
  · exact .error ⟨_, rfl⟩

theorem releaseOnPort_told (node : Text) (port : Option Text) :
    FailsTold (d.releaseOnPort c node port).1 := by
  unfold releaseOnPort dragLink?
  split
  · exact .ok
  · rename_i link dragged
    split at dragged <;> cases dragged
    rename_i fromNode fromPort _ _
    dsimp only
    split
    · exact .ok
    · rename_i e failed
      exact .error (Script.connect_told fromNode node fromPort port e failed)

theorem deletePresent_told : FailsTold (d.deletePresent c) := by
  unfold deletePresent
  split
  · exact .bind (Script.deleteConnection_told _) fun _ => .ok
  · dsimp only
    split
    · exact .bind (Script.deleteNodes_told _) fun _ => .ok
    · exact .ok
  · exact .bind (Script.deleteNodes_told _) fun _ => .ok
  · exact .ok

theorem deleteSelection_told (d : Desk) : FailsTold (d.deleteSelection c).1 := by
  unfold deleteSelection
  dsimp only
  split
  · exact .ok
  · exact .error (deletePresent_told _ ‹_›)

theorem deleteNode_told (id : Text) : FailsTold (d.deleteNode c id).1 := by
  unfold deleteNode
  split
  · exact deleteSelection_told _
  · exact .error (clickNode_told id false _ ‹_›)

theorem keptConnections_told (copies : List Node) (bridged : List Text) (connections : List Connection) :
    FailsTold (keptConnections c copies bridged connections) := by
  induction connections with
  | nil => exact .ok
  | cons k rest ih =>
      refine .bind ?_ fun _ => .bind ih fun _ => .ok
      unfold keepsContext
      split
      · exact .bind (Catalog.templateOf_told _) fun _ => .bind (Catalog.templateOf_told _) fun _ => .ok
      · exact .ok

theorem duplicateSelection_told (offset : Float) : FailsTold (d.duplicateSelection c offset).1 := by
  unfold duplicateSelection
  dsimp only
  split
  · unfold duplicateNodes
    dsimp only
    split
    · exact .error (keptConnections_told _ _ _ _ ‹_›)
    · exact .ok
  · exact .ok

theorem commitCommand_told (type : Option Text) : FailsTold (d.commitCommand c type) := by
  unfold commitCommand
  split
  · exact .ok
  · refine .bind ?_ fun found => ?_
    · cases type with
      | none => exact .ok
      | some given => exact .map some (Catalog.template_told given)
    · cases found with
      | none => exact .ok
      | some t => exact .bind (Script.addNode_told _) fun _ => .ok

end Desk

end NodeScript
