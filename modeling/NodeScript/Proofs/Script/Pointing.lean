import NodeScript.Proofs.Project.Run
import NodeScript.Proofs.Script.Told

namespace NodeScript

/-- The error names only nodes and connections that are given or in the script. -/
structure GraphError.PointsAt (s : Script) (nodes connections : List (Option Text)) (e : GraphError) :
    Prop where
  nodes : ∀ id ∈ e.nodes, id ∈ nodes ∨ id ∈ s.nodes.map fun n => some n.id
  connections : ∀ id ∈ e.connections, id ∈ connections ∨ id ∈ s.connections.map fun k => some k.id

def error? {ε α : Type} : Except ε α → Option ε
  | .ok _ => none
  | .error e => some e

def EditError.graph? : EditError → Option GraphError
  | .graph e => some e
  | _ => none

namespace ScriptStep

def nodes : ScriptStep → List (Option Text)
  | .addNode draft => [draft.parentId]
  | .updateNode id _ | .renameNode id _ | .deleteNode id => [id]
  | .deleteNodes ids => ids
  | .connect link => [link.fromNode, link.toNode]
  | .deleteConnection _ | .addVariable _ | .deleteVariable _ | .setName _ => []

def connections : ScriptStep → List (Option Text)
  | .deleteConnection id => [id]
  | _ => []

end ScriptStep

def Script.refusal? (c : Catalog) (s : Script) (ids : IdSupply) : ScriptStep → Option GraphError
  | .addNode draft => error? (s.addNode c draft ids)
  | .updateNode id change => error? (s.updateNode id change)
  | .renameNode id label => error? (s.renameNode id label)
  | .deleteNode id => error? (s.deleteNode c id)
  | .deleteNodes given => error? (s.deleteNodes c given)
  | .connect link => error? (s.connect c link ids)
  | .deleteConnection id => error? (s.deleteConnection c id)
  | .addVariable _ => none
  | .deleteVariable id => error? (s.deleteVariable id)
  | .setName name => (error? (s.setName name)).bind EditError.graph?

def Project.refusal? (p : Project) (ids : IdSupply) : StudioStep → Option GraphError
  | .duplicateScript id name => error? (p.duplicateScript id name ids)
  | .renameScript id name => (error? (p.renameScript id name)).bind EditError.graph?
  | .deleteScript id => error? (p.deleteScript id)
  | .setCurrentScript id => error? (p.setCurrentScript id)
  | .createScript .. | .onScript .. | .onEditor .. => none

theorem error?_eq_some {ε α : Type} {result : Except ε α} {e : ε} :
    error? result = some e ↔ result = .error e := by
  cases result <;> simp [error?]

theorem Fails.refusal {α : Type} {P : GraphError → Prop} {result : Except GraphError α} {e : GraphError}
    (fails : Fails P result) (refused : error? result = some e) : P e :=
  fails e (error?_eq_some.mp refused)

theorem Script.setName_blank {s : Script} {name : Text} {e : EditError} (failed : s.setName name = .error e) :
    e = .blankName := by
  unfold setName at failed
  split at failed
  · cases failed
  · exact (Except.error.inj failed).symm

theorem Script.setName_graph {s : Script} {name : Text} :
    (error? (s.setName name)).bind EditError.graph? = none := by
  cases named : s.setName name with
  | ok t => rfl
  | error e =>
      obtain rfl := setName_blank named
      rfl

open GraphError (PointsAt)

variable {c : Catalog}

theorem Catalog.template_points (s : Script) (nodes connections : List (Option Text)) (type : Option Text) :
    Fails (PointsAt s nodes connections) (c.template type) := by
  unfold template
  split
  · exact .ok
  · exact .error ⟨nofun, nofun⟩

theorem Catalog.templateOf_fails {n : Node} :
    Fails (fun e => e = .unknownType (some n.type) (some n.id) ∧ c.knows n.type = false)
      (c.templateOf n) := by
  unfold templateOf nodeTemplate? knows
  cases c.find? n.type with
  | some t => exact .ok
  | none => exact .error ⟨rfl, rfl⟩

theorem Catalog.templateOf_points {s : Script} {n : Node} (nodes connections : List (Option Text))
    (member : n ∈ s.nodes) : Fails (PointsAt s nodes connections) (c.templateOf n) := by
  refine templateOf_fails.imp ?_
  rintro _ ⟨rfl, _⟩
  refine ⟨fun id named => ?_, nofun⟩
  rw [List.mem_singleton.mp named]
  exact Or.inr (List.mem_map_of_mem member)

namespace Script

variable {s : Script} {nodes connections : List (Option Text)} {id : Option Text}

theorem requireNode_fails : Fails (· = .nodeNotFound id) (s.requireNode id) := by
  unfold requireNode
  split
  · exact .ok
  · exact .error rfl

theorem points_nodeNotFound (given : id ∈ nodes) :
    (GraphError.nodeNotFound id).PointsAt s nodes connections where
  nodes := by
    intro other named
    rw [List.mem_singleton.mp named]
    exact Or.inl given
  connections := nofun

theorem requireNode_points (given : id ∈ nodes) :
    Fails (PointsAt s nodes connections) (s.requireNode id) := by
  refine requireNode_fails.imp ?_
  rintro _ rfl
  exact points_nodeNotFound given

theorem requireConnection_fails : Fails (fun e => e = .connectionNotFound id ∧ id.bind s.connection? = none)
    (s.requireConnection id) := by
  unfold requireConnection
  split
  · exact .ok
  · exact .error ⟨rfl, ‹_›⟩

theorem requireConnection_points (given : id ∈ connections) :
    Fails (PointsAt s nodes connections) (s.requireConnection id) := by
  refine requireConnection_fails.imp ?_
  rintro _ ⟨rfl, _⟩
  refine ⟨nofun, fun other named => ?_⟩
  rw [List.mem_singleton.mp named]
  exact Or.inl given

theorem checkLink_fails (l : LinkDraft) :
    Fails (fun e => e = .nodeNotFound l.fromNode ∨ e = .nodeNotFound l.toNode ∨ e.PointsAt s [] [])
      (s.checkLink c l) := by
  refine .bind (requireNode_fails.imp fun _ => Or.inl) fun fromNode first => ?_
  refine .bind (requireNode_fails.imp fun _ same => Or.inr (Or.inl same)) fun toNode second => ?_
  have source := (requireNode_ok first).1
  have target := (requireNode_ok second).1
  have found (n : Node) (member : n ∈ s.nodes) : some n.id ∈ s.nodes.map fun n => some n.id :=
    List.mem_map_of_mem member
  refine .imp (fun _ points => Or.inr (Or.inr points)) ?_
  refine .bind (Catalog.templateOf_points [] [] source) fun t _ => ?_
  refine .bind (Catalog.templateOf_points [] [] target) fun u _ => ?_
  have both {e : GraphError} (named : e.nodes ⊆ [some fromNode.id, some toNode.id])
      (others : ∀ id ∈ e.connections, id ∈ s.connections.map fun k => some k.id) : e.PointsAt s [] [] := by
    refine ⟨fun id member => Or.inr ?_, fun id member => Or.inr (others id member)⟩
    rcases List.mem_cons.mp (named member) with rfl | member
    · exact found fromNode source
    · exact List.mem_singleton.mp member ▸ found toNode target
  split
  · split
    · dsimp only
      split
      · split
        · split
          · rename_i existing occupied
            refine .error (both (by simp [GraphError.nodes]) ?_)
            intro id member
            rw [List.mem_singleton.mp member]
            exact List.mem_map_of_mem (List.mem_of_find?_eq_some occupied)
          · exact .ok
        · exact .error (both (by simp [GraphError.nodes]) nofun)
      · exact .error (both (by simp [GraphError.nodes]) nofun)
    · exact .error (both (by simp [GraphError.nodes]) nofun)
  · exact .error (both (by simp [GraphError.nodes]) nofun)

theorem checkLink_points (l : LinkDraft) :
    Fails (PointsAt s [l.fromNode, l.toNode] []) (s.checkLink c l) := by
  refine (checkLink_fails l).imp ?_
  rintro e (rfl | rfl | points)
  · exact points_nodeNotFound (by simp)
  · exact points_nodeNotFound (by simp)
  · exact ⟨fun id member => Or.inr ((points.nodes id member).resolve_left List.not_mem_nil),
      points.connections⟩

theorem addNode_points (draft : NodeDraft) (ids : IdSupply) :
    Fails (PointsAt s [draft.parentId] []) (s.addNode c draft ids) := by
  refine .bind (Catalog.template_points s _ _ _) fun t _ => ?_
  cases draft.parentId with
  | none => exact .ok
  | some parent => exact .bind (requireNode_points (List.mem_singleton_self _)) fun _ _ => .ok

theorem changeNode_points (id : Option Text) (change : Node → Node) :
    Fails (PointsAt s [id] []) (s.changeNode id change) :=
  .bind (requireNode_points (List.mem_singleton_self _)) fun _ _ => .ok

theorem deleteNodes_points (given : List (Option Text)) :
    Fails (PointsAt s given []) (s.deleteNodes c given) := by
  refine .bind (.mapM fun id member => .map _ (requireNode_points ?_)) fun _ _ => .ok
  exact List.mem_eraseDups.mp member

theorem deleteConnection_points (id : Option Text) :
    Fails (PointsAt s [] [id]) (s.deleteConnection c id) :=
  .bind (requireConnection_points (List.mem_singleton_self _)) fun _ _ => .ok

theorem deleteVariable_points (id : Option Text) : Fails (PointsAt s [] []) (s.deleteVariable id) := by
  unfold deleteVariable
  split
  · exact .ok
  · exact .error ⟨nofun, nofun⟩

theorem refusal_points {ids : IdSupply} {step : ScriptStep} {e : GraphError}
    (refused : s.refusal? c ids step = some e) : e.PointsAt s step.nodes step.connections := by
  cases step with
  | addNode draft => exact (addNode_points draft ids).refusal refused
  | updateNode id change => exact (changeNode_points id _).refusal refused
  | renameNode id label => exact (changeNode_points id _).refusal refused
  | deleteNode id => exact (Fails.bind (deleteNodes_points [id]) fun _ _ => .ok).refusal refused
  | deleteNodes given => exact (deleteNodes_points given).refusal refused
  | connect link => exact (Fails.bind (checkLink_points link) fun _ _ => .ok).refusal refused
  | deleteConnection id => exact (deleteConnection_points id).refusal refused
  | addVariable draft => cases refused
  | deleteVariable id => exact (deleteVariable_points id).refusal refused
  | setName name =>
      rw [refusal?, setName_graph] at refused
      cases refused

end Script

namespace Project

variable {p : Project}

/-- The error names no node and no connection. -/
def Nameless (e : GraphError) : Prop := e.nodes = [] ∧ e.connections = []

theorem requireScript_nameless (id : Option Text) : Fails Nameless (p.requireScript id) := by
  unfold requireScript
  split
  · exact .ok
  · exact .error ⟨rfl, rfl⟩

theorem renameScript_graph {id : Option Text} {name : Text} {e : GraphError}
    (refused : (error? (p.renameScript id name)).bind EditError.graph? = some e) :
    p.requireScript id = .error e := by
  unfold renameScript at refused
  cases found : p.requireScript id with
  | error other =>
      rw [found] at refused
      exact congrArg Except.error (Option.some.inj refused)
  | ok s =>
      cases named : s.setName name with
      | ok t =>
          simp only [found, Except.mapError, ok_bind, named] at refused
          cases refused
      | error other =>
          obtain rfl := Script.setName_blank named
          simp only [found, Except.mapError, ok_bind, named] at refused
          cases refused

theorem refusal_nameless {ids : IdSupply} {step : StudioStep} {e : GraphError}
    (refused : p.refusal? ids step = some e) : Nameless e := by
  cases step with
  | createScript | onScript | onEditor => cases refused
  | duplicateScript id name =>
      exact (Fails.bind (requireScript_nameless id) fun _ _ => .ok).refusal refused
  | renameScript id name => exact requireScript_nameless id e (renameScript_graph refused)
  | deleteScript id => exact (Fails.bind (requireScript_nameless id) fun _ _ => .ok).refusal refused
  | setCurrentScript id =>
      cases id with
      | none => cases refused
      | some id => exact (Fails.bind (requireScript_nameless (some id)) fun _ _ => .ok).refusal refused

end Project

end NodeScript
