import NodeScript.Script.Edit

/-!
The audit of a script that was built elsewhere. It goes through the nodes and then through the
connections and reports every rule that one of them breaks: ids, types, ends, ports, one connection
an input, contexts.
-/
namespace NodeScript

inductive Issue where
  | duplicateNode (node : Text)
  | unknownType (type node : Text)
  | duplicateConnection (connection : Text)
  | missingEnds (connection : Text) (missing : List Text)
  | unknownPort (connection fromNode toNode : Text)
  | crowdedInput (node port first second : Text)
  | unbridged (connection fromNode toNode : Text)
  deriving DecidableEq, Repr

namespace Issue

def diagnostic : Issue → Diagnostic
  | duplicateNode node =>
    { kind := .notFound, message := "Duplicate node id: " ++ node, nodes := [node] }
  | unknownType type node =>
    { kind := .unknownNodeType, message := "Unknown node type: " ++ type, nodes := [node] }
  | duplicateConnection id =>
    { kind := .notFound, message := "Duplicate connection id: " ++ id, connections := [id] }
  | missingEnds id missing =>
    { kind := .notFound, message := "Connection " ++ id ++ " references missing node(s)"
      nodes := missing, connections := [id] }
  | unknownPort id fromNode toNode =>
    { kind := .notFound, message := "Connection " ++ id ++ " references an unknown port"
      nodes := [fromNode, toNode], connections := [id] }
  | crowdedInput node port first second =>
    { kind := .portOccupied, message := "Input " ++ node ++ "." ++ port ++ " has more than one connection"
      nodes := [node], connections := [first, second] }
  | unbridged id fromNode toNode =>
    { kind := .contextViolation, message := "Connection " ++ id ++ " crosses contexts without a bridge"
      nodes := [fromNode, toNode], connections := [id] }

end Issue

namespace Script

def nodeIssues (c : Catalog) (seen : List Text) : List Node → List Issue
  | [] => []
  | n :: rest =>
    if n.id ∈ seen then .duplicateNode n.id :: nodeIssues c seen rest
    else (if c.knows n.type then [] else [.unknownType n.type n.id]) ++ nodeIssues c (n.id :: seen) rest

/-- Inputs that have a connection, with the id of the latest one. -/
abbrev Occupied := List ((Text × Text) × Text)

def wiringIssues (bridged : List Text) (occupied : Occupied) (k : Connection)
    (fromNode : Node) (source : Template) (target : Template) : List Issue × Occupied :=
  if (source.output? k.fromPort).isNone || (target.input? k.toPort).isNone then
    ([.unknownPort k.id k.fromNode k.toNode], occupied)
  else
    let crowded := match occupied.lookup (k.toNode, k.toPort) with
      | some first => [Issue.crowdedInput k.toNode k.toPort first k.id]
      | none => []
    let crossing :=
      if crossingAllowed fromNode.id source target bridged then []
      else [Issue.unbridged k.id k.fromNode k.toNode]
    (crowded ++ crossing, ((k.toNode, k.toPort), k.id) :: occupied)

def connectionIssue (c : Catalog) (s : Script) (bridged : List Text) (occupied : Occupied)
    (k : Connection) : List Issue × Occupied :=
  match s.node? k.fromNode, s.node? k.toNode with
  | some fromNode, some toNode =>
    match c.nodeTemplate? fromNode, c.nodeTemplate? toNode with
    | some source, some target => wiringIssues bridged occupied k fromNode source target
    | _, _ => ([], occupied)
  | _, _ =>
    ([.missingEnds k.id ([k.fromNode, k.toNode].filter fun id => (s.node? id).isNone)], occupied)

def connectionIssues (c : Catalog) (s : Script) (bridged : List Text) (seen : List Text)
    (occupied : Occupied) : List Connection → List Issue
  | [] => []
  | k :: rest =>
    if k.id ∈ seen then .duplicateConnection k.id :: connectionIssues c s bridged seen occupied rest
    else
      let (found, occupied) := connectionIssue c s bridged occupied k
      found ++ connectionIssues c s bridged (k.id :: seen) occupied rest

def issues (c : Catalog) (s : Script) : List Issue :=
  nodeIssues c [] s.nodes ++ connectionIssues c s (s.bridged c) [] [] s.connections

def audit (c : Catalog) (s : Script) : List Diagnostic := (s.issues c).map Issue.diagnostic

end Script

end NodeScript
