import NodeScript.Bridging
import NodeScript.GraphError
import NodeScript.IdSupply
import NodeScript.Text.Blank

/-!
Changes to a script. Each one checks everything first and gives the changed script only if all
checks pass. Deleting a node or a connection also deletes the connections that keep the context
rule only through what went away.
-/
namespace NodeScript

structure NodeDraft where
  type : Option Text
  position : Option Position := none
  parameterValues : Option Members := none
  label : Option Text := none
  parentId : Option Text := none
  deriving DecidableEq, Repr

/-- Fields that are none stay as they are; parameters are laid over those there are. -/
structure NodeChange where
  position : Option Position := none
  parameterValues : Option Members := none
  label : Option Text := none
  deriving DecidableEq, Repr

structure VariableDraft where
  name : Text
  type : PortType := .any
  defaultValue : Json := .null
  description : Option Text := none
  deriving DecidableEq, Repr

structure Link where
  fromNode : Text
  fromPort : Text
  toNode : Text
  toPort : Text
  deriving DecidableEq, Repr

structure LinkDraft where
  fromNode : Option Text
  fromPort : Option Text
  toNode : Option Text
  toPort : Option Text
  deriving DecidableEq, Repr

namespace Link

def draft (l : Link) : LinkDraft :=
  { fromNode := l.fromNode, fromPort := l.fromPort, toNode := l.toNode, toPort := l.toPort }

def connection (l : Link) (id : Text) : Connection :=
  { id, fromNode := l.fromNode, fromPort := l.fromPort, toNode := l.toNode, toPort := l.toPort }

end Link

namespace Connection

def link (k : Connection) : Link :=
  { fromNode := k.fromNode, fromPort := k.fromPort, toNode := k.toNode, toPort := k.toPort }

end Connection

namespace NodeDraft

def node (d : NodeDraft) (id type : Text) : Node :=
  { id, type, position := d.position.getD {},
    parameterValues := d.parameterValues.getD [],
    label := d.label, parentId := d.parentId }

end NodeDraft

namespace NodeChange

def apply (change : NodeChange) (n : Node) : Node :=
  { n with
    position := change.position.getD n.position
    parameterValues := match change.parameterValues with
      | some given => n.parameterValues.overlay given
      | none => n.parameterValues
    label := change.label.or n.label }

end NodeChange

namespace Catalog

def templateOf (c : Catalog) (n : Node) : Except GraphError Template :=
  match c.nodeTemplate? n with
  | some t => .ok t
  | none => .error (.unknownType n.type n.id)

def template (c : Catalog) (type : Option Text) : Except GraphError Template :=
  match type.bind c.find? with
  | some t => .ok t
  | none => .error (.unknownType type none)

end Catalog

namespace Script

def requireNode (s : Script) (id : Option Text) : Except GraphError Node :=
  match id.bind s.node? with
  | some n => .ok n
  | none => .error (.nodeNotFound id)

def requireConnection (s : Script) (id : Option Text) : Except GraphError Connection :=
  match id.bind s.connection? with
  | some k => .ok k
  | none => .error (.connectionNotFound id)

def isLoopBack (c : Catalog) (s : Script) (k : Connection) : Bool :=
  ((s.node? k.toNode).bind c.nodeTemplate?).any (·.loopsBackAt k.toPort)

def replaceNode (id : Text) (change : Node → Node) : List Node → List Node
  | [] => []
  | n :: rest => if n.id = id then change n :: rest else n :: replaceNode id change rest

def addNode (c : Catalog) (draft : NodeDraft) (s : Script) (ids : IdSupply) :
    Except GraphError (Node × Script × IdSupply) := do
  let t ← c.template draft.type
  if let some parent := draft.parentId then
    let _ ← s.requireNode parent
  let (id, ids) := ids.draw
  let n := draft.node id t.type
  pure (n, { s with nodes := s.nodes ++ [n] }, ids)

def changeNode (id : Option Text) (change : Node → Node) (s : Script) :
    Except GraphError (Node × Script) := do
  let n ← s.requireNode id
  pure (change n, { s with nodes := replaceNode n.id change s.nodes })

def updateNode (id : Option Text) (change : NodeChange) (s : Script) :
    Except GraphError (Node × Script) :=
  s.changeNode id change.apply

def labelOf (text : Text) : Option Text :=
  let trimmed := text.trim
  if trimmed = "" then none else some trimmed

def renameNode (id : Option Text) (label : Text) (s : Script) : Except GraphError (Node × Script) :=
  s.changeNode id fun n => { n with label := labelOf label }

def orphan (doomed : List Text) (n : Node) : Node :=
  if n.parentId.any doomed.contains then { n with parentId := none } else n

/-- The script without the nodes and connections of the ids, which leave the selection too. -/
def prune (nodes connections : List Text) (s : Script) : Script :=
  { s with
    nodes := (s.nodes.filter fun n => !nodes.contains n.id).map (orphan nodes)
    connections := withoutIds connections s.connections
    selectedNodes := s.selectedNodes.filter fun id => !nodes.contains id
    selectedConnection :=
      if s.selectedConnection.any connections.contains then none else s.selectedConnection }

structure Removal where
  nodes : List Text := []
  connections : List Text := []
  deriving DecidableEq, Repr

def deleteNodes (c : Catalog) (ids : List (Option Text)) (s : Script) :
    Except GraphError (Removal × Script) := do
  let doomed ← ids.eraseDups.mapM fun id => Node.id <$> s.requireNode id
  let touching := (s.connections.filter fun k =>
    doomed.contains k.fromNode || doomed.contains k.toNode).map (·.id)
  let nodes := s.nodes.filter fun n => !doomed.contains n.id
  let removed := touching ++ stranded c nodes (withoutIds touching s.connections)
  pure ({ nodes := doomed, connections := removed }, s.prune doomed removed)

def deleteNode (c : Catalog) (id : Option Text) (s : Script) :
    Except GraphError (List Text × Script) := do
  let (removal, s) ← s.deleteNodes c [id]
  pure (removal.connections, s)

def deleteConnection (c : Catalog) (id : Option Text) (s : Script) :
    Except GraphError (List Text × Script) := do
  let k ← s.requireConnection id
  let removed := k.id :: stranded c s.nodes (withoutIds [k.id] s.connections)
  pure (removed, s.prune [] removed)

def bridged (c : Catalog) (s : Script) : List Text := bridgedTargets c s.nodes s.connections

/-- Two types that do not fit may still meet at a conversion, if both are types of values. -/
def typesMeet (source target : Template) (fromType toType : PortType) : Bool :=
  fromType.fits toType ||
    ((source.category = .conversion || target.category = .conversion) &&
      fromType ≠ .flow && toType ≠ .flow)

def checkLink (c : Catalog) (l : LinkDraft) (s : Script) : Except GraphError Link := do
  let fromNode ← s.requireNode l.fromNode
  let toNode ← s.requireNode l.toNode
  let source ← c.templateOf fromNode
  let target ← c.templateOf toNode
  let some output := l.fromPort.bind source.output?
    | throw (.outputNotFound fromNode.id l.fromPort)
  let some input := l.toPort.bind target.input?
    | throw (.inputNotFound toNode.id l.toPort)
  unless typesMeet source target output.type input.type do
    throw (.typeMismatch fromNode.id output.name output.type toNode.id input.name input.type)
  unless crossingAllowed fromNode.id source target (s.bridged c) do
    throw (.contextViolation fromNode.id source.context toNode.id target.context)
  if let some existing := s.connectionTo? toNode.id input.name then
    throw (.portOccupied toNode.id input.name existing.id)
  pure { fromNode := fromNode.id, fromPort := output.name, toNode := toNode.id, toPort := input.name }

def connect (c : Catalog) (l : LinkDraft) (s : Script) (ids : IdSupply) :
    Except GraphError (Connection × Script × IdSupply) := do
  let found ← s.checkLink c l
  let (id, ids) := ids.draw
  let k := found.connection id
  pure (k, { s with connections := s.connections ++ [k] }, ids)

def canConnect (c : Catalog) (l : LinkDraft) (s : Script) : Bool := (s.checkLink c l).isOk

def addVariable (draft : VariableDraft) (s : Script) (ids : IdSupply) : Variable × Script × IdSupply :=
  let (id, ids) := ids.draw
  let v : Variable :=
    { id, name := draft.name, type := draft.type, defaultValue := draft.defaultValue,
      description := draft.description }
  (v, { s with vars := s.vars ++ [v] }, ids)

def deleteVariable (id : Option Text) (s : Script) : Except GraphError Script :=
  if s.vars.any fun v => some v.id = id then
    .ok { s with vars := s.vars.filter fun v => some v.id ≠ id }
  else .error (.variableNotFound id)

def setName (name : Text) (s : Script) : Except EditError Script :=
  match labelOf name with
  | some trimmed => .ok { s with name := trimmed }
  | none => .error .blankName

end Script

end NodeScript
