import NodeScript.Template

/-!
Scripts and projects. A script is a graph of nodes and of connections from output ports to input
ports, with its variables and its selection; a project is a list of scripts, one of which may be
the current one. Nothing here is checked: ids may repeat and ends may be missing. A search by id
gives the first match, an index of the nodes the last one.
-/
namespace NodeScript

structure Position where
  x : Float := 0
  y : Float := 0
  deriving DecidableEq, Repr, Inhabited

structure Node where
  id : Text
  type : Text
  position : Position := {}
  parameterValues : Members := []
  label : Option Text := none
  parentId : Option Text := none
  deriving DecidableEq, Repr, Inhabited

structure Connection where
  id : Text
  fromNode : Text
  fromPort : Text
  toNode : Text
  toPort : Text
  deriving DecidableEq, Repr, Inhabited

structure Variable where
  id : Text
  name : Text
  type : PortType := .any
  defaultValue : Json := .null
  description : Option Text := none
  deriving DecidableEq, Repr, Inhabited

structure Script where
  id : Text
  name : Text
  description : Option Text := none
  nodes : List Node := []
  connections : List Connection := []
  vars : List Variable := []
  selectedNodes : List Text := []
  selectedConnection : Option Text := none
  deriving DecidableEq, Repr, Inhabited

structure Project where
  scripts : List Script := []
  currentScript : Option Text := none
  deriving DecidableEq, Repr, Inhabited

namespace Connection

def edge (c : Connection) : Text × Text := (c.fromNode, c.toNode)

def touches (c : Connection) (id : Text) : Bool := c.fromNode = id || c.toNode = id

end Connection

def lastNode? (nodes : List Node) (id : Text) : Option Node := nodes.reverse.find? (·.id = id)

namespace Script

def node? (s : Script) (id : Text) : Option Node := s.nodes.find? (·.id = id)

def connection? (s : Script) (id : Text) : Option Connection := s.connections.find? (·.id = id)

def connectionsOf (s : Script) (id : Text) : List Connection :=
  s.connections.filter (·.touches id)

def connectionsFrom (s : Script) (id : Text) (port : Option Text := none) : List Connection :=
  s.connections.filter fun c => c.fromNode = id && port.all (· = c.fromPort)

def connectionTo? (s : Script) (id port : Text) : Option Connection :=
  s.connections.find? fun c => c.toNode = id && c.toPort = port

/-- The ids of the nodes, each at its last place. -/
def idOrder (s : Script) : List Text := (s.nodes.map (·.id)).reverse.eraseDups.reverse

end Script

namespace Project

def script? (p : Project) (id : Text) : Option Script := p.scripts.find? (·.id = id)

def current? (p : Project) : Option Script := do
  let id ← p.currentScript
  if id = "" then none else p.script? id

def replaceFirst (id : Text) (s : Script) : List Script → List Script
  | [] => []
  | t :: rest => if t.id = id then s :: rest else t :: replaceFirst id s rest

/-- Only the first script of the id changes. -/
def replaceScript (p : Project) (id : Text) (s : Script) : Project :=
  { p with scripts := replaceFirst id s p.scripts }

end Project

end NodeScript
