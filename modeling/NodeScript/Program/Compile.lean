import NodeScript.Bridging
import NodeScript.Program
import NodeScript.Program.Order
import NodeScript.Text.Word

/-!
Compiling a script. The members of an event are what it reaches forward and whatever feeds that,
other events aside; connections that re-enter a loop count for neither. Members are ordered so that
sources come before targets, earlier nodes of the script first, and an event fails if one of its
members has no known type, if the members have a cycle, or if a connection breaks the context rule.
-/
namespace NodeScript

/-- The connections between nodes that are there, those that re-enter a loop apart. -/
structure Wiring where
  nodes : List Node
  idOrder : List Text
  active : List Connection
  loopBack : List Connection
  bridged : List Text

namespace Wiring

def loopsBack (c : Catalog) (nodes : List Node) (k : Connection) : Bool :=
  ((lastNode? nodes k.toNode).bind c.nodeTemplate?).any (·.loopsBackAt k.toPort)

def joined (nodes : List Node) (k : Connection) : Bool :=
  (lastNode? nodes k.fromNode).isSome && (lastNode? nodes k.toNode).isSome

def ofScript (c : Catalog) (s : Script) : Wiring :=
  let present := s.connections.filter (joined s.nodes)
  let active := present.filter fun k => !loopsBack c s.nodes k
  { nodes := s.nodes, idOrder := s.idOrder, active
    loopBack := present.filter (loopsBack c s.nodes)
    bridged := bridgedTargets c s.nodes active }

def node? (w : Wiring) (id : Text) : Option Node := lastNode? w.nodes id

def templateAt? (c : Catalog) (w : Wiring) (id : Text) : Option Template :=
  (w.node? id).bind c.nodeTemplate?

def isEventAt (c : Catalog) (w : Wiring) (id : Text) : Bool :=
  (w.templateAt? c id).any (·.isEvent)

/-- What the event reaches without entering another event. -/
def forward (c : Catalog) (w : Wiring) (event : Text) : List Text :=
  reach (edges w.active) (fun id => !w.isEventAt c id) [event]

def members (c : Catalog) (w : Wiring) (event : Text) : List Text :=
  let found := reach ((edges w.active).map Prod.swap) (fun id => !w.isEventAt c id) (w.forward c event)
  w.idOrder.filter found.contains

def incoming (w : Wiring) (id : Text) : List Connection := w.active.filter (·.toNode = id)

def outgoing (w : Wiring) (id : Text) : List Connection := w.active.filter (·.fromNode = id)

def reentering (w : Wiring) (id : Text) : List Connection := w.loopBack.filter (·.toNode = id)

def crossingError? (c : Catalog) (w : Wiring) (k : Connection) : Option CompileError :=
  match w.templateAt? c k.fromNode, w.templateAt? c k.toNode with
  | some source, some target =>
    if crossingAllowed k.fromNode source target w.bridged then none
    else some (.crossing k.fromNode source.context k.toNode target.context k.id)
  | _, _ => none

def firstCrossing? (c : Catalog) (w : Wiring) (order : List Text) : Option CompileError :=
  (order.flatMap fun id => w.incoming id ++ w.reentering id).findSome? (w.crossingError? c)

end Wiring

def holderName (type : Text) (index : Nat) : Text := type ++ "_" ++ Decimal.natText index

/-- The name that holds what another event gives out. -/
def foreignHolder (event : Text) : Text := "event_" ++ event.wordOnly

def sortedNames (names : List Text) : List Text :=
  names.eraseDups.mergeSort fun a b => decide (a ≤ b)

namespace Wiring

def holderOf (w : Wiring) (order : List Text) (id : Text) : Text :=
  match order.idxOf? id with
  | some index => holderName ((w.node? id).elim "" (·.type)) index
  | none => foreignHolder id

def kindOf (t : Template) : StatementKind :=
  if t.isEvent then .event else if t.bridge then .bridge else if t.loop then .loop else .invoke

def argument (c : Catalog) (w : Wiring) (order : List Text) (t : Template) (params : Members)
    (id : Text) (port : Port) : Argument :=
  match (w.incoming id).reverse.find? (·.toPort = port.name) with
  | none => .literal port.name ((params.get? port.name).getD .null)
  | some k =>
    .ref port.name (w.holderOf order k.fromNode) k.fromPort
      ((w.templateAt? c k.fromNode).any (·.context ≠ t.context))

def takesValue (port : Port) : Bool := port.type ≠ .flow && !port.loopBack

def flowPorts (t : Template) : List Text :=
  ((t.outputs.filter (·.type = .flow)).map (·.name)).eraseDups

def flowTargets (w : Wiring) (order : List Text) (id port : Text) : List Text :=
  ((w.outgoing id).filter fun k => k.fromPort = port && order.contains k.toNode).map (·.toNode)

def loopSources (w : Wiring) (order : List Text) (id : Text) : List Text :=
  ((w.reentering id).filter fun k => order.contains k.fromNode).map (·.fromNode)

def statement (c : Catalog) (w : Wiring) (order : List Text) (index : Nat) (n : Node)
    (t : Template) : Statement :=
  let params := t.parameters.overlay n.parameterValues
  { index, node := n.id, type := n.type, context := t.context, kind := kindOf t
    holder := holderName n.type index
    args := (t.inputs.filter takesValue).map (w.argument c order t params n.id)
    params
    flow := (flowPorts t).map fun port => (port, w.flowTargets order n.id port)
    loopBack := w.loopSources order n.id }

def statementsFrom (c : Catalog) (w : Wiring) (order : List Text) (index : Nat) :
    List Text → List Statement
  | [] => []
  | id :: rest =>
    match w.node? id, w.templateAt? c id with
    | some n, some t => w.statement c order index n t :: statementsFrom c w order (index + 1) rest
    | _, _ => statementsFrom c w order (index + 1) rest

def unknownMembers (c : Catalog) (w : Wiring) (members : List Text) : List Text :=
  members.filter fun id => (w.templateAt? c id).isNone

def typesOf (w : Wiring) (ids : List Text) : List Text :=
  sortedNames (ids.filterMap fun id => (w.node? id).map (·.type))

def compileMembers (c : Catalog) (w : Wiring) (members : List Text) :
    Except CompileError (List Statement) :=
  let unknown := w.unknownMembers c members
  if unknown ≠ [] then .error (.unknownTypes (w.typesOf unknown) unknown)
  else
    let (order, left) := schedule (edges w.active) members
    if left ≠ [] then .error (.cycle (core (edges w.active) left))
    else match w.firstCrossing? c order with
      | some error => .error error
      | none => .ok (w.statementsFrom c order 0 order)

end Wiring

def Script.events (c : Catalog) (s : Script) : List Text :=
  (s.nodes.filter fun n => c.isEvent n.type).map (·.id)

def compile (c : Catalog) (s : Script) : Program :=
  let w := Wiring.ofScript c s
  let groups := (s.events c).map fun event => (event, w.members c event)
  let covered := groups.flatMap (·.2)
  { script := s.id
    roots := groups.map fun g => { event := g.1, outcome := w.compileMembers c g.2 }
    dead := (s.nodes.map (·.id)).filter fun id => !covered.contains id }

end NodeScript
