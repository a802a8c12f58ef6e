import NodeScript.Diagnostic
import NodeScript.Template

namespace NodeScript

inductive GraphError where
  | unknownType (type node : Option Text)
  | scriptNotFound (script : Option Text)
  | nodeNotFound (node : Option Text)
  | connectionNotFound (connection : Option Text)
  | variableNotFound (id : Option Text)
  | outputNotFound (node : Text) (port : Option Text)
  | inputNotFound (node : Text) (port : Option Text)
  | typeMismatch (fromNode fromPort : Text) (fromType : PortType)
      (toNode toPort : Text) (toType : PortType)
  | contextViolation (fromNode : Text) (fromContext : Context) (toNode : Text)
      (toContext : Context)
  | portOccupied (node port connection : Text)
  | noCommandSurface (script : Text)
  deriving DecidableEq, Repr

namespace GraphError

def nameOrNone (id : Option Text) : Text := id.getD "None"

def kind : GraphError → DiagnosticKind
  | unknownType .. => .unknownNodeType
  | typeMismatch .. => .typeMismatch
  | contextViolation .. => .contextViolation
  | portOccupied .. => .portOccupied
  | scriptNotFound _ | nodeNotFound _ | connectionNotFound _ | variableNotFound _
  | outputNotFound .. | inputNotFound .. | noCommandSurface _ => .notFound

def message : GraphError → Text
  | unknownType type _ => "Unknown node type: " ++ nameOrNone type
  | scriptNotFound script => "Script not found: " ++ nameOrNone script
  | nodeNotFound node => "Node not found: " ++ nameOrNone node
  | connectionNotFound connection => "Connection not found: " ++ nameOrNone connection
  | variableNotFound id => "Variable not found: " ++ nameOrNone id
  | outputNotFound node port => "Output port not found: " ++ node ++ "." ++ nameOrNone port
  | inputNotFound node port => "Input port not found: " ++ node ++ "." ++ nameOrNone port
  | typeMismatch fromNode fromPort fromType toNode toPort toType =>
    "Cannot connect " ++ fromType.name ++ " output " ++ fromNode ++ "." ++ fromPort ++ " to " ++
      toType.name ++ " input " ++ toNode ++ "." ++ toPort
  | contextViolation fromNode fromContext toNode toContext =>
    "Connection " ++ fromNode ++ " (" ++ fromContext.name ++ ") -> " ++ toNode ++ " (" ++
      toContext.name ++ ") crosses contexts without a bridge"
  | portOccupied node port _ => "Input " ++ node ++ "." ++ port ++ " already connected"
  | noCommandSurface script => "No command surface open for script: " ++ script

def nodes : GraphError → List (Option Text)
  | unknownType _ (some node) => [some node]
  | nodeNotFound node => [node]
  | outputNotFound node _ | inputNotFound node _ | portOccupied node _ _ => [some node]
  | typeMismatch fromNode _ _ toNode _ _ | contextViolation fromNode _ toNode _ =>
    [some fromNode, some toNode]
  | _ => []

def connections : GraphError → List (Option Text)
  | connectionNotFound connection => [connection]
  | portOccupied _ _ connection => [some connection]
  | _ => []

def leftOut (list : Text) (ids : List (Option Text)) : List Fault :=
  (ids.zipIdx.filter fun entry => entry.1.isNone).map fun entry =>
    ⟨[list, Decimal.natText entry.2], .notText⟩

def diagnostic (e : GraphError) : Except (List Fault) Diagnostic :=
  match leftOut "node_ids" e.nodes ++ leftOut "connection_ids" e.connections with
  | [] =>
    .ok { kind := e.kind, message := e.message, nodes := e.nodes.filterMap id,
          connections := e.connections.filterMap id }
  | faults => .error faults

end GraphError

inductive EditError where
  | graph (error : GraphError)
  | blankName
  | invalid (faults : List Fault)
  | notWritten (fault : WriteFault)
  deriving DecidableEq, Repr

namespace EditError

def blankNameMessage : Text := "Script name cannot be empty"

end EditError

end NodeScript
