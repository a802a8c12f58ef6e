import NodeScript.Record
import NodeScript.Validation

namespace NodeScript

inductive DiagnosticKind where
  | unknownNodeType | notFound | typeMismatch | portOccupied | contextViolation | cyclicGraph
  | deadCode
  deriving DecidableEq, Repr, Inhabited

namespace DiagnosticKind

def all : List DiagnosticKind :=
  [unknownNodeType, notFound, typeMismatch, portOccupied, contextViolation, cyclicGraph, deadCode]

def name : DiagnosticKind → Text
  | unknownNodeType => "UnknownNodeType"
  | notFound => "NotFound"
  | typeMismatch => "TypeMismatch"
  | portOccupied => "PortOccupied"
  | contextViolation => "ContextViolation"
  | cyclicGraph => "CyclicGraph"
  | deadCode => "DeadCode"

end DiagnosticKind

structure Diagnostic where
  kind : DiagnosticKind
  message : Text
  nodes : List Text := []
  connections : List Text := []
  fatal : Bool := true
  deriving DecidableEq, Repr, Inhabited

namespace Diagnostic

def detailMembers (d : Diagnostic) : Members :=
  [("kind", .str d.kind.name), ("message", .str d.message), ("node_ids", Json.ofTexts d.nodes),
   ("connection_ids", Json.ofTexts d.connections)]

def detail (d : Diagnostic) : Json := .obj d.detailMembers

def members (d : Diagnostic) : Members := d.detailMembers ++ ([("fatal", .bool d.fatal)] : Members)

def toJson (d : Diagnostic) : Json := .obj d.members

def read : Json → Reader Diagnostic := Reader.record fun members =>
  ((((((Reader.of Diagnostic.mk).and
    (Reader.required members "kind" (Reader.choice DiagnosticKind.all DiagnosticKind.name))).and
    (Reader.required members "message" Reader.text)).and
    (Reader.field members "node_ids" (Reader.of []) (Reader.list Reader.text))).and
    (Reader.field members "connection_ids" (Reader.of []) (Reader.list Reader.text))).and
    (Reader.field members "fatal" (Reader.of true) Reader.flag))

end Diagnostic

instance : Record Diagnostic where
  toJson := Diagnostic.toJson

end NodeScript
