import NodeScript.Choice
import NodeScript.Record
import NodeScript.Validation

namespace NodeScript

inductive EventKind where
  | error | warning | info
  | managerCleared | projectSaved | projectLoaded
  | scriptCreated | scriptDuplicated | scriptRenamed | scriptRemoved | scriptSelected
  | scriptCompiled | compileFailed
  | nodeAdded | nodeUpdated | nodeRemoved | nodeDuplicated
  | connectionAdded | connectionRemoved | connectionRejected
  | variableAdded | variableRemoved
  | selectionChanged | deleteRefused | surfaceOpened | surfaceClosed
  deriving DecidableEq, Repr, Inhabited

namespace EventKind

def all : List EventKind :=
  [error, warning, info, managerCleared, projectSaved, projectLoaded, scriptCreated,
   scriptDuplicated, scriptRenamed, scriptRemoved, scriptSelected, scriptCompiled, compileFailed,
   nodeAdded, nodeUpdated, nodeRemoved, nodeDuplicated, connectionAdded, connectionRemoved,
   connectionRejected, variableAdded, variableRemoved, selectionChanged, deleteRefused,
   surfaceOpened, surfaceClosed]

def name : EventKind → Text
  | error => "error"
  | warning => "warning"
  | info => "info"
  | managerCleared => "manager.cleared"
  | projectSaved => "manager.project_saved"
  | projectLoaded => "manager.project_loaded"
  | scriptCreated => "script.created"
  | scriptDuplicated => "script.duplicated"
  | scriptRenamed => "script.renamed"
  | scriptRemoved => "script.removed"
  | scriptSelected => "script.selected"
  | scriptCompiled => "script.compiled"
  | compileFailed => "script.compile_failed"
  | nodeAdded => "node.added"
  | nodeUpdated => "node.updated"
  | nodeRemoved => "node.removed"
  | nodeDuplicated => "node.duplicated"
  | connectionAdded => "connection.added"
  | connectionRemoved => "connection.removed"
  | connectionRejected => "connection.rejected"
  | variableAdded => "variable.added"
  | variableRemoved => "variable.removed"
  | selectionChanged => "selection.changed"
  | deleteRefused => "selection.delete_refused"
  | surfaceOpened => "command_surface.opened"
  | surfaceClosed => "command_surface.closed"

def ofJson : Json → Except BadChoice EventKind := choose "EventType" all name

end EventKind

structure EventDetails where
  script : Option Text := none
  node : Option Text := none
  connection : Option Text := none
  data : Option Members := none
  error : Option Text := none
  deriving DecidableEq, Repr, Inhabited

structure Announcement where
  kind : EventKind
  details : EventDetails := {}
  deriving DecidableEq, Repr, Inhabited

structure Event where
  id : Text
  kind : EventKind
  time : Text
  details : EventDetails := {}
  deriving DecidableEq, Repr, Inhabited

namespace EventDetails

def members (d : EventDetails) : Members :=
  [("script_id", Json.ofText? d.script), ("node_id", Json.ofText? d.node),
   ("connection_id", Json.ofText? d.connection),
   ("data", match d.data with | some data => .obj data.written | none => .null),
   ("error", Json.ofText? d.error)]

def read (members : Members) : Reader EventDetails :=
  ((((((Reader.of EventDetails.mk).and
    (Reader.field members "script_id" (Reader.of none) (Reader.maybe Reader.text))).and
    (Reader.field members "node_id" (Reader.of none) (Reader.maybe Reader.text))).and
    (Reader.field members "connection_id" (Reader.of none) (Reader.maybe Reader.text))).and
    (Reader.field members "data" (Reader.of none) (Reader.maybe Reader.mapping))).and
    (Reader.field members "error" (Reader.of none) (Reader.maybe Reader.text)))

end EventDetails

namespace Event

/-- The whole number behind the last low line of the id. -/
def number? (e : Event) : Option Int := do
  let cs ← Text.chars? ⟨(e.id.letters.reverse.takeWhile (· ≠ Letter.char '_')).reverse⟩
  let (negative, digits) := Text.splitSign cs
  guard (!digits.isEmpty && digits.all Decimal.isDigit)
  let n : Int := Decimal.digitsValue digits
  pure (if negative then -n else n)

def toJson (e : Event) : Json :=
  .obj (("event_id", .str e.id) :: ("event_type", .str e.kind.name) :: ("timestamp", .str e.time) ::
    e.details.members)

def read : Json → Reader Event := Reader.record fun members =>
  (((((Reader.of Event.mk).and (Reader.required members "event_id" Reader.text)).and
    (Reader.required members "event_type" (Reader.choice EventKind.all EventKind.name))).and
    (Reader.required members "timestamp" Reader.text)).and
    (EventDetails.read members))

end Event

instance : Record Event where
  toJson := Event.toJson
  free e := (e.details.data.map Members.values).getD []

end NodeScript
