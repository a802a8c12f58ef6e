import NodeScript.Http.Body
import NodeScript.Workspace

/-!
How the handler of a request ends: with a result, with an error that it catches and tells, or with an
error that leaves it. An error about an id that is not there cannot be told, and a record with a free
value that has no written form cannot be written.
-/
namespace NodeScript.Http

/-- What is written below the status of a reply, and the free values of the records in it. -/
structure Body where
  json : Json
  free : List Json := []

instance : Coe Json Body := ⟨fun json => { json }⟩

def part {α : Type} [Record α] (name : Text) (a : α) : Body :=
  { json := .obj [(name, Record.toJson a)], free := Record.free a }

inductive Escape where
  | notCaught (error : EditError)
  | notTold (faults : List Fault)
  | notWritten (fault : WriteFault)
  deriving DecidableEq, Repr

def Escape.breakage : Escape → Breakage
  | notWritten (.notEncoded _) => .notEncoded
  | notWritten .tooDeep => .notWritten
  | notTold _ | notCaught _ => .invalidRecord

inductive Ending where
  | result (json : Json)
  | refused (diagnostic : Diagnostic)
  | rejected (detail : Text)
  | escaped (escape : Escape)
  deriving DecidableEq, Repr

namespace Ending

def ofBody (b : Body) : Ending :=
  match Record.firstFault? b.free with
  | some fault => escaped (.notWritten fault)
  | none => result b.json

def uncaught : EditError → Ending
  | .notWritten fault => escaped (.notWritten fault)
  | e => escaped (.notCaught e)

def ofError : EditError → Ending
  | .graph e =>
    match e.diagnostic with
    | .ok d => refused d
    | .error faults => escaped (.notTold faults)
  | e => uncaught e

def ofNameError : EditError → Ending
  | .blankName => rejected EditError.blankNameMessage
  | e => ofError e

def reply : Ending → Reply
  | result json => if json.shared.finite then .done json.shared else .broken .notWritten
  | refused d => .refused d
  | rejected detail => .rejected detail
  | escaped e => .broken e.breakage

end Ending

abbrev Handled := Ending × List Announcement × Workspace

abbrev Handler := Workspace → Handled

def ended {α : Type} (tell : EditError → Ending) (encode : α → Body) (o : Outcome α) : Handled :=
  (match o.answer with
    | .ok a => .ofBody (encode a)
    | .error e => tell e, o.announcements, o.workspace)

def handled {α : Type} (encode : α → Body) (o : Outcome α) : Handled := ended .ofError encode o

def look (body : Body) : Handler := fun w => (.ofBody body, [], w)

def taken {α : Type} (take : Option Json → Except (List Fault) α) (text : String) : Except Reply α :=
  match bodyValue text with
  | .error reply => .error reply
  | .ok value => (take value).mapError (invalidReply value)

def withBody {α : Type} (take : Option Json → Except (List Fault) α) (text : String)
    (go : α → Handler) : Except Reply Handler := (taken take text).map go

end NodeScript.Http
