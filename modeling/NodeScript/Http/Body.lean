import NodeScript.Http.Encoding
import NodeScript.Http.Reply

namespace NodeScript.Http

def unreadable : Reply := .rejected "There was an error parsing the body"

/-- The value of a body, none if it is empty. What is no text or goes beyond the limits of JSON is
not told by its place. -/
def bodyValue (text : String) : Except Reply (Option Json) :=
  if text = "" then .ok none
  else match (decoded? text).map Json.read with
    | some (.ok found) => .ok (some found)
    | some (.error (.fault offset)) => .error (.invalid [⟨["body", Decimal.natText offset], .notJson⟩])
    | some (.error .beyondLimits) | none => .error unreadable

/-- Where a record was expected, its attributes are missing. -/
def placed (f : Fault) : Fault :=
  { path := "body" :: f.path, kind := if f.kind = .notRecord then .notAttributes else f.kind }

def readBody {α : Type} (read : Json → Reader α) (value : Json) : Except (List Fault) α :=
  (read value).run.mapError (·.map placed)

def required {α : Type} (read : Json → Reader α) : Option Json → Except (List Fault) α
  | some value => readBody read value
  | none => .error [⟨["body"], .missing⟩]

def optional {α : Type} (read : Json → Reader α) : Option Json → Except (List Fault) (Option α)
  | none | some .null => .ok none
  | some value => (readBody read value).map some

def valueAt : List Text → Json → Json
  | [], value => value
  | name :: rest, .obj members => valueAt rest ((Members.get? members name).getD .null)
  | _ :: _, _ => .null

def faultyValue (value : Json) (f : Fault) : Json :=
  match f.kind with
  | .missing => valueAt (f.path.drop 1).dropLast value
  | .notJson => .null
  | _ => valueAt (f.path.drop 1) value

def invalidReply (value : Option Json) (faults : List Fault) : Reply :=
  let values := faults.map fun f => (faultyValue (value.getD .null) f).shared
  if !values.all Json.finite then .broken .notWritten
  else if !values.all Json.encodable then .broken .notEncoded
  else .invalid faults

end NodeScript.Http
