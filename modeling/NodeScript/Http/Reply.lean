import NodeScript.GraphError
import NodeScript.Validation

namespace NodeScript

namespace Json

def isPrivate (name : Text) : Bool := (("_sa" : Text).after? name.letters).isSome

mutual
/-- The value without the members that have a private name, at every level. -/
def shared : Json → Json
  | arr items => arr (sharedItems items)
  | obj members => obj (sharedMembers members)
  | other => other
def sharedItems : List Json → List Json
  | [] => []
  | a :: as => shared a :: sharedItems as
def sharedMembers : List (Text × Json) → List (Text × Json)
  | [] => []
  | (name, a) :: as =>
    if isPrivate name then sharedMembers as else (name, shared a) :: sharedMembers as
end

end Json

namespace Http

inductive Breakage where
  | invalidRecord
  | notWritten
  | notEncoded
  deriving DecidableEq, Repr

inductive Reply where
  | done (body : Json)
  | refused (diagnostic : Diagnostic)
  | rejected (detail : Text)
  | invalid (faults : List Fault)
  | noRoute
  | wrongMethod
  | elsewhere
  | page
  | broken (breakage : Breakage)
  deriving DecidableEq, Repr

namespace Reply

def isUnknown (kind : DiagnosticKind) : Bool := kind = .notFound || kind = .unknownNodeType

def status : Reply → Nat
  | done _ | page => 200
  | refused d => if isUnknown d.kind then 404 else 409
  | rejected _ => 400
  | invalid _ => 422
  | noRoute => 404
  | wrongMethod => 405
  | elsewhere => 307
  | broken _ => 500

def detailed (detail : Json) : Json := .obj [("detail", detail)]

def faultJson (f : Fault) : Json :=
  .obj [("loc", Json.ofTexts f.path), ("type", .str f.kind.code)]

def body : Reply → Json
  | done body => body
  | refused d => detailed d.detail
  | rejected detail => detailed (.str detail)
  | invalid faults => detailed (.arr (faults.map faultJson))
  | noRoute => detailed (.str "Not Found")
  | wrongMethod => detailed (.str "Method Not Allowed")
  | elsewhere | page | broken _ => .null

def encoded (r : Reply) : Reply := if r.body.encodable then r else broken .notEncoded

end Reply

end Http

end NodeScript
