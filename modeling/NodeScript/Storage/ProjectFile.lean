import NodeScript.Json.Parser
import NodeScript.Json.Printer
import NodeScript.Script.Audit
import NodeScript.Script.Record
import NodeScript.Storage.Files

/-!
The file of a project: its record with a version and the time at which it was written. Reading never
fails, a file that cannot be read standing for the empty project.
-/
namespace NodeScript

namespace Project

def settled (p : Project) : Project :=
  match p.currentScript with
  | some id => if id ≠ "" ∧ p.script? id = none then { p with currentScript := none } else p
  | none => p

/-- The issues of every script that has some, by its id; of two scripts with one id the last one's
stay. -/
def audit (c : Catalog) (p : Project) : List (Text × List Diagnostic) :=
  p.scripts.foldl (fun found s =>
    let issues := s.audit c
    if issues = [] then found else Entries.put found s.id issues) []

end Project

namespace ProjectFile

def version : Int := 1

def record (time : String) (p : Project) : Json :=
  .obj [("version", .int version), ("saved_at", .str time), ("project", p.toJson)]

def text (time : String) (p : Project) : String := (record time p).document

/-- The version and the time are checked and not used. -/
def read : Json → Reader Project := Reader.record fun members =>
  ((((Reader.of fun (_ : Int) (_ : Text) (p : Project) => p).and
    (Reader.field members "version" (Reader.of version) Reader.whole)).and
    (Reader.field members "saved_at" (Reader.of "") Reader.text)).and
    (Reader.field members "project" (Reader.of {}) Project.read))

def ofText? (text : String) (ids : IdSupply) : Option Project × IdSupply :=
  match Json.read text with
  | .error _ => (none, ids)
  | .ok found =>
    match read found ids with
    | (.ok p, ids) => (some p.settled, ids)
    | (.error _, ids) => (none, ids)

def load? (files : Files) (path : Text) (ids : IdSupply) : Option Project × IdSupply :=
  match files.text? path with
  | some text => ofText? text ids
  | none => (none, ids)

def load (files : Files) (path : Text) (ids : IdSupply) : Project × IdSupply :=
  let (found, ids) := load? files path ids
  (found.getD {}, ids)

/-- Whether the project was written to its end, and the files that are left, or why it has no written
form. -/
def save (time : String) (p : Project) (path : Text) (files : Files) :
    Except WriteFault (Bool × Files) :=
  match Record.fault? p with
  | some fault => .error fault
  | none =>
    if (record time p).complete then .ok (files.write path (text time p))
    else .ok (false, (files.write path (record time p).documentBegun).2)

end ProjectFile

end NodeScript
