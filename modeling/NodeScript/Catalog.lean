import NodeScript.Template

/-!
Catalogs. A catalog is a closed list of templates of distinct types in which no output re-enters a
loop and no event has an input. `Catalog.ofList` builds one or tells the first template that breaks
a rule.
-/
namespace NodeScript

inductive CatalogFault where
  | duplicateType (type : Text)
  | loopBackOutput (type port : Text)
  | eventInput (type : Text)
  deriving DecidableEq, Repr

namespace CatalogFault

def message : CatalogFault → Text
  | duplicateType type => "Duplicate node type in catalog: " ++ type
  | loopBackOutput type port =>
    "Output port '" ++ port ++ "' of '" ++ type ++ "' cannot be a loop-back port"
  | eventInput type => "Event template '" ++ type ++ "' cannot have input ports"

end CatalogFault

def Template.fault? (seen : List Text) (t : Template) : Option CatalogFault :=
  if t.type ∈ seen then some (.duplicateType t.type)
  else match t.outputs.find? (·.loopBack) with
    | some port => some (.loopBackOutput t.type port.name)
    | none => if t.isEvent ∧ t.inputs ≠ [] then some (.eventInput t.type) else none

def firstFault? : List Text → List Template → Option CatalogFault
  | _, [] => none
  | seen, t :: rest =>
    match t.fault? seen with
    | some fault => some fault
    | none => firstFault? (t.type :: seen) rest

structure Catalog where
  templates : List Template
  faultless : firstFault? [] templates = none

namespace Catalog

def ofList (templates : List Template) : Except CatalogFault Catalog :=
  match found : firstFault? [] templates with
  | some fault => .error fault
  | none => .ok ⟨templates, found⟩

def find? (c : Catalog) (type : Text) : Option Template := c.templates.find? (·.type = type)

def knows (c : Catalog) (type : Text) : Bool := (c.find? type).isSome

def types (c : Catalog) : List Text := c.templates.map (·.type)

def size (c : Catalog) : Nat := c.templates.length

def place? (c : Catalog) (type : Text) : Option Nat := c.templates.findIdx? (·.type = type)

def groups (c : Catalog) : List (Category × List Template) :=
  Category.all.filterMap fun category =>
    match c.templates.filter (·.category = category) with
    | [] => none
    | found => some (category, found)

def isEvent (c : Catalog) (type : Text) : Bool := (c.find? type).any (·.isEvent)

def isBridge (c : Catalog) (type : Text) : Bool := (c.find? type).any (·.bridge)

end Catalog

end NodeScript
