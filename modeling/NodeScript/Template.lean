import NodeScript.Json

/-!
Node templates. A template says how a kind of node is shown (category, label, icon), where it runs
(its context), which ports it has and how it is compiled (`bridge`, `loop`). A port carries either
the flow of execution or a value; values of one type fit together, and `any` fits every value.
-/
namespace NodeScript

inductive Category where
  | constants | events | flow | memory | pointers | modules | vars | arrays | objects | math
  | strings | conversion | native | interceptors | output | functions
  deriving DecidableEq, Repr, Inhabited

namespace Category

def all : List Category :=
  [constants, events, flow, memory, pointers, modules, vars, arrays, objects, math, strings,
   conversion, native, interceptors, output, functions]

def name : Category → Text
  | constants => "Constants"
  | events => "Events"
  | flow => "Flow"
  | memory => "Memory"
  | pointers => "Pointer"
  | modules => "Module"
  | vars => "Variable"
  | arrays => "Array"
  | objects => "Object"
  | math => "Math"
  | strings => "String"
  | conversion => "Conversion"
  | native => "Native"
  | interceptors => "Interceptor"
  | output => "Output"
  | functions => "Function"

end Category

/-- The controlling process, or the agent inside the instrumented one. -/
inductive Context where
  | host | target
  deriving DecidableEq, Repr, Inhabited

namespace Context

def all : List Context := [host, target]

def name : Context → Text
  | host => "host"
  | target => "target"

end Context

inductive PortType where
  | flow | number | string | boolean | pointer | bytes | any
  deriving DecidableEq, Repr, Inhabited

namespace PortType

def all : List PortType := [flow, number, string, boolean, pointer, bytes, any]

def name : PortType → Text
  | flow => "flow"
  | number => "number"
  | string => "string"
  | boolean => "boolean"
  | pointer => "pointer"
  | bytes => "bytes"
  | any => "any"

def fits (source target : PortType) : Bool :=
  if source = flow ∨ target = flow then source = target
  else source = any ∨ target = any ∨ source = target

end PortType

structure Port where
  name : Text
  type : PortType
  loopBack : Bool := false
  deriving DecidableEq, Repr, Inhabited

structure Template where
  type : Text
  category : Category
  context : Context
  label : Text
  description : Text := ""
  icon : Text := ""
  inputs : List Port := []
  outputs : List Port := []
  parameters : Members := []
  bridge : Bool := false
  loop : Bool := false
  deriving DecidableEq, Repr, Inhabited

namespace Template

def input? (t : Template) (name : Text) : Option Port := t.inputs.find? (·.name = name)

def output? (t : Template) (name : Text) : Option Port := t.outputs.find? (·.name = name)

def isEvent (t : Template) : Bool := t.category = .events

def loopsBackAt (t : Template) (name : Text) : Bool := (t.input? name).any (·.loopBack)

end Template

end NodeScript
