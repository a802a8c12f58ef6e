import NodeScript.Json.Display

namespace NodeScript

structure BadChoice where
  value : Json
  set : String
  deriving DecidableEq, Repr

namespace BadChoice

def message (bad : BadChoice) : String := bad.value.display ++ " is not a valid " ++ bad.set

end BadChoice

def choose {α : Type} (set : String) (all : List α) (name : α → Text) (value : Json) :
    Except BadChoice α :=
  match value with
  | .str text =>
    match all.find? fun a => name a = text with
    | some a => .ok a
    | none => .error ⟨value, set⟩
  | _ => .error ⟨value, set⟩

end NodeScript
