import NodeScript.Json
import NodeScript.Slice

/-!
The node types that were used last, the latest first, without repetition and up to a number.
-/
namespace NodeScript

structure Recents where
  maxSize : Int := 8
  types : List Text := []
  deriving DecidableEq, Repr, Inhabited

namespace Recents

def textOf? : Json → Option Text
  | .str text => some text
  | _ => none

def ofList (entries : List Json) (maxSize : Int := 8) : Recents :=
  { maxSize, types := upTo maxSize (entries.filterMap textOf?).eraseDups }

def record (type : Text) (r : Recents) : Recents :=
  { r with types := upTo r.maxSize (type :: r.types.filter (· ≠ type)) }

def clear (r : Recents) : Recents := { r with types := [] }

end Recents

end NodeScript
