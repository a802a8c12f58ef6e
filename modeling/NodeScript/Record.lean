import NodeScript.Decimal.Digits
import NodeScript.Json
import NodeScript.Text.Quoted

/-!
Records: values that are written as JSON. What a record holds as it was given, without a form of its
own, is a free value; a record can be written only if none of these has too many levels or a member
whose name cannot be encoded.
-/
namespace NodeScript

inductive WriteFault where
  | tooDeep
  | notEncoded (name : Text)
  deriving DecidableEq, Repr

namespace WriteFault

/-- The place of the halves that stand alone together, which begin so far from the head. -/
def halvesMessage (start : Nat) : List Letter → String
  | [half] =>
    "character '" ++ String.ofList (Text.letterShown '\'' half) ++ "' in position " ++
      Decimal.natText start
  | halves => "characters in position " ++ Decimal.natText start ++ "-" ++
      Decimal.natText (start + halves.length - 1)

def message : WriteFault → String
  | tooDeep => "Maximum serialization depth exceeded"
  | notEncoded name =>
    let (before, rest) := name.letters.span Letter.isChar
    "'utf-8' codec can't encode " ++ halvesMessage before.length (rest.takeWhile fun a => !a.isChar) ++
      ": surrogates not allowed"

end WriteFault

namespace Json

mutual
/-- The first fault of a value that may have so many levels, a name being written before its value. -/
def writeFault? : Nat → Json → Option WriteFault
  | 0, _ => some .tooDeep
  | levels + 1, arr items => writeFaultItems? levels items
  | levels + 1, obj members => writeFaultMembers? levels members
  | _ + 1, _ => none
def writeFaultItems? : Nat → List Json → Option WriteFault
  | _, [] => none
  | levels, a :: as => (writeFault? levels a).or (writeFaultItems? levels as)
def writeFaultMembers? : Nat → List (Text × Json) → Option WriteFault
  | _, [] => none
  | levels, (name, a) :: as =>
    if name.encodable then (writeFault? levels a).or (writeFaultMembers? levels as)
    else some (.notEncoded name)
end

end Json

class Record (α : Type) where
  toJson : α → Json
  free : α → List Json := fun _ => []

namespace Record

def levelLimit : Nat := 255

def firstFault? (values : List Json) : Option WriteFault :=
  values.findSome? fun value => value.writeFault? levelLimit

def fault? {α : Type} [Record α] (a : α) : Option WriteFault := firstFault? (free a)

end Record

section

variable {α : Type} [Record α]

instance : Record (List α) where
  toJson l := .arr (l.map Record.toJson)
  free l := l.flatMap Record.free

instance : Record (Option α) where
  toJson a := (a.map Record.toJson).getD .null
  free a := a.toList.flatMap Record.free

end

end NodeScript
