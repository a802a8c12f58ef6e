import NodeScript.Text

/-!
Texts in files. A path is read as bytes and followed step by step from the outermost directory of the
files: a name leads into a directory or to a file, two points lead up, a point and an empty step lead
nowhere else. Writing a file makes the directories on its path.
-/
namespace NodeScript

abbrev Bytes := List UInt8

namespace Letter

/-- The bytes of a letter in a path. A half may stand for a single byte above those of ASCII; any
other one stands for zero, which is in no name. -/
def pathBytes : Letter → Bytes
  | .char c => String.utf8EncodeChar c
  | .half n => [if 0x480 ≤ n.val && n.val < 0x500 then UInt8.ofNat (n.val - 0x400) else 0]

end Letter

namespace Text

def pathBytes (path : Text) : Bytes := path.letters.flatMap Letter.pathBytes

end Text

/-- A place is told by the names that lead to it. Above the outermost directory it starts with steps
up, and the directories there are always there. -/
abbrev Place := List Bytes

structure Files where
  directories : List Place := []
  texts : List (Place × String) := []
  deriving DecidableEq, Repr, Inhabited

/-- What a path leads to: a vacant place is a name that is not taken in a directory. -/
inductive Spot where
  | directory (place : Place)
  | file (place : Place) (text : String)
  | vacant (place : Place)
  | nowhere
  deriving DecidableEq, Repr

namespace Files

def slash : UInt8 := 0x2f

def point : UInt8 := 0x2e

def stepUp : Bytes := [point, point]

def isRest (step : Bytes) : Bool := step = [] || step = [point]

def isAbove (place : Place) : Bool := place.all (· = stepUp)

def parent (place : Place) : Place := if isAbove place then place ++ [stepUp] else place.dropLast

def nameLimit : Nat := 255

def pathLimit : Nat := 4070

def isName (step : Bytes) : Bool := step.length ≤ nameLimit && !step.contains 0

def isDirectory (f : Files) (place : Place) : Bool := isAbove place || f.directories.contains place

def entry (f : Files) (place : Place) (name : Bytes) : Spot :=
  let place := place ++ [name]
  if !isName name then .nowhere
  else match f.texts.lookup place with
    | some text => .file place text
    | none => if f.isDirectory place then .directory place else .vacant place

/-- Where steps from a directory lead. Nothing but a directory can be gone through. -/
def follow (f : Files) : Place → List Bytes → Spot
  | place, [] => .directory place
  | place, step :: rest =>
    if isRest step then f.follow place rest
    else if step = stepUp then f.follow (parent place) rest
    else match f.entry place step with
      | .directory place => f.follow place rest
      | found => if rest = [] then found else .nowhere

def isTooLong (path : Text) : Bool := pathLimit < path.pathBytes.length

def steps (path : Text) : List Bytes := path.pathBytes.splitOn slash

def spot (f : Files) (path : Text) : Spot :=
  if isTooLong path then .nowhere else f.follow [] (steps path)

def text? (f : Files) (path : Text) : Option String :=
  match f.spot path with
  | .file _ text => some text
  | _ => none

def holds (f : Files) (path : Text) : Bool :=
  match f.spot path with
  | .directory _ | .file .. => true
  | _ => false

def makeWay : Place → List Bytes → Files → Option Place × Files
  | place, [], f => (some place, f)
  | place, step :: rest, f =>
    if isRest step then makeWay place rest f
    else if step = stepUp then makeWay (parent place) rest f
    else match f.entry place step with
      | .directory place => makeWay place rest f
      | .vacant place => makeWay place rest { f with directories := place :: f.directories }
      | _ => (none, f)

def put (place : Place) (text : String) (f : Files) : Files :=
  { f with texts := (place, text) :: f.texts.filter (·.1 ≠ place) }

/-- Whether the text was written, and the files that are left; directories stay also if it was not. -/
def write (path : Text) (text : String) (f : Files) : Bool × Files :=
  if isTooLong path then (false, f)
  else match makeWay [] (steps path).dropLast f with
    | (none, f) => (false, f)
    | (some place, f) =>
      match f.follow place (steps path).getLast?.toList with
      | .file place _ | .vacant place => (true, f.put place text)
      | _ => (false, f)

end Files

end NodeScript
