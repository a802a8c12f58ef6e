import NodeScript.IdSupply
import NodeScript.Json
import NodeScript.Text.Number

/-!
Reading typed values out of JSON. A reader may draw ids, gathers every fault and tells where each
one is. Numbers and truth values are also taken from texts and from each other where nothing is
lost, unless the text cannot be encoded; texts are only taken from texts.
-/
namespace NodeScript

inductive FaultKind where
  | missing | notText | notEncoded | notChoice | notList | notMapping | notRecord | notAttributes
  | notFlag | flagText | notReal | realText | notWhole | wholeText | wholeFraction | wholeSize
  | notFinite
  | notJson
  deriving DecidableEq, Repr

namespace FaultKind

def code : FaultKind → Text
  | missing => "missing"
  | notText => "string_type"
  | notEncoded => "string_unicode"
  | notChoice => "enum"
  | notList => "list_type"
  | notMapping => "dict_type"
  | notRecord => "model_type"
  | notAttributes => "model_attributes_type"
  | notFlag => "bool_type"
  | flagText => "bool_parsing"
  | notReal => "float_type"
  | realText => "float_parsing"
  | notWhole => "int_type"
  | wholeText => "int_parsing"
  | wholeFraction => "int_from_float"
  | wholeSize => "int_parsing_size"
  | notFinite => "finite_number"
  | notJson => "json_invalid"

end FaultKind

structure Fault where
  path : List Text := []
  kind : FaultKind
  deriving DecidableEq, Repr

namespace Fault

def place (f : Fault) : Text := Text.joinWith "." f.path

def under (step : Text) (f : Fault) : Fault := { f with path := step :: f.path }

end Fault

def Reader (α : Type) : Type := IdSupply → Except (List Fault) α × IdSupply

namespace Reader

def of {α : Type} (a : α) : Reader α := fun ids => (.ok a, ids)

def fault {α : Type} (kind : FaultKind) : Reader α := fun ids => (.error [⟨[], kind⟩], ids)

def joined {α β : Type} : Except (List Fault) (α → β) → Except (List Fault) α → Except (List Fault) β
  | .ok f, .ok a => .ok (f a)
  | .ok _, .error faults => .error faults
  | .error faults, .ok _ => .error faults
  | .error faults, .error more => .error (faults ++ more)

def and {α β : Type} (read : Reader (α → β)) (next : Reader α) : Reader β := fun ids =>
  let (first, ids) := read ids
  let (second, ids) := next ids
  (joined first second, ids)

def under {α : Type} (step : Text) (read : Reader α) : Reader α := fun ids =>
  let (found, ids) := read ids
  (found.mapError (·.map (Fault.under step)), ids)

def drawId : Reader Text := fun ids =>
  let (id, ids) := ids.draw
  (.ok id, ids)

def field {α : Type} (members : Members) (name : Text) (absent : Reader α) (read : Json → Reader α) :
    Reader α :=
  match members.get? name with
  | some value => (read value).under name
  | none => absent.under name

def required {α : Type} (members : Members) (name : Text) (read : Json → Reader α) : Reader α :=
  field members name (fault .missing) read

def items {α : Type} (read : Json → Reader α) (place : Nat) : List Json → Reader (List α)
  | [] => of []
  | item :: rest =>
    (((of List.cons).and ((read item).under (Decimal.natText place))).and (items read (place + 1) rest))

def list {α : Type} (read : Json → Reader α) : Json → Reader (List α)
  | .arr found => items read 0 found
  | _ => fault .notList

def record {α : Type} (read : Members → Reader α) : Json → Reader α
  | .obj members => read members
  | _ => fault .notRecord

def anything (value : Json) : Reader Json := of value

def mapping : Json → Reader Members
  | .obj members => of members
  | _ => fault .notMapping

def text : Json → Reader Text
  | .str found => of found
  | _ => fault .notText

def ofChars {α : Type} (found : Text) (read : List Char → Reader α) : Reader α :=
  match found.chars? with
  | some cs => read cs
  | none => fault .notEncoded

def maybe {α : Type} (read : Json → Reader α) : Json → Reader (Option α)
  | .null => of none
  | value => (of some).and (read value)

def choice {α : Type} (all : List α) (name : α → Text) : Json → Reader α
  | .str found => ofChars found fun cs =>
    match all.find? fun a => name a = .ofChars cs with
    | some a => of a
    | none => fault .notChoice
  | _ => fault .notChoice

def trueWords : List Text := ["1", "t", "true", "y", "yes", "on"]

def falseWords : List Text := ["0", "f", "false", "n", "no", "off"]

def wholeOf? (x : Float) : Option Int :=
  if x.isFinite then
    let (num, den) := Decimal.ratio x
    if num % den = 0 then some (if Decimal.isNegative x then -(num / den : Nat) else (num / den : Nat))
    else none
  else none

def wordSize : Int := 9223372036854775808

/-- Whole numbers are taken from floats within 64 bits only. -/
def withinWord (n : Int) : Bool := -wordSize < n && n < wordSize

def flagOfInt (n : Int) : Reader Bool :=
  if n = 0 then of false else if n = 1 then of true else fault .flagText

def flag : Json → Reader Bool
  | .bool b => of b
  | .int n => if -wordSize ≤ n && n < wordSize then flagOfInt n else fault .notFlag
  | .float x =>
    match wholeOf? x with
    | some n => if withinWord n then flagOfInt n else fault .notFlag
    | none => fault .notFlag
  | .str found => ofChars found fun cs =>
    let word := Text.ofChars (cs.map Char.toLower)
    if word ∈ trueWords then of true
    else if word ∈ falseWords then of false
    else fault .flagText
  | _ => fault .notFlag

def realOfInt (n : Int) : Float :=
  let x := Decimal.ofRatio n.natAbs 1
  if n < 0 then -x else x

def realInt (n : Int) : Reader Float :=
  let x := realOfInt n
  if x.isFinite then of x else fault .notReal

def real : Json → Reader Float
  | .float x => of x
  | .int n => realInt n
  | .bool b => of (if b then 1 else 0)
  | .str found => ofChars found fun cs =>
    match Text.real? cs with
    | some x => of x
    | none => fault .realText
  | _ => fault .notReal

def whole : Json → Reader Int
  | .int n => of n
  | .bool b => of (if b then 1 else 0)
  | .float x =>
    match wholeOf? x with
    | some n => if withinWord n then of n else fault .wholeSize
    | none => fault (if x.isFinite then .wholeFraction else .notFinite)
  | .str found => ofChars found fun cs =>
    match Text.whole cs with
    | .ok n => of n
    | .error .malformed => fault .wholeText
    | .error .tooLong => fault .wholeSize
  | _ => fault .notWhole

def run {α : Type} (read : Reader α) : Except (List Fault) α := (read {}).1

end Reader

end NodeScript
