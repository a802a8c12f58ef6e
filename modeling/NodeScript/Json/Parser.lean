import NodeScript.Decimal.Shortest
import NodeScript.Json

/-!
Reading a JSON text. Every reader takes the letters that are left and gives a value with the letters
after it, or the letters from the fault on, whose number tells where the fault is.
`NaN` and the infinities are read as numbers; of two members of one name the last value stays, at
the place of the first. A whole number may have so many digits, and arrays and objects may stand in
each other so deep; what goes further is not read.
-/
namespace NodeScript

namespace Json

inductive Unread (place : Type) where
  | fault (place : place)
  | beyondLimits
  deriving DecidableEq, Repr

abbrev Reading (α : Type) := Except (Unread (List Letter)) α

def faultAt {α : Type} (rest : List Letter) : Reading α := .error (.fault rest)

def isBlank (c : Char) : Bool := c = ' ' || c = '\t' || c = '\n' || c = '\r'

def skipBlanks (cs : List Letter) : List Letter := cs.dropWhile fun c => c.is isBlank

def hexValue? (c : Char) : Option Nat :=
  if Decimal.isDigit c then some (c.toNat - '0'.toNat)
  else if 'a' ≤ c && c ≤ 'f' then some (c.toNat - 'a'.toNat + 10)
  else if 'A' ≤ c && c ≤ 'F' then some (c.toNat - 'A'.toNat + 10)
  else none

/-- Four hexadecimal digits with at least one letter after them. -/
def unit? : List Letter → Option (Nat × List Letter)
  | .char a :: .char b :: .char c :: .char d :: e :: rest => do
    let n := 4096 * (← hexValue? a) + 256 * (← hexValue? b) + 16 * (← hexValue? c) + (← hexValue? d)
    pure (n, e :: rest)
  | _ => none

def simpleEscape? (c : Char) : Option Char :=
  if c = '"' then some '"'
  else if c = '\\' then some '\\'
  else if c = '/' then some '/'
  else if c = 'b' then some '\x08'
  else if c = 'f' then some '\x0c'
  else if c = 'n' then some '\n'
  else if c = 'r' then some '\r'
  else if c = 't' then some '\t'
  else none

def escapedUnit (cs : List Letter) : Reading (Letter × List Letter) :=
  match unit? cs with
  | none => faultAt ('u' :: cs)
  | some (high, rest) =>
    match rest with
    | .char '\\' :: .char 'u' :: more =>
      if Letter.isHighHalf high && 4 < more.length then
        match unit? more with
        | none => faultAt ('u' :: more)
        | some (low, after) =>
          if Letter.isLowHalf low then .ok (Letter.ofNat (Letter.joinHalves high low), after)
          else .ok (Letter.ofNat high, rest)
      else .ok (Letter.ofNat high, rest)
    | _ => .ok (Letter.ofNat high, rest)

/-- The letters up to the closing quote; `start` is the text from the opening one on. -/
def stringBody (start : List Letter) : Nat → List Letter → Reading (List Letter × List Letter)
  | 0, _ => faultAt start
  | _, [] => faultAt start
  | fuel + 1, c :: rest =>
    if c = '"' then .ok ([], rest)
    else if c = '\\' then
      match rest with
      | [] => faultAt start
      | e :: after =>
        if e = 'u' then do
          let (d, after) ← escapedUnit after
          let (body, after) ← stringBody start fuel after
          pure (d :: body, after)
        else
          match e.char?.bind simpleEscape? with
          | none => faultAt (c :: rest)
          | some d => do
            let (body, after) ← stringBody start fuel after
            pure (d :: body, after)
    else if c.toNat < 0x20 then faultAt (c :: rest)
    else do
      let (body, after) ← stringBody start fuel rest
      pure (c :: body, after)

def stringAfterQuote (cs : List Letter) : Reading (Text × List Letter) := do
  let (body, rest) ← stringBody ('"' :: cs) (cs.length + 1) cs
  pure (⟨body⟩, rest)

def digits : List Letter → List Char × List Letter
  | .char c :: rest =>
    if Decimal.isDigit c then
      let (more, rest) := digits rest
      (c :: more, rest)
    else ([], .char c :: rest)
  | cs => ([], cs)

def fraction : List Letter → List Char × List Letter
  | .char '.' :: rest =>
    match digits rest with
    | ([], _) => ([], .char '.' :: rest)
    | found => found
  | cs => ([], cs)

def exponentDigits (cs : List Letter) : Option (Int × List Letter) :=
  let read (sign : Int) (cs : List Letter) : Option (Int × List Letter) :=
    match digits cs with
    | ([], _) => none
    | (ds, rest) => some (sign * (Decimal.digitsValue ds : Int), rest)
  match cs with
  | .char '-' :: rest => read (-1) rest
  | .char '+' :: rest => read 1 rest
  | cs => read 1 cs

def exponent : List Letter → Option Int × List Letter
  | c :: rest =>
    if c = 'e' || c = 'E' then
      match exponentDigits rest with
      | some (e, after) => (some e, after)
      | none => (none, c :: rest)
    else (none, c :: rest)
  | [] => (none, [])

def wholePart : List Letter → Option (List Char × List Letter)
  | .char '0' :: rest => some (['0'], rest)
  | cs =>
    match digits cs with
    | ([], _) => none
    | found => some found

def signed (negative : Bool) (x : Float) : Float := if negative then -x else x

def wholeNumber (negative : Bool) (digits : List Char) : Reading Json :=
  if digitLimit < digits.length then .error .beyondLimits
  else
    let n : Int := Decimal.digitsValue digits
    .ok (int (if negative then -n else n))

def unsignedNumber (negative : Bool) (start cs : List Letter) : Reading (Json × List Letter) := do
  let some (whole, rest) := wholePart cs | faultAt start
  let (places, rest) := fraction rest
  let (power, rest) := exponent rest
  if places.isEmpty && power.isNone then
    let n ← wholeNumber negative whole
    pure (n, rest)
  else
    let d : Decimal := ⟨Decimal.digitsValue (whole ++ places), power.getD 0 - (places.length : Int)⟩
    pure (float (signed negative d.toFloat), rest)

def number (cs : List Letter) : Reading (Json × List Letter) :=
  match cs with
  | .char '-' :: rest => unsignedNumber true cs rest
  | _ => unsignedNumber false cs cs

def notANumber : Float := 0 / 0

def infinity : Float := 1 / 0

def constants : List (Text × Json) :=
  [("null", null), ("true", bool true), ("false", bool false), ("NaN", float notANumber),
   ("Infinity", float infinity), ("-Infinity", float (-infinity))]

def constant? (cs : List Letter) : Option (Json × List Letter) :=
  constants.findSome? fun c => (c.1.after? cs).map fun rest => (c.2, rest)

/-- How many arrays and objects may stand in each other. -/
def nestingLimit : Nat := 960

mutual
/-- The value at the head of the text, in which so many levels of arrays and objects may follow. -/
def value : Nat → Nat → List Letter → Reading (Json × List Letter)
  | 0, _, cs => faultAt cs
  | fuel + 1, levels, cs =>
    match cs, levels with
    | .char '"' :: rest, _ => do
      let (text, rest) ← stringAfterQuote rest
      pure (str text, rest)
    | .char '{' :: _, 0 | .char '[' :: _, 0 => .error .beyondLimits
    | .char '{' :: rest, levels + 1 =>
      match skipBlanks rest with
      | .char '}' :: rest => .ok (obj [], rest)
      | rest => do
        let (read, rest) ← members fuel levels [] rest
        pure (obj read, rest)
    | .char '[' :: rest, levels + 1 =>
      match skipBlanks rest with
      | .char ']' :: rest => .ok (arr [], rest)
      | rest => do
        let (read, rest) ← items fuel levels rest
        pure (arr read, rest)
    | cs, _ =>
      match constant? cs with
      | some found => .ok found
      | none => number cs
def items : Nat → Nat → List Letter → Reading (List Json × List Letter)
  | 0, _, cs => faultAt cs
  | fuel + 1, levels, cs => do
    let (item, rest) ← value fuel levels cs
    match skipBlanks rest with
    | .char ']' :: rest => pure ([item], rest)
    | .char ',' :: rest =>
      let (more, rest) ← items fuel levels (skipBlanks rest)
      pure (item :: more, rest)
    | rest => faultAt rest
/-- The members of an object and its closing brace, put after those read before. -/
def members : Nat → Nat → Members → List Letter → Reading (Members × List Letter)
  | 0, _, _, cs => faultAt cs
  | fuel + 1, levels, before, cs =>
    match cs with
    | .char '"' :: rest => do
      let (name, rest) ← stringAfterQuote rest
      match skipBlanks rest with
      | .char ':' :: rest =>
        let (value, rest) ← value fuel levels (skipBlanks rest)
        let read := before.put name value
        match skipBlanks rest with
        | .char '}' :: rest => pure (read, rest)
        | .char ',' :: rest => members fuel levels read (skipBlanks rest)
        | rest => faultAt rest
      | rest => faultAt rest
    | rest => faultAt rest
end

def wholeText (cs : List Letter) : Reading Json := do
  let (found, rest) ← value (2 * cs.length + 2) nestingLimit (skipBlanks cs)
  match skipBlanks rest with
  | [] => pure found
  | rest => faultAt rest

def read (text : Text) : Except (Unread Nat) Json :=
  let cs := text.letters
  (wholeText cs).mapError fun
    | .fault rest => .fault (cs.length - rest.length)
    | .beyondLimits => .beyondLimits

end Json

end NodeScript
