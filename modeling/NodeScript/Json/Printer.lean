import NodeScript.Decimal.Numeral
import NodeScript.Json

/-!
Two written forms of a JSON value. A document is indented by two blanks a level and holds ASCII
alone, other letters being escaped by their UTF-16 units; a line has no blanks and keeps every
character that need not be escaped.
-/
namespace NodeScript

namespace Json

def hexDigit (n : Nat) : Char := (Nat.digitChar (n % 16))

def unit (n : Nat) : List Char :=
  ['\\', 'u', hexDigit (n / 4096), hexDigit (n / 256), hexDigit (n / 16), hexDigit n]

def units (n : Nat) : List Char :=
  if n < 0x10000 then unit n
  else unit (0xD800 + (n - 0x10000) / 0x400) ++ unit (0xDC00 + (n - 0x10000) % 0x400)

def escapedChar (bare : Char → Bool) (c : Char) : List Char :=
  if c = '"' then ['\\', '"']
  else if c = '\\' then ['\\', '\\']
  else if c = '\n' then ['\\', 'n']
  else if c = '\r' then ['\\', 'r']
  else if c = '\t' then ['\\', 't']
  else if c = '\x08' then ['\\', 'b']
  else if c = '\x0c' then ['\\', 'f']
  else if bare c then [c]
  else units c.toNat

/-- A half that stands alone is always escaped. -/
def escaped (bare : Char → Bool) : Letter → List Char
  | .char c => escapedChar bare c
  | .half n => units (Letter.half n).toNat

def quote (bare : Char → Bool) (text : Text) : List Char :=
  '"' :: text.letters.flatMap (escaped bare) ++ ['"']

def isPlainAscii (c : Char) : Bool := 0x20 ≤ c.toNat && c.toNat ≤ 0x7e

def isNotControl (c : Char) : Bool := 0x20 ≤ c.toNat

def newline (level : Nat) : List Char := '\n' :: List.replicate (2 * level) ' '

mutual
def indented (level : Nat) : Json → List Char
  | null => "null".toList
  | bool value => (if value then "true" else "false").toList
  | int value => Decimal.intChars value
  | float value => (Decimal.floatText Decimal.document value).toList
  | str text => quote isPlainAscii text
  | arr [] => ['[', ']']
  | arr (item :: items) =>
    '[' :: newline (level + 1) ++ indented (level + 1) item ++ indentedItems (level + 1) items ++
      newline level ++ [']']
  | obj [] => ['{', '}']
  | obj ((name, value) :: members) =>
    '{' :: newline (level + 1) ++ quote isPlainAscii name ++ [':', ' '] ++ indented (level + 1) value ++
      indentedMembers (level + 1) members ++ newline level ++ ['}']
def indentedItems (level : Nat) : List Json → List Char
  | [] => []
  | item :: items => ',' :: newline level ++ indented level item ++ indentedItems level items
def indentedMembers (level : Nat) : List (Text × Json) → List Char
  | [] => []
  | (name, value) :: members =>
    ',' :: newline level ++ quote isPlainAscii name ++ [':', ' '] ++ indented level value ++
      indentedMembers level members
end

def document (value : Json) : String := String.ofList (indented 0 value)

def isLong (n : Int) : Bool := digitLimit < Decimal.digitCount n.natAbs

mutual
/-- Whether the document of the value is written to its end. A whole number of too many digits has no
written form, and ends it. -/
def complete : Json → Bool
  | int value => !isLong value
  | arr items => completeItems items
  | obj members => completeMembers members
  | _ => true
def completeItems : List Json → Bool
  | [] => true
  | item :: items => complete item && completeItems items
def completeMembers : List (Text × Json) → Bool
  | [] => true
  | (_, value) :: members => complete value && completeMembers members
end

/-- What leads to an item goes out together with it if the item is a number. -/
def lead (before : List Char) : Json → List Char
  | int value => if isLong value then [] else before
  | _ => before

mutual
def begun (level : Nat) : Json → List Char
  | arr (item :: items) =>
    lead ('[' :: newline (level + 1)) item ++ begun (level + 1) item ++
      (if complete item then begunItems (level + 1) items else []) ++
      (if complete item && completeItems items then newline level ++ [']'] else [])
  | obj ((name, value) :: members) =>
    '{' :: newline (level + 1) ++ quote isPlainAscii name ++ [':', ' '] ++ begun (level + 1) value ++
      (if complete value then begunMembers (level + 1) members else []) ++
      (if complete value && completeMembers members then newline level ++ ['}'] else [])
  | value => if complete value then indented level value else []
def begunItems (level : Nat) : List Json → List Char
  | [] => []
  | item :: items =>
    lead (',' :: newline level) item ++ begun level item ++
      (if complete item then begunItems level items else [])
def begunMembers (level : Nat) : List (Text × Json) → List Char
  | [] => []
  | (name, value) :: members =>
    ',' :: newline level ++ quote isPlainAscii name ++ [':', ' '] ++ begun level value ++
      (if complete value then begunMembers level members else [])
end

def documentBegun (value : Json) : String := String.ofList (begun 0 value)

mutual
def line : Json → String
  | null => "null"
  | bool value => if value then "true" else "false"
  | int value => Decimal.intText value
  | float value => Decimal.floatText Decimal.document value
  | str text => String.ofList (quote isNotControl text)
  | arr items => "[" ++ lineItems "" items ++ "]"
  | obj members => "\x7b" ++ lineMembers "" members ++ "\x7d"
def lineItems (before : String) : List Json → String
  | [] => ""
  | item :: items => before ++ line item ++ lineItems "," items
def lineMembers (before : String) : List (Text × Json) → String
  | [] => ""
  | (name, value) :: members =>
    before ++ String.ofList (quote isNotControl name) ++ ":" ++ line value ++ lineMembers "," members
end

end Json

end NodeScript
