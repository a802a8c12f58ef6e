import NodeScript.Json.Parser

namespace NodeScript.Http

inductive ByteOrder where
  | bigEndian | littleEndian
  deriving DecidableEq, Repr

inductive Encoding where
  | varying
  | pairs (order : ByteOrder)
  | quads (order : ByteOrder)
  deriving DecidableEq, Repr

namespace ByteOrder

def join (order : ByteOrder) (a b : Nat) : Nat :=
  match order with
  | bigEndian => 0x100 * a + b
  | littleEndian => a + 0x100 * b

def join4 (order : ByteOrder) (a b c d : Nat) : Nat :=
  match order with
  | bigEndian => 0x10000 * order.join a b + order.join c d
  | littleEndian => order.join a b + 0x10000 * order.join c d

end ByteOrder

namespace Encoding

def ofBytes : List Nat → Encoding
  | [a, b] =>
    if a = 0 then pairs .bigEndian else if b = 0 then pairs .littleEndian else varying
  | a :: b :: c :: d :: _ =>
    if a = 0 then (if b = 0 then quads .bigEndian else pairs .bigEndian)
    else if b = 0 then (if c = 0 ∧ d = 0 then quads .littleEndian else pairs .littleEndian)
    else varying
  | _ => varying

end Encoding

def units? (order : ByteOrder) : List Nat → Option (List Nat)
  | [] => some []
  | [_] => none
  | a :: b :: rest => (units? order rest).map (order.join a b :: ·)

def ofUnits : List Nat → List Letter
  | [] => []
  | [a] => [Letter.ofNat a]
  | a :: b :: rest =>
    if Letter.isHighHalf a && Letter.isLowHalf b then Letter.ofNat (Letter.joinHalves a b) :: ofUnits rest
    else Letter.ofNat a :: ofUnits (b :: rest)

def ofQuads? (order : ByteOrder) : List Nat → Option (List Letter)
  | [] => some []
  | a :: b :: c :: d :: rest =>
    let n := order.join4 a b c d
    if 0x10FFFF < n then none else (ofQuads? order rest).map (Letter.ofNat n :: ·)
  | _ => none

def bytes (text : String) : List Nat := text.toUTF8.toList.map UInt8.toNat

def withoutMark (text : String) : String :=
  match text.toList with
  | '\uFEFF' :: rest => String.ofList rest
  | _ => text

def decoded? (text : String) : Option Text :=
  match Encoding.ofBytes (bytes text) with
  | .varying => some (withoutMark text)
  | .pairs order => (units? order (bytes text)).map fun units => ⟨ofUnits units⟩
  | .quads order => (ofQuads? order (bytes text)).map Text.mk

end NodeScript.Http
