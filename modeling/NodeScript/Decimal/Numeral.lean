import NodeScript.Decimal.Shortest

namespace NodeScript

namespace Decimal

structure Spelling where
  nan : String
  infinity : String
  deriving DecidableEq, Repr

def plain : Spelling := ⟨"nan", "inf"⟩

def document : Spelling := ⟨"NaN", "Infinity"⟩

def trimZeros (digits : List Char) : List Char :=
  match (digits.reverse.dropWhile (· = '0')).reverse with
  | [] => ['0']
  | kept => kept

def signedExponent (e : Int) : String :=
  let digits := natText e.natAbs
  (if e < 0 then "e-" else "e+") ++ (if digits.length < 2 then "0" ++ digits else digits)

/-- The number is `0.d₁d₂… * 10 ^ point`. -/
def layout (digits : List Char) (point : Int) : String :=
  let count : Int := digits.length
  if point < -3 ∨ 16 < point then
    let tail := digits.drop 1
    String.ofList (digits.take 1 ++ (if tail.isEmpty then [] else '.' :: tail)) ++ signedExponent (point - 1)
  else if point ≤ 0 then
    "0." ++ String.ofList (List.replicate (-point).toNat '0' ++ digits)
  else if count ≤ point then
    String.ofList (digits ++ List.replicate (point - count).toNat '0') ++ ".0"
  else
    String.ofList (digits.take point.toNat ++ '.' :: digits.drop point.toNat)

def text (d : Decimal) : String :=
  let digits := Nat.toDigits 10 d.digits
  let point := if d.digits = 0 then 1 else (digits.length : Int) + d.exponent
  layout (trimZeros digits) point

def floatText (spelling : Spelling) (x : Float) : String :=
  if x.isNaN then spelling.nan
  else
    (if isNegative x then "-" else "") ++
      (if x.isInf then spelling.infinity else (shortest x).text)

end Decimal

end NodeScript
