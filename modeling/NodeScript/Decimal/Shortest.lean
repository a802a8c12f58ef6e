import NodeScript.Decimal.Digits

/-!
Decimal numerals of binary floating-point numbers. `Decimal.toFloat` rounds a numeral to the
nearest number, ties to the even mantissa; `Decimal.shortest` gives the fewest digits that are
read back as the same number, and of two such numerals the nearer.
-/
namespace NodeScript

/-- The number `digits * 10 ^ exponent`. -/
structure Decimal where
  digits : Nat
  exponent : Int
  deriving DecidableEq, Repr

namespace Decimal

def twos (k : Nat) : Nat := Nat.pow 2 k

def fives (k : Nat) : Nat := Nat.pow 5 k

def tens (k : Nat) : Nat := Nat.pow 10 k

def scaled (num den : Nat) (e : Int) : Nat × Nat :=
  if 0 ≤ e then (num, den * twos e.toNat) else (num * twos (-e).toNat, den)

def fits (num den : Nat) (e : Int) : Bool := (scaled num den e).1 < (scaled num den e).2 * twos 53

/-- The power of two that the mantissa of a fraction is counted in. -/
def grain (num den : Nat) : Int :=
  let guess : Int := (num.log2 : Int) - (den.log2 : Int) - 53
  let least := if fits num den guess then guess else if fits num den (guess + 1) then guess + 1 else guess + 2
  max least (-1074)

/-- The whole number nearest to a fraction, of two the even one. -/
def rounded (n d : Nat) : Nat :=
  let low := n / d
  let rest := n % d
  if 2 * rest < d then low else if d < 2 * rest then low + 1 else low + low % 2

/-- Bits of a mantissa in its grain, which may carry into the next one; those of infinity are the last. -/
def bitsOf (e : Int) (mantissa : Nat) : Nat := min ((e + 1074).toNat * twos 52 + mantissa) (2047 * twos 52)

def nearestBits (num den : Nat) : Nat :=
  if num = 0 then 0 else
  let e := grain num den
  bitsOf e (rounded (scaled num den e).1 (scaled num den e).2)

def ofRatio (num den : Nat) : Float := Float.ofBits (nearestBits num den).toUInt64

/-- Beyond these bounds the number is infinite or zero whatever its digits are. -/
def toFloat (d : Decimal) : Float :=
  let top := (digitCount d.digits : Int) + d.exponent
  if d.digits = 0 ∨ top < -400 then 0
  else if 400 < top then ofRatio (tens 400) 1
  else if 0 ≤ d.exponent then ofRatio (d.digits * tens d.exponent.toNat) 1
  else ofRatio d.digits (tens (-d.exponent).toNat)

def isNegative (x : Float) : Bool := twos 63 ≤ x.toBits.toNat

def parts (x : Float) : Nat × Int :=
  let bits := x.toBits.toNat % twos 63
  let field : Nat := bits / twos 52
  let fraction : Nat := bits % twos 52
  if field = 0 then (fraction, -1074) else (fraction + twos 52, (field : Int) - 1075)

def ratio (x : Float) : Nat × Nat :=
  let (m, q) := parts x
  if 0 ≤ q then (m * twos q.toNat, 1) else (m, twos (-q).toNat)

/-- The `k` with `10 ^ k ≤ num / den < 10 ^ (k + 1)`. -/
def magnitude (num den : Nat) : Int :=
  if den ≤ num then (digitCount (num / den) : Int) - 1
  else
    let l := digitCount (den / num)
    if num * tens (l - 1) = den then 1 - (l : Int) else -(l : Int)

/-- The two numerals on the grid `10 ^ grid` next to `num / den`, the nearer first. -/
def neighbours (num den : Nat) (grid : Int) : List Decimal :=
  let (n, d) := if 0 ≤ grid then (num, den * tens grid.toNat) else (num * tens (-grid).toNat, den)
  let low := n / d
  let rest := 2 * (n % d)
  if rest < d ∨ rest = d ∧ low % 2 = 0 then [⟨low, grid⟩, ⟨low + 1, grid⟩]
  else [⟨low + 1, grid⟩, ⟨low, grid⟩]

def exact (x : Float) : Decimal :=
  let (m, q) := parts x
  if 0 ≤ q then ⟨m * twos q.toNat, 0⟩ else ⟨m * fives (-q).toNat, q⟩

def reads (x : Float) (d : Decimal) : Bool := decide (d.toFloat = x)

/-- Seventeen digits are enough for every number, so that all digits are never needed. -/
def shortest (x : Float) : Decimal :=
  let (num, den) := ratio x
  let k := magnitude num den
  if num = 0 then ⟨0, 0⟩ else
  ((List.range 17).findSome? fun (n : Nat) => (neighbours num den (k - (n : Int))).find? (reads x.abs)).getD (exact x)

end Decimal

end NodeScript
