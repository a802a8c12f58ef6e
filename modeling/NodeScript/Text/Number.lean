import NodeScript.Decimal.Shortest
import NodeScript.Text.Blank

namespace NodeScript

namespace Text

/-- Blanks around a number; the separator controls are not among them. -/
def isMargin (c : Char) : Bool := isBlank c && !(0x1c ≤ c.toNat && c.toNat ≤ 0x1f)

def withoutMargin (cs : List Char) : List Char :=
  ((cs.dropWhile isMargin).reverse.dropWhile isMargin).reverse

def doubledLowLine : List Char → Bool
  | '_' :: '_' :: _ => true
  | _ :: rest => doubledLowLine rest
  | [] => false

def withoutLowLines? (cs : List Char) : Option (List Char) :=
  if cs.head? = some '_' || cs.getLast? = some '_' || doubledLowLine cs || !cs.contains '_' then none
  else some (cs.filter (· ≠ '_'))

def splitSign : List Char → Bool × List Char
  | '-' :: rest => (true, rest)
  | '+' :: rest => (false, rest)
  | cs => (false, cs)

def power? : List Char → Option Int
  | [] => some 0
  | mark :: rest =>
    if mark = 'e' || mark = 'E' then
      let (negative, digits) := splitSign rest
      if digits.isEmpty || !digits.all Decimal.isDigit then none
      else
        let n : Int := Decimal.digitsValue digits
        some (if negative then -n else n)
    else none

def unsignedReal? (cs : List Char) : Option Float :=
  let word := String.ofList (cs.map Char.toLower)
  if word = "inf" ∨ word = "infinity" then some (1 / 0)
  else if word = "nan" then some (0 / 0)
  else
    let (whole, rest) := cs.span Decimal.isDigit
    let (places, rest) := match rest with
      | '.' :: more => more.span Decimal.isDigit
      | rest => ([], rest)
    if whole.isEmpty && places.isEmpty then none
    else (power? rest).map fun power =>
      Decimal.toFloat ⟨Decimal.digitsValue (whole ++ places), power - (places.length : Int)⟩

def signedReal? (cs : List Char) : Option Float :=
  let (negative, rest) := splitSign cs
  (unsignedReal? rest).map fun x => if negative then -x else x

/-- The number in a text, which has either a margin or low lines. -/
def real? (cs : List Char) : Option Float :=
  (signedReal? (withoutMargin cs)).or ((withoutLowLines? cs).bind signedReal?)

inductive WholeFault where
  | malformed
  | tooLong
  deriving DecidableEq, Repr

def wholeLimit : Nat := 4300

def plainWhole (cs : List Char) : Except WholeFault Int :=
  let (negative, unsigned) := match cs with
    | '-' :: rest => (true, rest)
    | cs => (false, cs)
  let (digits, rest) := unsigned.span Decimal.isDigit
  if digits.isEmpty || (digits.head? = some '0' && 1 < digits.length) then .error .malformed
  else if wholeLimit < digits.length then .error .tooLong
  else if rest ≠ [] then .error .malformed
  else
    let n : Int := Decimal.digitsValue digits
    .ok (if negative then -n else n)

/-- What is left behind zeros and low lines; before a point, the last of these stays. -/
def afterZeros? (before : Char) : List Char → Option (List Char)
  | [] => some [before]
  | c :: rest =>
    if c = '0' || c = '_' then afterZeros? c rest
    else if c = '.' then some (before :: c :: rest)
    else if Decimal.isDigit c || c = '-' then some (c :: rest)
    else none

def withoutZeros? : List Char → Option (List Char)
  | [] => none
  | c :: rest =>
    if c = '0' then afterZeros? c rest
    else if Decimal.isDigit c then some (c :: rest)
    else none

def withoutPlaces (cs : List Char) : List Char :=
  match cs.span (· ≠ '.') with
  | (whole, '.' :: '0' :: places) => if places.all (· = '0') then whole else cs
  | _ => cs

def simplified? (cs : List Char) : Option (List Char) :=
  let (negative, unsigned) := splitSign (withoutMargin cs)
  (withoutZeros? unsigned).map fun cs =>
    let cs := withoutPlaces cs
    let cs := (withoutLowLines? cs).getD cs
    if negative then '-' :: cs else cs

/-- A number is told to be too long only if it is written plainly. -/
def whole (cs : List Char) : Except WholeFault Int :=
  match plainWhole cs, simplified? cs with
  | .error .malformed, some cs => (plainWhole cs).mapError fun _ => .malformed
  | found, _ => found

end Text

end NodeScript
