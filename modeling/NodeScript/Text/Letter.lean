namespace NodeScript

/-- A character, or a half that stands alone, counted from the first one. -/
inductive Letter where
  | char (c : Char)
  | half (n : Fin 0x800)
  deriving DecidableEq, Repr, Inhabited

instance : Coe Char Letter := ⟨.char⟩

namespace Letter

def firstHalf : Nat := 0xD800

def isHighHalf (n : Nat) : Bool := firstHalf ≤ n && n < 0xDC00

def isLowHalf (n : Nat) : Bool := 0xDC00 ≤ n && n < 0xE000

def joinHalves (high low : Nat) : Nat := 0x10000 + (high - firstHalf) * 0x400 + (low - 0xDC00)

def ofNat (n : Nat) : Letter :=
  if h : firstHalf ≤ n ∧ n - firstHalf < 0x800 then half ⟨n - firstHalf, h.2⟩ else char (Char.ofNat n)

def toNat : Letter → Nat
  | char c => c.toNat
  | half n => firstHalf + n

def isChar : Letter → Bool
  | char _ => true
  | half _ => false

def char? : Letter → Option Char
  | char c => some c
  | half _ => none

def is (kind : Char → Bool) : Letter → Bool
  | char c => kind c
  | half _ => false

end Letter

end NodeScript
