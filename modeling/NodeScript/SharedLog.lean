namespace NodeScript

structure SharedLog where
  made : Nat := 0
  current : Option Nat := none
  deriving DecidableEq, Repr, Inhabited

namespace SharedLog

def get (s : SharedLog) : Nat × SharedLog :=
  match s.current with
  | some number => (number, s)
  | none => (s.made + 1, ⟨s.made + 1, some (s.made + 1)⟩)

def reset (s : SharedLog) : SharedLog := { s with current := none }

end SharedLog

end NodeScript
