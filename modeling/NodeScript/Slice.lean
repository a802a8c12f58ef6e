namespace NodeScript

section

variable {α : Type}

/-- The first `n` items, or all but the last `-n`. -/
def upTo (n : Int) (items : List α) : List α :=
  if 0 ≤ n then items.take n.toNat else items.take (items.length - (-n).toNat)

/-- The last `n` items, all of them for zero, or all but the first `-n`. -/
def latest (n : Int) (items : List α) : List α :=
  if 0 < n then items.drop (items.length - n.toNat) else items.drop (-n).toNat

theorem upTo_sublist (n : Int) (items : List α) : (upTo n items).Sublist items := by
  unfold upTo
  split <;> exact List.take_sublist ..

theorem upTo_natCast (n : Nat) (items : List α) : upTo n items = items.take n := by
  simp [upTo]

end

end NodeScript
