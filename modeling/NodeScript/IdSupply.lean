import NodeScript.Decimal.Digits
import NodeScript.Text

/-!
Fresh ids. A supply has a name for every number and counts the ids drawn from it; the next id is the
name of the next number. No two numbers have one name, so two draws of one supply never agree. A
supply that is not told otherwise writes its numbers in digits.
-/
namespace NodeScript

namespace IdSupply

def idText (n : Nat) : Text := "id-" ++ Decimal.natText n

theorem idText_injective (m n : Nat) (same : idText m = idText n) : m = n := by
  have letters := List.append_cancel_left (congrArg Text.letters same)
  have digits : Nat.toDigits 10 m = Nat.toDigits 10 n := by
    simpa [Text.ofString, Text.ofChars, Decimal.natText,
      List.map_inj_right fun _ _ => Letter.char.inj] using letters
  rw [← Nat.ofDigitChars_ten_toDigits (n := m), digits, Nat.ofDigitChars_ten_toDigits]

end IdSupply

structure IdSupply where
  name : Nat → Text := IdSupply.idText
  distinct : ∀ m n, name m = name n → m = n := by exact IdSupply.idText_injective
  drawn : Nat := 0

namespace IdSupply

instance : Inhabited IdSupply := ⟨{}⟩

def draw (ids : IdSupply) : Text × IdSupply :=
  (ids.name (ids.drawn + 1), { ids with drawn := ids.drawn + 1 })

def drawFor {α : Type} (ids : IdSupply) : List α → List (α × Text) × IdSupply
  | [] => ([], ids)
  | a :: as =>
    let (id, ids) := ids.draw
    let (rest, ids) := ids.drawFor as
    ((a, id) :: rest, ids)

end IdSupply

end NodeScript
