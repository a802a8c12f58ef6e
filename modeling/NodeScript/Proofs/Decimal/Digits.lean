import Mathlib.Algebra.Order.Ring.Nat
import Mathlib.Data.List.DropRight
import NodeScript.Decimal.Numeral
import NodeScript.Text

namespace NodeScript.Decimal

variable {n : Nat} {ds : List Char}

theorem digitCount_eq_iff (positive : 0 < n) (c : Nat) :
    digitCount n = c + 1 ↔ 10 ^ c ≤ n ∧ n < 10 ^ (c + 1) := by
  have upper : digitCount n ≤ c + 1 ↔ n < 10 ^ (c + 1) :=
    Nat.length_toDigits_le_iff (by decide) (Nat.succ_pos c)
  have lower : digitCount n ≤ c ↔ n < 10 ^ c := by
    rcases Nat.eq_zero_or_pos c with rfl | later
    · have := Nat.length_toDigits_pos (b := 10) (n := n)
      unfold digitCount
      omega
    · exact Nat.length_toDigits_le_iff (by decide) later
  omega

theorem digitCount_mul (positive : 0 < n) (k : Nat) : digitCount (n * 10 ^ k) = digitCount n + k := by
  obtain ⟨c, count⟩ : ∃ c, digitCount n = c + 1 :=
    Nat.exists_eq_succ_of_ne_zero (Nat.length_toDigits_pos (b := 10)).ne'
  obtain ⟨lower, upper⟩ := (digitCount_eq_iff positive c).mp count
  rw [count, Nat.add_right_comm, digitCount_eq_iff (Nat.mul_pos positive (Nat.pow_pos (by decide))),
    Nat.add_right_comm, Nat.pow_add, Nat.pow_add]
  exact ⟨Nat.mul_le_mul_right _ lower, Nat.mul_lt_mul_of_pos_right upper (Nat.pow_pos (by decide))⟩

theorem isDigit_eq (c : Char) : isDigit c = c.isDigit := by
  simp [isDigit, Char.isDigit, Char.le_def]

theorem isDigit_toDigits {n : Nat} : ∀ c ∈ Nat.toDigits 10 n, isDigit c = true := fun c here => by
  rw [isDigit_eq]
  exact Nat.isDigit_of_mem_toDigits (by decide) (by decide) here

theorem letters_natText (n : Nat) :
    (natText n : Text).letters = (Nat.toDigits 10 n).map Letter.char := by
  rw [Text.ofString, natText, String.toList_ofList, Text.ofChars]

theorem digits_behind_lowLine (head : List Letter) (n : Nat) :
    ((head ++ Letter.char '_' :: (Nat.toDigits 10 n).map Letter.char).reverse.takeWhile
      (· ≠ Letter.char '_')).reverse = (Nat.toDigits 10 n).map Letter.char := by
  have digits : ∀ a ∈ ((Nat.toDigits 10 n).map Letter.char).reverse, decide (a ≠ Letter.char '_') = true := by
    intro a here
    obtain ⟨c, member, rfl⟩ := List.mem_map.mp (List.mem_reverse.mp here)
    have digit := isDigit_toDigits c member
    apply decide_eq_true
    rintro same
    cases same
    revert digit
    decide
  rw [List.reverse_append, List.reverse_cons, List.append_assoc, List.takeWhile_append_of_pos digits,
    List.singleton_append, List.takeWhile_cons_of_neg (by decide), List.append_nil, List.reverse_reverse]

theorem digitsValue_eq (cs : List Char) : digitsValue cs = Nat.ofDigitChars 10 cs 0 := rfl

theorem digitsValue_append (cs ds : List Char) :
    digitsValue (cs ++ ds) = digitsValue cs * 10 ^ ds.length + digitsValue ds := by
  rw [digitsValue_eq, digitsValue_eq, digitsValue_eq, Nat.ofDigitChars_append,
    Nat.ofDigitChars_eq_ofDigitChars_zero, Nat.mul_comm]

theorem digitsValue_zeros (k : Nat) : digitsValue (List.replicate k '0') = 0 := by
  rw [digitsValue_eq, Nat.ofDigitChars_replicate_zero, Nat.mul_zero]

theorem digitsValue_toDigits (n : Nat) : digitsValue (Nat.toDigits 10 n) = n := by
  rw [digitsValue_eq, Nat.ofDigitChars_ten_toDigits]

theorem digitsValue_lt (all : ∀ c ∈ ds, isDigit c = true) : digitsValue ds < 10 ^ ds.length := by
  induction ds using List.reverseRecOn with
  | nil => decide
  | append_singleton ds c ih =>
    have before := ih fun d here => all d (List.mem_append_left _ here)
    have last : isDigit c = true := all c (List.mem_append_right _ (List.mem_singleton_self c))
    have small : digitsValue [c] < 10 := by
      have most : c ≤ '9' := by simp_all [isDigit]
      have : c.toNat ≤ 57 := most
      change 10 * 0 + (c.toNat - 48) < 10
      omega
    rw [digitsValue_append, List.length_append, List.length_singleton, Nat.pow_succ]
    omega

theorem head_toDigits {n : Nat} (positive : 0 < n) : (Nat.toDigits 10 n).head? ≠ some '0' := by
  intro zero
  obtain ⟨tail, text⟩ := List.head?_eq_some_iff.mp zero
  have value := digitsValue_toDigits n
  have below : digitsValue tail < 10 ^ tail.length :=
    digitsValue_lt fun c here => isDigit_toDigits (n := n) c (by simp [text, here])
  have least := ((digitCount_eq_iff positive tail.length).mp (by rw [digitCount, text, List.length_cons])).1
  rw [text, ← List.singleton_append, digitsValue_append] at value
  have none : digitsValue ['0'] = 0 := by decide
  rw [none] at value
  omega

theorem trimZeros_spec (ds : List Char) (positive : digitsValue ds ≠ 0) :
    trimZeros ds ≠ [] ∧ ∃ k, ds = trimZeros ds ++ List.replicate k '0' := by
  have zeros : ds.rtakeWhile (· = '0') = List.replicate (ds.rtakeWhile (· = '0')).length '0' :=
    List.eq_replicate_of_mem fun c here => by simpa using List.mem_rtakeWhile_imp here
  have whole := List.rdropWhile_append_rtakeWhile (p := (decide <| · = '0')) (l := ds)
  rw [zeros] at whole
  unfold trimZeros
  split
  · rename_i none
    rw [List.rdropWhile, none, List.nil_append] at whole
    rw [← whole, digitsValue_zeros] at positive
    contradiction
  · rename_i used
    exact ⟨used, _, whole.symm⟩

end NodeScript.Decimal
