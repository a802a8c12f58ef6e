import NodeScript.Json.Printer
import NodeScript.Proofs.Json.Numbers

namespace NodeScript

namespace Letter

theorem isHighHalf_iff (n : Nat) : isHighHalf n = true ↔ 0xD800 ≤ n ∧ n < 0xDC00 := by
  rw [isHighHalf, firstHalf, Bool.and_eq_true, decide_eq_true_iff, decide_eq_true_iff]

theorem isLowHalf_iff (n : Nat) : isLowHalf n = true ↔ 0xDC00 ≤ n ∧ n < 0xE000 := by
  rw [isLowHalf, Bool.and_eq_true, decide_eq_true_iff, decide_eq_true_iff]

theorem toNat_half (n : Fin 0x800) : (half n).toNat = 0xD800 + n.val := rfl

theorem ofNat_char (c : Char) : ofNat c.toNat = char c := by
  have valid : c.toNat < 0xD800 ∨ 0xDFFF < c.toNat ∧ c.toNat < 0x110000 := c.valid
  unfold ofNat firstHalf
  rw [dif_neg (by omega), Char.ofNat_toNat]

theorem ofNat_half (n : Fin 0x800) : ofNat (half n).toNat = half n := by
  have bounded := n.isLt
  have inside : firstHalf ≤ (half n).toNat ∧ (half n).toNat - firstHalf < 0x800 := by
    rw [toNat_half, firstHalf]
    omega
  have back : (half n).toNat - firstHalf = n := by
    rw [toNat_half, firstHalf, Nat.add_sub_cancel_left]
  rw [ofNat, dif_pos inside]
  exact congrArg half (Fin.ext back)

def paired? : Letter → Letter → Option Letter
  | half high, half low =>
    if high.val < 0x400 ∧ 0x400 ≤ low.val then
      some (ofNat (joinHalves (half high).toNat (half low).toNat))
    else none
  | _, _ => none

/-- The letters with the halves that stand together joined. -/
def joined : List Letter → List Letter
  | a :: b :: rest =>
    match paired? a b with
    | some c => c :: joined rest
    | none => a :: joined (b :: rest)
  | rest => rest

end Letter

def Text.joined (text : Text) : Text := ⟨Letter.joined text.letters⟩

namespace Json

theorem hexValue?_hexDigit (n : Nat) : hexValue? (hexDigit n) = some (n % 16) := by
  have all : ∀ d < 16, hexValue? (Nat.digitChar d) = some d := by decide
  exact all _ (Nat.mod_lt n (by decide))

variable {rest after : List Letter} {n : Nat}

def unitDigits (n : Nat) : List Letter :=
  letters [hexDigit (n / 4096), hexDigit (n / 256), hexDigit (n / 16), hexDigit n]

theorem letters_unit (n : Nat) : letters (unit n) = .char '\\' :: .char 'u' :: unitDigits n := rfl

theorem unit?_unitDigits (small : n < 0x10000) (more : after ≠ []) :
    unit? (unitDigits n ++ after) = some (n, after) := by
  obtain ⟨a, rest, rfl⟩ := List.exists_cons_of_ne_nil more
  have value : 4096 * (n / 4096 % 16) + 256 * (n / 256 % 16) + 16 * (n / 16 % 16) + n % 16 = n := by omega
  simp [unitDigits, unit?, hexValue?_hexDigit, value]

/-- Text that does not start with the escape of a low half. -/
def Apart (after : List Letter) : Prop :=
  (∀ more, after ≠ .char '\\' :: .char 'u' :: more) ∨
    ∃ m more, after = .char '\\' :: .char 'u' :: (unitDigits m ++ more) ∧ m < 0x10000 ∧
      Letter.isLowHalf m = false ∧ more ≠ []

theorem length_unitDigits (n : Nat) (more : after ≠ []) : 4 < (unitDigits n ++ after).length := by
  have := List.length_pos_iff.mpr more
  simp [unitDigits, this]

theorem escapedUnit_apart (small : n < 0x10000) (more : after ≠ [])
    (apart : Letter.isHighHalf n = true → Apart after) :
    escapedUnit (unitDigits n ++ after) = .ok (Letter.ofNat n, after) := by
  unfold escapedUnit
  rw [unit?_unitDigits small more]
  dsimp only
  split
  · rename_i next
    split
    · rename_i both
      obtain ⟨high, -⟩ := Bool.and_eq_true_iff.mp both
      rcases apart high with other | ⟨m, later, same, fit, low, used⟩
      · exact absurd rfl (other next)
      · obtain rfl : next = unitDigits m ++ later := by simpa using same
        rw [unit?_unitDigits fit used]
        simp [low]
    · rfl
  · rfl

theorem escapedUnit_pair {m : Nat} (small : n < 0x10000) (high : Letter.isHighHalf n = true) (fit : m < 0x10000)
    (low : Letter.isLowHalf m = true) (more : after ≠ []) :
    escapedUnit (unitDigits n ++ .char '\\' :: .char 'u' :: (unitDigits m ++ after)) =
      .ok (Letter.ofNat (Letter.joinHalves n m), after) := by
  have long := length_unitDigits m more
  unfold escapedUnit
  rw [unit?_unitDigits small (List.cons_ne_nil _ _)]
  simp only [high, long, unit?_unitDigits fit more, low]
  rfl

def before (a : Letter) (read : Reading (List Letter × List Letter)) : Reading (List Letter × List Letter) :=
  read.map fun found => (a :: found.1, found.2)

section

variable {start : List Letter} {fuel : Nat}

theorem stringBody_plain {c : Char} (quote : c ≠ '"') (slash : c ≠ '\\') (shown : 0x20 ≤ c.toNat) :
    stringBody start (fuel + 1) (.char c :: after) = before c (stringBody start fuel after) := by
  have above : ¬(Letter.char c).toNat < 0x20 := Nat.not_lt.mpr shown
  rw [stringBody.eq_def]
  dsimp only
  rw [if_neg (by simpa using quote), if_neg (by simpa using slash), if_neg above]
  cases stringBody start fuel after <;> rfl

theorem stringBody_escape {e d : Char} (other : e ≠ 'u') (escape : simpleEscape? e = some d) :
    stringBody start (fuel + 1) (.char '\\' :: .char e :: after) = before d (stringBody start fuel after) := by
  rw [stringBody, if_neg (by decide), if_pos rfl]
  dsimp only
  rw [if_neg (by simpa using other)]
  simp only [Letter.char?, Option.bind_some, escape]
  cases stringBody start fuel after <;> rfl

theorem stringBody_unit {a : Letter} {cs : List Letter} (read : escapedUnit cs = .ok (a, after)) :
    stringBody start (fuel + 1) (.char '\\' :: .char 'u' :: cs) = before a (stringBody start fuel after) := by
  rw [stringBody, if_neg (by decide), if_pos rfl]
  dsimp only
  rw [if_pos rfl, read]
  change (stringBody start fuel after >>= fun found => pure (a :: found.1, found.2)) = _
  cases stringBody start fuel after <;> rfl

end

def body (ls : List Letter) (rest : List Letter) : List Letter :=
  letters (ls.flatMap (escaped isPlainAscii)) ++ .char '"' :: rest

theorem body_cons (a : Letter) (ls : List Letter) :
    body (a :: ls) rest = letters (escaped isPlainAscii a) ++ body ls rest := by
  simp [body]

theorem body_ne_nil (ls : List Letter) : body ls rest ≠ [] := by
  simp [body]

theorem body_nil : body [] rest = .char '"' :: rest := rfl

/-- How a character is written: by itself, behind a backslash, or by one or two units. -/
inductive Shown (c : Char) : List Char → Prop
  | plain (quote : c ≠ '"') (slash : c ≠ '\\') (shown : 0x20 ≤ c.toNat) : Shown c [c]
  | escape (e : Char) (other : e ≠ 'u') (escape : simpleEscape? e = some c) : Shown c ['\\', e]
  | unit (small : c.toNat < 0x10000) (high : Letter.isHighHalf c.toNat = false)
      (low : Letter.isLowHalf c.toNat = false) : Shown c (unit c.toNat)
  | units (first second : Nat) (high : Letter.isHighHalf first = true) (low : Letter.isLowHalf second = true)
      (same : Letter.joinHalves first second = c.toNat) : Shown c (Json.unit first ++ Json.unit second)

theorem shown_units (c : Char) : Shown c (units c.toNat) := by
  have valid : c.toNat < 0xD800 ∨ 0xDFFF < c.toNat ∧ c.toNat < 0x110000 := c.valid
  unfold units
  split
  · refine .unit ‹_› ?_ ?_
    · rw [← Bool.not_eq_true, Letter.isHighHalf_iff]
      omega
    · rw [← Bool.not_eq_true, Letter.isLowHalf_iff]
      omega
  · refine .units _ _ ?_ ?_ ?_
    · rw [Letter.isHighHalf_iff]
      omega
    · rw [Letter.isLowHalf_iff]
      omega
    · unfold Letter.joinHalves Letter.firstHalf
      omega

theorem shown (c : Char) : Shown c (escapedChar isPlainAscii c) := by
  unfold escapedChar
  split
  · subst_vars
    exact .escape '"' (by decide) rfl
  split
  · subst_vars
    exact .escape '\\' (by decide) rfl
  split
  · subst_vars
    exact .escape 'n' (by decide) rfl
  split
  · subst_vars
    exact .escape 'r' (by decide) rfl
  split
  · subst_vars
    exact .escape 't' (by decide) rfl
  split
  · subst_vars
    exact .escape 'b' (by decide) rfl
  split
  · subst_vars
    exact .escape 'f' (by decide) rfl
  split
  · rename_i bare
    exact .plain ‹_› ‹_› (by simp [isPlainAscii] at bare; exact bare.1)
  · exact shown_units c

theorem escaped_half (n : Fin 0x800) : escaped isPlainAscii (.half n) = unit (Letter.half n).toNat := by
  have bounded := n.isLt
  rw [escaped, units, if_pos]
  rw [Letter.toNat_half]
  omega

theorem apart_unit (small : n < 0x10000) (low : Letter.isLowHalf n = false) (more : after ≠ []) :
    Apart (letters (unit n) ++ after) :=
  .inr ⟨n, after, rfl, small, low, more⟩

theorem apart_body (ls : List Letter) (head : ∀ n, ls.head? = some (.half n) → n.val < 0x400) :
    Apart (body ls rest) := by
  cases ls with
  | nil => exact .inl (by simp [body_nil])
  | cons a ls =>
    rw [body_cons]
    cases a with
    | half n =>
      have high := head n rfl
      rw [escaped_half]
      refine apart_unit ?_ ?_ (body_ne_nil ls)
      · rw [Letter.toNat_half]
        omega
      · rw [← Bool.not_eq_true, Letter.isLowHalf_iff, Letter.toNat_half]
        omega
    | char c =>
      have written := shown c
      rw [escaped]
      generalize escapedChar isPlainAscii c = text at written
      cases written with
      | plain quote slash => exact .inl (by simp [slash])
      | escape e other => exact .inl (by simp [other])
      | unit small high low => exact apart_unit small low (body_ne_nil ls)
      | units first second high =>
        rw [letters_append, List.append_assoc]
        rw [Letter.isHighHalf_iff] at high
        refine apart_unit (by omega) ?_ (by simp [letters_unit])
        rw [← Bool.not_eq_true, Letter.isLowHalf_iff]
        omega

section

variable {start : List Letter} {fuel : Nat}

theorem stringBody_letter (a : Letter) (ls : List Letter)
    (apart : ∀ b, ls.head? = some b → Letter.paired? a b = none) :
    stringBody start (fuel + 1) (body (a :: ls) rest) = before a (stringBody start fuel (body ls rest)) := by
  rw [body_cons]
  cases a with
  | half n =>
    have bounded := n.isLt
    have read : escapedUnit (unitDigits (Letter.half n).toNat ++ body ls rest) = .ok (.half n, body ls rest) := by
      refine (escapedUnit_apart ?_ (body_ne_nil ls) fun high => apart_body ls fun m head => ?_).trans
        (by rw [Letter.ofNat_half])
      · rw [Letter.toNat_half]
        omega
      · have alone := apart (.half m) head
        rw [Letter.isHighHalf_iff, Letter.toNat_half] at high
        simp [Letter.paired?] at alone
        omega
    rw [escaped_half]
    exact stringBody_unit read
  | char c =>
    have written := shown c
    rw [escaped]
    generalize escapedChar isPlainAscii c = text at written
    cases written with
    | plain quote slash shown => exact stringBody_plain quote slash shown
    | escape e other escape => exact stringBody_escape other escape
    | unit small high low =>
      have read : escapedUnit (unitDigits c.toNat ++ body ls rest) = .ok (.char c, body ls rest) := by
        rw [← Letter.ofNat_char c]
        exact escapedUnit_apart small (body_ne_nil ls) fun here => by simp [high] at here
      exact stringBody_unit read
    | units first second high low same =>
      have small := (Letter.isHighHalf_iff first).mp high
      have fit := (Letter.isLowHalf_iff second).mp low
      have more : body ls rest ≠ [] := body_ne_nil ls
      have read := escapedUnit_pair (by omega) high (by omega) low more
      rw [same, Letter.ofNat_char] at read
      rw [letters_append, List.append_assoc]
      exact stringBody_unit read

theorem stringBody_pair {a b c : Letter} (ls : List Letter) (pair : Letter.paired? a b = some c) :
    stringBody start (fuel + 1) (body (a :: b :: ls) rest) =
      before c (stringBody start fuel (body ls rest)) := by
  cases a with
  | char => contradiction
  | half first =>
    cases b with
    | char => contradiction
    | half second =>
      have inside := first.isLt
      have bounded := second.isLt
      simp only [Letter.paired?, Option.ite_none_right_eq_some, Option.some.injEq] at pair
      obtain ⟨⟨high, low⟩, rfl⟩ := pair
      rw [body_cons, body_cons, escaped_half, escaped_half]
      refine stringBody_unit (escapedUnit_pair ?_ ?_ ?_ ?_ (body_ne_nil ls))
      · rw [Letter.toNat_half]
        omega
      · rw [Letter.isHighHalf_iff, Letter.toNat_half]
        omega
      · rw [Letter.toNat_half]
        omega
      · rw [Letter.isLowHalf_iff, Letter.toNat_half]
        omega

/-- The letters of a written text are read as what they are joined. -/
theorem stringBody_body (ls : List Letter) (enough : ls.length < fuel) :
    stringBody start fuel (body ls rest) = .ok (Letter.joined ls, rest) := by
  induction ls using Letter.joined.induct generalizing fuel with
  | case1 a b ls c pair ih =>
    obtain ⟨fuel, rfl⟩ := Nat.exists_eq_succ_of_ne_zero (Nat.ne_zero_of_lt enough)
    rw [stringBody_pair ls pair, ih (by simp at enough; omega), Letter.joined, pair]
    rfl
  | case2 a b ls alone ih =>
    obtain ⟨fuel, rfl⟩ := Nat.exists_eq_succ_of_ne_zero (Nat.ne_zero_of_lt enough)
    rw [stringBody_letter a (b :: ls) (by simpa using alone), ih (by simp at enough ⊢; omega), Letter.joined, alone]
    rfl
  | case3 ls short =>
    obtain ⟨fuel, rfl⟩ := Nat.exists_eq_succ_of_ne_zero (Nat.ne_zero_of_lt enough)
    rcases ls with _ | ⟨a, _ | ⟨b, ls⟩⟩
    · rfl
    · obtain ⟨fuel, rfl⟩ := Nat.exists_eq_succ_of_ne_zero (Nat.ne_zero_of_lt (Nat.lt_of_succ_lt_succ enough))
      rw [stringBody_letter a [] (by simp)]
      rfl
    · exact absurd rfl (short a b ls)

end

theorem length_escaped (a : Letter) : 0 < (escaped isPlainAscii a).length := by
  cases a with
  | half n => simp [escaped_half, unit]
  | char c =>
    have written := shown c
    rw [escaped]
    generalize escapedChar isPlainAscii c = text at written
    cases written <;> simp [unit]

theorem length_body (ls : List Letter) : ls.length < (body ls rest).length := by
  induction ls with
  | nil => simp [body_nil]
  | cons a ls ih =>
    have some := length_escaped a
    rw [body_cons, List.length_append, letters, List.length_map, List.length_cons]
    omega

theorem stringAfterQuote_body (text : Text) :
    stringAfterQuote (body text.letters rest) = .ok (text.joined, rest) := by
  rw [stringAfterQuote, stringBody_body text.letters (Nat.lt_succ_of_lt (length_body text.letters))]
  rfl

theorem letters_quote (text : Text) (rest : List Letter) :
    letters (quote isPlainAscii text) ++ rest = .char '"' :: body text.letters rest := by
  simp [quote, body]

end Json

end NodeScript
