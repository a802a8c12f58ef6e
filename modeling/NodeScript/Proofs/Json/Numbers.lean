import NodeScript.Json.Printer
import NodeScript.Proofs.Decimal.Shortest

namespace NodeScript.Json

open Decimal

def letters (cs : List Char) : List Letter := cs.map .char

@[simp] theorem letters_nil : letters [] = [] := rfl

@[simp] theorem letters_cons (c : Char) (cs : List Char) : letters (c :: cs) = .char c :: letters cs := rfl

@[simp] theorem letters_append (cs ds : List Char) : letters (cs ++ ds) = letters cs ++ letters ds :=
  List.map_append

def goesOn (c : Char) : Bool := isDigit c || c = '.' || c = 'e' || c = 'E'

def Stops (kind : Char → Bool) (rest : List Letter) : Prop := ∀ a ∈ rest.head?, a.is kind = false

variable {rest : List Letter} {ds : List Char}

theorem stops_nil {kind : Char → Bool} : Stops kind [] := nofun

theorem Stops.mono {kind wider : Char → Bool} (stops : Stops wider rest)
    (within : ∀ c, kind c = true → wider c = true) : Stops kind rest := by
  intro a first
  have other := stops a first
  cases a with
  | half => rfl
  | char c => exact Bool.eq_false_iff.mpr fun here => Bool.false_ne_true (other.symm.trans (within c here))

theorem Stops.digit (stops : Stops goesOn rest) : Stops isDigit rest :=
  stops.mono fun c digit => by simp [goesOn, digit]

theorem digits_append (all : ∀ c ∈ ds, isDigit c = true) (stops : Stops isDigit rest) :
    digits (letters ds ++ rest) = (ds, rest) := by
  induction ds with
  | nil =>
    cases rest with
    | nil => rfl
    | cons a more =>
      have other := stops a rfl
      cases a with
      | half => rfl
      | char c => exact if_neg (by simpa [Letter.is] using other)
  | cons d ds ih =>
    have first := all d List.mem_cons_self
    have more := ih fun c here => all c (List.mem_cons_of_mem d here)
    rw [letters_cons, List.cons_append, digits, if_pos first, more]

theorem wholePart_append (all : ∀ c ∈ ds, isDigit c = true) (used : ds ≠ [])
    (lead : ds.head? = some '0' → ds = ['0']) (stops : Stops isDigit rest) :
    wholePart (letters ds ++ rest) = some (ds, rest) := by
  cases ds with
  | nil => exact absurd rfl used
  | cons d more =>
    by_cases zero : d = '0'
    · obtain ⟨rfl, rfl⟩ := List.cons.inj (lead (congrArg Option.some zero))
      rfl
    · have read := digits_append all stops
      rw [letters_cons, List.cons_append] at read ⊢
      unfold wholePart
      split
      · rename_i same
        exact absurd (Letter.char.inj (List.cons.inj same).1) zero
      · rw [read]

theorem fraction_append (all : ∀ c ∈ ds, isDigit c = true) (used : ds ≠ []) (stops : Stops isDigit rest) :
    fraction (letters ('.' :: ds) ++ rest) = (ds, rest) := by
  cases ds with
  | nil => exact absurd rfl used
  | cons d more =>
    rw [letters_cons, List.cons_append, fraction, digits_append all stops]

theorem fraction_none (stops : Stops (· = '.') rest) : fraction rest = ([], rest) := by
  unfold fraction
  split
  · have := stops _ rfl
    simp [Letter.is] at this
  · rfl

theorem exponent_none (stops : Stops (fun c => c = 'e' || c = 'E') rest) : exponent rest = (none, rest) := by
  cases rest with
  | nil => rfl
  | cons a more =>
    have other := stops a rfl
    cases a with
    | half => rfl
    | char c =>
      refine if_neg ?_
      simpa [Letter.is] using other

theorem Stops.power (stops : Stops goesOn rest) : exponent rest = (none, rest) := by
  refine exponent_none (stops.mono fun c mark => ?_)
  simp only [goesOn, Bool.or_assoc] at mark ⊢
  simp [mark]

theorem signedExponent_toList (e : Int) : ∃ ds, (∀ c ∈ ds, isDigit c = true) ∧ ds ≠ [] ∧
    digitsValue ds = e.natAbs ∧ (signedExponent e).toList = 'e' :: (if e < 0 then '-' else '+') :: ds := by
  have all : ∀ c ∈ Nat.toDigits 10 e.natAbs, isDigit c = true := isDigit_toDigits
  by_cases short : (Nat.toDigits 10 e.natAbs).length < 2
  · refine ⟨'0' :: Nat.toDigits 10 e.natAbs, ?_, List.cons_ne_nil _ _, ?_, ?_⟩
    · simpa [isDigit] using all
    · rw [← List.singleton_append, digitsValue_append, digitsValue_toDigits]
      simp [digitsValue]
    · simp only [signedExponent, natText, String.length_ofList, if_pos short]
      split <;> simp
  · refine ⟨Nat.toDigits 10 e.natAbs, all, Nat.toDigits_ne_nil, digitsValue_toDigits _, ?_⟩
    simp only [signedExponent, natText, String.length_ofList, if_neg short]
    split <;> simp

theorem exponent_append (e : Int) (stops : Stops isDigit rest) :
    exponent (letters (signedExponent e).toList ++ rest) = (some e, rest) := by
  obtain ⟨ds, all, used, value, text⟩ := signedExponent_toList e
  have read := digits_append all stops
  cases ds with
  | nil => exact absurd rfl used
  | cons d more =>
    rw [letters_cons, List.cons_append] at read
    rw [text]
    split
    · rename_i negative
      simp [exponent, exponentDigits, read, value, abs_of_neg negative]
    · rename_i other
      simp [exponent, exponentDigits, read, value, abs_of_nonneg (not_lt.mp other)]

/-- The text starts with a numeral, and the rest comes after it. -/
def Spells (cs : List Letter) (d : Decimal) (rest : List Letter) : Prop :=
  ∀ negative start, unsignedNumber negative start cs = .ok (float (signed negative d.toFloat), rest)

theorem spells_of_parts {cs afterWhole afterPlaces : List Letter} {whole places : List Char}
    {power : Option Int} (first : wholePart cs = some (whole, afterWhole))
    (next : fraction afterWhole = (places, afterPlaces)) (last : exponent afterPlaces = (power, rest))
    (floating : places ≠ [] ∨ power ≠ none) :
    Spells cs ⟨digitsValue (whole ++ places), power.getD 0 - places.length⟩ rest := by
  intro negative start
  have kind : (places.isEmpty && power.isNone) = false := by
    cases places <;> cases power <;> simp at floating ⊢
  simp only [unsignedNumber, first, next, last]
  rw [if_neg (by simp [kind])]
  rfl

theorem stops_cons {kind : Char → Bool} (c : Char) (other : kind c = false) (rest : List Letter) :
    Stops kind (.char c :: rest) := by
  rintro a ⟨⟩
  exact other

theorem spells_exponential (point : Int) (all : ∀ c ∈ ds, isDigit c = true) (used : ds ≠ [])
    (stops : Stops goesOn rest) :
    Spells (letters (ds.take 1 ++ (if (ds.drop 1).isEmpty then [] else '.' :: ds.drop 1)) ++
      (letters (signedExponent (point - 1)).toList ++ rest)) ⟨digitsValue ds, point - ds.length⟩ rest := by
  obtain ⟨d, tail, rfl⟩ := List.exists_cons_of_ne_nil used
  obtain ⟨es, -, -, -, text⟩ := signedExponent_toList (point - 1)
  have power := exponent_append (point - 1) stops.digit
  generalize after : letters (signedExponent (point - 1)).toList ++ rest = exponential at power
  have mark : ∃ more, exponential = .char 'e' :: more := by
    rw [← after, text]
    exact ⟨_, rfl⟩
  obtain ⟨more, rfl⟩ := mark
  have digit : ∀ c ∈ [d], isDigit c = true := fun c here => all c (by simp_all)
  cases tail with
  | nil =>
    have first := wholePart_append digit (List.cons_ne_nil d []) (by simp) (stops_cons 'e' (by decide) more)
    have next : fraction (.char 'e' :: more) = ([], .char 'e' :: more) := rfl
    have spelled := spells_of_parts first next power (.inr nofun)
    simpa using spelled
  | cons e es =>
    have first := wholePart_append digit (List.cons_ne_nil d []) (by simp)
      (stops_cons '.' (by decide) (letters (e :: es) ++ .char 'e' :: more))
    have next := fraction_append (fun c here => all c (List.mem_cons_of_mem d here)) (List.cons_ne_nil e es)
      (stops_cons 'e' (by decide) more)
    have spelled := spells_of_parts first next power (.inr nofun)
    have places : point - 1 - ((e :: es).length : Int) = point - ((d :: e :: es).length : Int) := by
      simp only [List.length_cons]
      omega
    rw [Option.getD_some, places] at spelled
    exact spelled

theorem spells_places (point : Int) (all : ∀ c ∈ ds, isDigit c = true) (used : ds ≠ []) (low : point ≤ 0)
    (stops : Stops goesOn rest) :
    Spells (letters ('0' :: '.' :: (List.replicate (-point).toNat '0' ++ ds)) ++ rest)
      ⟨digitsValue ds, point - ds.length⟩ rest := by
  have digit : ∀ c ∈ List.replicate (-point).toNat '0' ++ ds, isDigit c = true := by
    intro c here
    rcases List.mem_append.mp here with zero | later
    · rw [(List.mem_replicate.mp zero).2]
      decide
    · exact all c later
  have first : wholePart (letters ('0' :: '.' :: (List.replicate (-point).toNat '0' ++ ds)) ++ rest) =
      some (['0'], letters ('.' :: (List.replicate (-point).toNat '0' ++ ds)) ++ rest) := rfl
  have next := fraction_append digit (List.append_ne_nil_of_right_ne_nil _ used) stops.digit
  have spelled := spells_of_parts first next stops.power (.inl (List.append_ne_nil_of_right_ne_nil _ used))
  have value : digitsValue (['0'] ++ (List.replicate (-point).toNat '0' ++ ds)) = digitsValue ds := by
    rw [← List.append_assoc, digitsValue_append, ← List.replicate_one, List.replicate_append_replicate,
      digitsValue_zeros, Nat.zero_mul, Nat.zero_add]
  have places : (none : Option Int).getD 0 - ((List.replicate (-point).toNat '0' ++ ds).length : Int) =
      point - ds.length := by
    rw [List.length_append, List.length_replicate, Option.getD_none]
    omega
  rwa [value, places] at spelled

theorem spells_whole (point : Int) (all : ∀ c ∈ ds, isDigit c = true) (used : ds ≠ [])
    (lead : ds.head? = some '0' → ds = ['0'] ∧ point = 1) (high : ds.length ≤ point)
    (stops : Stops goesOn rest) :
    Spells (letters (ds ++ List.replicate (point - ds.length).toNat '0') ++ (letters ['.', '0'] ++ rest))
      ⟨digitsValue ds, point - ds.length⟩ rest := by
  have digit : ∀ c ∈ ds ++ List.replicate (point - ds.length).toNat '0', isDigit c = true := by
    intro c here
    rcases List.mem_append.mp here with first | zero
    · exact all c first
    · rw [(List.mem_replicate.mp zero).2]
      decide
  have head : (ds ++ List.replicate (point - ds.length).toNat '0').head? = some '0' →
      ds ++ List.replicate (point - ds.length).toNat '0' = ['0'] := by
    intro zero
    rw [List.head?_append_of_ne_nil _ used] at zero
    obtain ⟨rfl, rfl⟩ := lead zero
    rfl
  have first := wholePart_append digit (List.append_ne_nil_of_left_ne_nil used _) head
    (stops_cons '.' (by decide) (letters ['0'] ++ rest))
  have next : fraction (letters ['.', '0'] ++ rest) = (['0'], rest) :=
    fraction_append (List.forall_mem_singleton.mpr (by decide)) (List.cons_ne_nil _ _) stops.digit
  have spelled := spells_of_parts first next stops.power (.inl (List.cons_ne_nil _ _))
  have value : digitsValue (ds ++ List.replicate (point - ds.length).toNat '0' ++ ['0']) =
      digitsValue ds * 10 ^ ((point - ds.length).toNat + 1) := by
    rw [List.append_assoc, ← List.replicate_succ', digitsValue_append, digitsValue_zeros, List.length_replicate,
      Nat.add_zero]
  have places : (none : Option Int).getD 0 - ((['0'] : List Char).length : Int) +
      ((point - ds.length).toNat + 1 : Nat) = point - ds.length := by
    rw [Option.getD_none, List.length_singleton]
    omega
  unfold Spells at spelled
  rw [value, toFloat_zeros, places] at spelled
  exact spelled

theorem spells_parted (point : Int) (all : ∀ c ∈ ds, isDigit c = true)
    (lead : ds.head? = some '0' → ds = ['0']) (low : 0 < point) (high : point < ds.length)
    (stops : Stops goesOn rest) :
    Spells (letters (ds.take point.toNat) ++ (letters ('.' :: ds.drop point.toNat) ++ rest))
      ⟨digitsValue ds, point - ds.length⟩ rest := by
  have front : ds.take point.toNat ≠ [] := by
    rw [Ne, List.take_eq_nil_iff]
    rintro (zero | rfl)
    · omega
    · simp at high
      omega
  have back : ds.drop point.toNat ≠ [] := by
    rw [Ne, List.drop_eq_nil_iff]
    omega
  have head : (ds.take point.toNat).head? = some '0' → ds.take point.toNat = ['0'] := by
    intro zero
    rw [List.head?_take, if_neg (by omega)] at zero
    rw [lead zero] at high
    simp at high
    omega
  have first := wholePart_append (fun c here => all c (List.mem_of_mem_take here)) front head
    (stops_cons '.' (by decide) (letters (ds.drop point.toNat) ++ rest))
  have next := fraction_append (fun c here => all c (List.mem_of_mem_drop here)) back stops.digit
  have spelled := spells_of_parts first next stops.power (.inl back)
  have places : (none : Option Int).getD 0 - ((ds.drop point.toNat).length : Int) = point - ds.length := by
    rw [Option.getD_none, List.length_drop]
    omega
  rwa [List.take_append_drop, places] at spelled

theorem spells_layout (point : Int) (all : ∀ c ∈ ds, isDigit c = true) (used : ds ≠ [])
    (lead : ds.head? = some '0' → ds = ['0'] ∧ point = 1) (stops : Stops goesOn rest) :
    Spells (letters (layout ds point).toList ++ rest) ⟨digitsValue ds, point - ds.length⟩ rest := by
  unfold layout
  split
  · have spelled := spells_exponential point all used stops
    simpa using spelled
  · split
    · rename_i low
      have spelled := spells_places point all used low stops
      simpa using spelled
    · dsimp only
      split
      · rename_i high
        have spelled := spells_whole point all used lead high stops
        simpa using spelled
      · have spelled := spells_parted point all (fun zero => (lead zero).1) (by omega) (by omega) stops
        simpa using spelled

/-- Every numeral spells a number of its own value. -/
theorem spells_text (d : Decimal) (stops : Stops goesOn rest) : ∃ written : Decimal,
    written.toFloat = d.toFloat ∧ Spells (letters d.text.toList ++ rest) written rest := by
  have shape : d.text = layout (trimZeros (Nat.toDigits 10 d.digits))
    (if d.digits = 0 then 1 else (Nat.toDigits 10 d.digits).length + d.exponent) := rfl
  rw [shape]
  by_cases zero : d.digits = 0
  · have single : trimZeros (Nat.toDigits 10 0) = ['0'] := by decide
    refine ⟨⟨0, 0⟩, ?_, ?_⟩
    · rw [toFloat_eq, toFloat_eq, if_pos (.inl rfl), if_pos (.inl zero)]
    · rw [if_pos zero, zero, single]
      exact spells_layout 1 (List.forall_mem_singleton.mpr (by decide)) (List.cons_ne_nil _ _) (fun _ => ⟨rfl, rfl⟩) stops
  · have positive := Nat.pos_of_ne_zero zero
    have value := digitsValue_toDigits d.digits
    obtain ⟨used, k, whole⟩ := trimZeros_spec (Nat.toDigits 10 d.digits) (by rwa [value])
    have head := head_toDigits positive
    generalize trimZeros (Nat.toDigits 10 d.digits) = kept at used whole
    have all : ∀ c ∈ kept, isDigit c = true := fun c here =>
      isDigit_toDigits (n := d.digits) c (by rw [whole]; exact List.mem_append_left _ here)
    have lead : kept.head? ≠ some '0' := by rwa [whole, List.head?_append_of_ne_nil _ used] at head
    have digits : d.digits = digitsValue kept * 10 ^ k := by
      rw [← value, whole, digitsValue_append, digitsValue_zeros, List.length_replicate, Nat.add_zero]
    have power : ((Nat.toDigits 10 d.digits).length : Int) + d.exponent - kept.length = d.exponent + k := by
      rw [whole, List.length_append, List.length_replicate, Nat.cast_add]
      omega
    refine ⟨⟨digitsValue kept, (Nat.toDigits 10 d.digits).length + d.exponent - kept.length⟩, ?_, ?_⟩
    · rw [power, ← toFloat_zeros, ← digits]
    · rw [if_neg zero]
      exact spells_layout _ all used (fun zero => absurd zero lead) stops

/-- A value that is neither a text nor a list or an object. -/
def scalar (cs : List Letter) : Reading (Json × List Letter) :=
  match constant? cs with
  | some found => .ok found
  | none => number cs

theorem constant?_digit {c : Char} (digit : isDigit c = true) : constant? (.char c :: rest) = none := by
  have other (d : Char) (mark : isDigit d = false) : d ≠ c := fun same => by simp_all
  simp [constant?, constants, Text.after?, Text.ofString, Text.ofChars, other, isDigit]

theorem constant?_minus {c : Char} (digit : isDigit c = true) : constant? (.char '-' :: .char c :: rest) = none := by
  have other (d : Char) (mark : isDigit d = false) : d ≠ c := fun same => by simp_all
  simp [constant?, constants, Text.after?, Text.ofString, Text.ofChars, other, isDigit]

theorem digit_of_wholePart {cs : List Letter} {found : List Char × List Letter}
    (read : wholePart cs = some found) : ∃ c more, cs = .char c :: more ∧ isDigit c = true := by
  rcases cs with _ | ⟨c | half, more⟩
  · contradiction
  · by_cases digit : isDigit c = true
    · exact ⟨c, more, rfl, digit⟩
    · have none : digits (.char c :: more) = ([], .char c :: more) := if_neg digit
      unfold wholePart at read
      split at read
      · rename_i same
        exact absurd (Letter.char.inj (List.cons.inj same).1 ▸ (by decide)) digit
      · rw [none] at read
        contradiction
  · contradiction

theorem digit_of_unsignedNumber {cs : List Letter} {found : Json × List Letter}
    (read : unsignedNumber negative start cs = .ok found) :
    ∃ c more, cs = .char c :: more ∧ isDigit c = true := by
  unfold unsignedNumber at read
  split at read
  · exact digit_of_wholePart ‹_›
  · contradiction

theorem scalar_unsigned {cs : List Letter} {found : Json × List Letter}
    (read : ∀ start, unsignedNumber false start cs = .ok found) : scalar cs = .ok found := by
  obtain ⟨c, more, rfl, digit⟩ := digit_of_unsignedNumber (read [])
  have sign : c ≠ '-' := fun same => by simp [same, isDigit] at digit
  have number : number (.char c :: more) = unsignedNumber false (.char c :: more) (.char c :: more) := by
    unfold number
    split
    · rename_i same
      exact absurd (Letter.char.inj (List.cons.inj same).1) sign
    · rfl
  rw [scalar, constant?_digit digit]
  exact number.trans (read _)

theorem scalar_minus {cs : List Letter} {found : Json × List Letter}
    (read : ∀ start, unsignedNumber true start cs = .ok found) : scalar (.char '-' :: cs) = .ok found := by
  obtain ⟨c, more, rfl, digit⟩ := digit_of_unsignedNumber (read [])
  rw [scalar, constant?_minus digit]
  exact read _

theorem scalar_float (x : Float) (stops : Stops goesOn rest) :
    scalar (letters (floatText Decimal.document x).toList ++ rest) = .ok (float x, rest) := by
  unfold floatText
  by_cases none : x.isNaN = true
  · rw [if_pos none, Bits.eq_notANumber none]
    rfl
  · have number : x.isNaN = false := by simpa using none
    have same := Bits.signed_abs number
    rw [if_neg none]
    by_cases inf : x.isInf = true
    · rw [Bits.abs_of_isInf inf] at same
      cases sign : isNegative x <;> rw [sign] at same <;> rw [if_pos inf, ← same] <;> rfl
    · have finite : x.isFinite = true := by
        rw [Bits.isFinite_eq, number, Bool.eq_false_iff.mpr inf]
        rfl
      obtain ⟨d, value, spelled⟩ := spells_text (shortest x) stops
      have read := spelled (isNegative x)
      rw [value, toFloat_shortest finite, same] at read
      rw [if_neg inf, String.toList_append, letters_append, List.append_assoc]
      cases sign : isNegative x <;> rw [sign] at read
      · rw [if_neg Bool.false_ne_true, String.toList_empty, letters_nil, List.nil_append]
        exact scalar_unsigned read
      · have minus : letters "-".toList = [.char '-'] := rfl
        rw [if_pos rfl, minus, List.singleton_append]
        exact scalar_minus read

theorem scalar_int (n : Int) (short : isLong n = false) (stops : Stops goesOn rest) :
    scalar (letters (intChars n) ++ rest) = .ok (int n, rest) := by
  have lead : (Nat.toDigits 10 n.natAbs).head? = some '0' → Nat.toDigits 10 n.natAbs = ['0'] := by
    intro zero
    rcases Nat.eq_zero_or_pos n.natAbs with none | positive
    · rw [none]
      rfl
    · exact absurd zero (head_toDigits positive)
  have first := wholePart_append isDigit_toDigits Nat.toDigits_ne_nil lead stops.digit
  have next : fraction rest = ([], rest) := fraction_none (stops.mono fun c point => by simp_all [goesOn])
  have read (negative : Bool) (start : List Letter) :
      unsignedNumber negative start (letters (Nat.toDigits 10 n.natAbs) ++ rest) =
        .ok (int (if negative then -n.natAbs else n.natAbs), rest) := by
    have few : ¬digitLimit < (Nat.toDigits 10 n.natAbs).length := of_decide_eq_false short
    simp only [unsignedNumber, first, next, stops.power, wholeNumber, if_neg few, digitsValue_toDigits]
    rfl
  unfold intChars
  split
  · have sign : -(n.natAbs : Int) = n := by omega
    have minus := scalar_minus (read true)
    rwa [if_pos rfl, sign] at minus
  · have sign : (n.natAbs : Int) = n := by omega
    have unsigned := scalar_unsigned (read false)
    rwa [if_neg Bool.false_ne_true, sign] at unsigned

end NodeScript.Json
