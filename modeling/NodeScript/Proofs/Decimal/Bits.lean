import Mathlib.Algebra.Order.Ring.Nat
import NodeScript.Decimal.Shortest
import NodeScript.Json.Parser

namespace NodeScript

open Float.Model Float.Model.UnpackedFloat

namespace Bits

def word (x : Float) : BitVec 64 := x.toBits.toBitVec

def sign (b : BitVec 64) : Sign := Sign.ofBitVec (@unpackSign Format.binary64 b)

def exponent (b : BitVec 64) : BitVec 11 := @unpackExponent Format.binary64 b

def mantissa (b : BitVec 64) : BitVec 52 := @unpackMantissa Format.binary64 b

def components (s : Sign) (exponent : BitVec 11) (mantissa : BitVec 52) : BitVec 64 :=
  packComponents Format.binary64 s exponent mantissa

def resigned (s : Sign) : UnpackedFloat → UnpackedFloat
  | .infinity _ => .infinity s
  | .notANumber => .notANumber
  | .zero _ => .zero s
  | .finite _ m e positive => .finite s m e positive

variable {b : BitVec 64} {x : Float} {s : Sign}

theorem toBitVec_ofBitVec (v : BitVec 1) : (Sign.ofBitVec v).toBitVec = v := by
  revert v
  decide

theorem unpackSign_eq (b : BitVec 64) : @unpackSign Format.binary64 b = b.extractLsb 63 63 := rfl

theorem components_eq (b : BitVec 64) : components (sign b) (exponent b) (mantissa b) = b := by
  simp only [components, packComponents, sign, exponent, mantissa, toBitVec_ofBitVec, unpackSign_eq,
    unpackExponent, unpackMantissa, BitVec.extractLsb]
  ext i hi
  rw [← BitVec.getLsbD_eq_getElem, ← BitVec.getLsbD_eq_getElem]
  simp only [BitVec.getLsbD_append, BitVec.getLsbD_cast, BitVec.getLsbD_extractLsb']
  by_cases low : i < 52
  · simp [low]
  have middle : 52 + (i - 52) = i := by omega
  by_cases next : i - 52 < 11
  · simp [low, next, middle]
  · have first : i - 52 - 11 < 1 := by omega
    have last : 63 + (i - 52 - 11) = i := by omega
    simp [low, next, first, last]

@[simp] theorem exponent_components (s : Sign) (e : BitVec 11) (m : BitVec 52) :
    exponent (components s e m) = e := unpackExponent_packComponents

@[simp] theorem mantissa_components (s : Sign) (e : BitVec 11) (m : BitVec 52) :
    mantissa (components s e m) = m := unpackMantissa_packComponents

@[simp] theorem sign_components (s : Sign) (e : BitVec 11) (m : BitVec 52) :
    sign (components s e m) = s := by
  have same : @unpackSign Format.binary64 (components s e m) = s.toBitVec := by
    simp only [components, packComponents, unpackSign_eq, BitVec.extractLsb]
    ext i hi
    obtain rfl : i = 0 := by omega
    rw [← BitVec.getLsbD_eq_getElem, ← BitVec.getLsbD_eq_getElem]
    simp only [BitVec.getLsbD_extractLsb', BitVec.getLsbD_append]
    rfl
  unfold sign
  rw [same]
  cases s <;> rfl

theorem toNat_components (s : Sign) (e : BitVec 11) (m : BitVec 52) :
    (components s e m).toNat = s.toBitVec.toNat * 2 ^ 63 + e.toNat * 2 ^ 52 + m.toNat := by
  have high : (s.toBitVec ++ e).toNat = s.toBitVec.toNat * 2 ^ 11 + e.toNat := by
    rw [BitVec.toNat_append, ← Nat.shiftLeft_add_eq_or_of_lt e.isLt, Nat.shiftLeft_eq]
  simp only [components, packComponents]
  rw [BitVec.toNat_append, ← Nat.shiftLeft_add_eq_or_of_lt m.isLt, Nat.shiftLeft_eq, high]
  omega

/-- What the bits of each kind stand for. -/
inductive Unpacked (b : BitVec 64) : UnpackedFloat → Prop
  | infinity (special : exponent b = -1#11) (empty : mantissa b = 0#52) :
      Unpacked b (.infinity (sign b))
  | none (special : exponent b = -1#11) (used : mantissa b ≠ 0#52) : Unpacked b .notANumber
  | zero (least : exponent b = 0#11) (empty : mantissa b = 0#52) : Unpacked b (.zero (sign b))
  | subnormal (least : exponent b = 0#11) (used : 0 < (mantissa b).toNat) :
      Unpacked b (.finite (sign b) (mantissa b).toNat (-1074) used)
  | normal (special : exponent b ≠ -1#11) (least : exponent b ≠ 0#11) :
      Unpacked b (.finite (sign b) (2 ^ 52 + (mantissa b).toNat) ((exponent b).toNat - 1075) (by omega))

theorem Unpacked.finite {m n : Nat} {e f : Int} {above : 0 < n} (kind : Unpacked b (.finite s n f above))
    (size : m = n) (power : e = f) (positive : 0 < m) : Unpacked b (.finite s m e positive) := by
  subst size power
  exact kind

theorem unpacked (b : BitVec 64) : Unpacked b (UnpackedFloat.unpack Format.binary64 b) := by
  by_cases special : exponent b = -1#11
  · by_cases empty : mantissa b = 0#52
    · have kind : UnpackedFloat.unpack Format.binary64 b = .infinity (sign b) :=
        (if_pos special).trans (if_pos empty)
      exact kind ▸ .infinity special empty
    · have kind : UnpackedFloat.unpack Format.binary64 b = .notANumber :=
        (if_pos special).trans (if_neg empty)
      exact kind ▸ .none special empty
  by_cases least : exponent b = 0#11
  · by_cases empty : mantissa b = 0#52
    · have kind : UnpackedFloat.unpack Format.binary64 b = .zero (sign b) :=
        (if_neg special).trans ((if_pos least).trans (dif_pos empty))
      exact kind ▸ .zero least empty
    · have used : 0 < (mantissa b).toNat := Nat.pos_of_ne_zero fun zero => empty (BitVec.eq_of_toNat_eq zero)
      have power : ((exponent b).toNat : Int) - (1023 + 52 : Nat) + 1 = -1074 := by
        rw [least]
        rfl
      have kind : UnpackedFloat.unpack Format.binary64 b =
          .finite (sign b) (mantissa b).toNat ((exponent b).toNat - (1023 + 52 : Nat) + 1) used :=
        (if_neg special).trans ((if_pos least).trans (dif_neg empty))
      exact kind ▸ (Unpacked.subnormal least used).finite rfl power used
  · have whole : (1#1 ++ mantissa b).toNat = 2 ^ 52 + (mantissa b).toNat := by
      rw [BitVec.toNat_append, ← Nat.shiftLeft_add_eq_or_of_lt (mantissa b).isLt, Nat.shiftLeft_eq]
      rfl
    have positive : 0 < (1#1 ++ mantissa b).toNat := by omega
    have kind : UnpackedFloat.unpack Format.binary64 b =
        .finite (sign b) (1#1 ++ mantissa b).toNat ((exponent b).toNat - 1075) positive :=
      (if_neg special).trans (if_neg least)
    exact kind ▸ (Unpacked.normal special least).finite whole rfl positive

theorem pack_subnormal {m : Nat} (used : 0 < m) (small : m < 2 ^ 52) :
    UnpackedFloat.pack Format.binary64 (.finite s m (-1074) used) =
      components s 0#11 (BitVec.ofNat 52 m) := by
  have short : ¬m.log2 + 1 = 53 := by
    have := (Nat.log2_lt (Nat.ne_of_gt used)).mpr small
    omega
  unfold UnpackedFloat.pack
  exact (if_neg (by decide)).trans (if_neg short)

theorem pack_normal {m : Nat} {e : BitVec 11} (small : m < 2 ^ 52) (special : e ≠ -1#11) :
    UnpackedFloat.pack Format.binary64 (.finite s (2 ^ 52 + m) (e.toNat - 1075) (by omega)) =
      components s e (BitVec.ofNat 52 m) := by
  have full : (2 ^ 52 + m).log2 + 1 = 53 := by
    have : (2 ^ 52 + m).log2 = 52 := (Nat.log2_eq_iff (by omega)).mpr ⟨by omega, by omega⟩
    omega
  have power : ((e.toNat : Int) - 1075 + (1023 : Nat) + (52 : Nat)).toNat = e.toNat := by omega
  have below : ¬2048 ≤ e.toNat + 1 := by
    have bounded : e.toNat < 2048 := e.isLt
    have other : e.toNat ≠ 2047 := fun top => special (BitVec.eq_of_toNat_eq top)
    omega
  have bits : BitVec.ofNat 52 (2 ^ 52 + m) = BitVec.ofNat 52 m := by
    apply BitVec.eq_of_toNat_eq
    simp
  unfold UnpackedFloat.pack
  refine (if_neg (by rw [← power] at below; exact below)).trans ((if_pos full).trans ?_)
  refine congrArg₂ (components s) ?_ bits
  exact (congrArg (BitVec.ofNat 11) power).trans (by rw [BitVec.ofNat_toNat, BitVec.setWidth_eq])

/-- A number is put together again from a sign and its other bits. -/
theorem pack_resigned (number : (UnpackedFloat.unpack Format.binary64 b).isNaN = false) :
    UnpackedFloat.pack Format.binary64 (resigned s (UnpackedFloat.unpack Format.binary64 b)) =
      components s (exponent b) (mantissa b) := by
  have kind := unpacked b
  generalize UnpackedFloat.unpack Format.binary64 b = u at number kind
  cases kind with
  | infinity special empty | zero special empty =>
    rw [special, empty]
    rfl
  | none => exact absurd number.symm Bool.false_ne_true
  | subnormal least used =>
    refine (pack_subnormal used (mantissa b).isLt).trans ?_
    rw [least, BitVec.ofNat_toNat, BitVec.setWidth_eq]
  | normal special =>
    refine (pack_normal (mantissa b).isLt special).trans ?_
    rw [BitVec.ofNat_toNat, BitVec.setWidth_eq]

theorem resigned_sign {u : UnpackedFloat} (kind : Unpacked b u) : resigned (sign b) u = u := by
  cases kind <;> rfl

theorem neg_resigned {u : UnpackedFloat} (kind : Unpacked b u) : u.neg = resigned (-sign b) u := by
  cases kind <;> rfl

theorem abs_resigned (u : UnpackedFloat) : u.abs = resigned .positive u := by
  cases u <;> rfl

theorem isNaN_iff {u : UnpackedFloat} (kind : Unpacked b u) :
    u.isNaN = true ↔ exponent b = -1#11 ∧ mantissa b ≠ 0#52 := by
  cases kind with
  | none special used => exact iff_of_true rfl ⟨special, used⟩
  | infinity special empty => exact iff_of_false Bool.false_ne_true fun top => top.2 empty
  | zero least | subnormal least =>
    exact iff_of_false Bool.false_ne_true fun top => by simp [least] at top
  | normal special => exact iff_of_false Bool.false_ne_true fun top => special top.1

theorem isFinite_iff {u : UnpackedFloat} (kind : Unpacked b u) :
    u.isFinite = true ↔ exponent b ≠ -1#11 := by
  cases kind with
  | none special | infinity special => exact iff_of_false Bool.false_ne_true fun other => other special
  | zero least | subnormal least => exact iff_of_true rfl fun top => by simp [least] at top
  | normal special => exact ⟨fun _ => special, fun _ => rfl⟩

theorem pack_unpack (number : (UnpackedFloat.unpack Format.binary64 b).isNaN = false) :
    UnpackedFloat.pack Format.binary64 (UnpackedFloat.unpack Format.binary64 b) = b := by
  have packed := pack_resigned (s := sign b) number
  rwa [resigned_sign (unpacked b), components_eq] at packed

theorem eq_of_word {x y : Float} (same : word x = word y) : x = y := by
  obtain ⟨⟨xs, _⟩⟩ := x
  obtain ⟨⟨ys, _⟩⟩ := y
  have : xs = ys := UInt64.toBitVec_inj.mp same
  subst this
  rfl

theorem eq_notANumber (none : x.isNaN = true) : x = Json.notANumber := by
  obtain ⟨special, used⟩ := (isNaN_iff (unpacked (word x))).mp none
  apply eq_of_word
  refine (x.toModel.valid.eq_packedNaN special used).trans ?_
  decide

theorem word_abs (number : x.isNaN = false) :
    word x.abs = components .positive (exponent (word x)) (mantissa (word x)) :=
  (congrArg (UnpackedFloat.pack _) (abs_resigned _)).trans (pack_resigned number)

theorem word_neg (number : x.isNaN = false) :
    word (-x) = components (-sign (word x)) (exponent (word x)) (mantissa (word x)) :=
  (congrArg (UnpackedFloat.pack _) (neg_resigned (unpacked (word x)))).trans (pack_resigned number)

theorem isNaN_iff_word (x : Float) :
    x.isNaN = true ↔ exponent (word x) = -1#11 ∧ mantissa (word x) ≠ 0#52 :=
  isNaN_iff (unpacked (word x))

theorem isNaN_of_isFinite (finite : x.isFinite = true) : x.isNaN = false := by
  have special := (isFinite_iff (unpacked (word x))).mp finite
  rw [← Bool.not_eq_true, isNaN_iff_word]
  exact fun none => special none.1

theorem isFinite_eq (x : Float) : x.isFinite = (!x.isNaN && !x.isInf) := by
  change UnpackedFloat.isFinite _ = (!UnpackedFloat.isNaN _ && !UnpackedFloat.isInf _)
  cases x.toModel.unpack <;> rfl

theorem isNaN_abs (number : x.isNaN = false) : x.abs.isNaN = false := by
  rw [← Bool.not_eq_true, isNaN_iff_word] at number ⊢
  rwa [word_abs (by rwa [← Bool.not_eq_true, isNaN_iff_word]), exponent_components, mantissa_components]

theorem abs_of_isInf (inf : x.isInf = true) : x.abs = Json.infinity := by
  have kind := unpacked (word x)
  change (UnpackedFloat.unpack Format.binary64 (word x)).isInf = true at inf
  apply eq_of_word
  change UnpackedFloat.pack Format.binary64 (UnpackedFloat.unpack Format.binary64 (word x)).abs = _
  generalize UnpackedFloat.unpack Format.binary64 (word x) = u at inf kind
  cases kind with
  | infinity special empty =>
    change UnpackedFloat.pack Format.binary64 (.infinity .positive) = word Json.infinity
    decide
  | _ => exact absurd inf Bool.false_ne_true

def size (x : Float) : Nat := x.toBits.toNat % 2 ^ 63

theorem toNat_word (x : Float) : x.toBits.toNat =
    (sign (word x)).toBitVec.toNat * 2 ^ 63 + (exponent (word x)).toNat * 2 ^ 52 +
      (mantissa (word x)).toNat := by
  rw [← toNat_components, components_eq]
  rfl

theorem size_eq (x : Float) :
    size x = (exponent (word x)).toNat * 2 ^ 52 + (mantissa (word x)).toNat := by
  have high := (exponent (word x)).isLt
  have low := (mantissa (word x)).isLt
  rw [size, toNat_word]
  omega

theorem isFinite_iff_size (x : Float) : x.isFinite = true ↔ size x < 2047 * 2 ^ 52 := by
  refine (isFinite_iff (unpacked (word x))).trans ?_
  have high : (exponent (word x)).toNat < 2048 := (exponent (word x)).isLt
  have low := (mantissa (word x)).isLt
  have top : exponent (word x) = -1#11 ↔ (exponent (word x)).toNat = 2047 :=
    ⟨fun special => by rw [special]; rfl, fun top => BitVec.eq_of_toNat_eq top⟩
  rw [Ne, top, size_eq]
  omega

theorem isNegative_iff (x : Float) : Decimal.isNegative x = true ↔ sign (word x) = .negative := by
  have high : (exponent (word x)).toNat < 2048 := (exponent (word x)).isLt
  have low := (mantissa (word x)).isLt
  have whole := toNat_word x
  unfold Decimal.isNegative Decimal.twos
  cases negative : sign (word x) <;> rw [negative] at whole <;> simp [Sign.toBitVec] at whole ⊢ <;> omega

theorem toUInt64_size (x : Float) : (size x).toUInt64.toBitVec =
    components .positive (exponent (word x)) (mantissa (word x)) := by
  apply BitVec.eq_of_toNat_eq
  have high : (exponent (word x)).toNat < 2 ^ 11 := (exponent (word x)).isLt
  have low : (mantissa (word x)).toNat < 2 ^ 52 := (mantissa (word x)).isLt
  have whole : (size x).toUInt64.toBitVec.toNat = size x :=
    UInt64.toNat_ofNat_of_lt' (by rw [size_eq, UInt64.size]; omega)
  rw [whole, size_eq, toNat_components, Sign.toBitVec, BitVec.toNat_zero, Nat.zero_mul, Nat.zero_add]

theorem abs_eq_ofBits (number : x.isNaN = false) : x.abs = Float.ofBits (size x).toUInt64 := by
  apply eq_of_word
  rw [word_abs number, ← toUInt64_size]
  refine (pack_unpack ?_).symm
  rw [← Bool.not_eq_true, isNaN_iff (unpacked _), toUInt64_size, exponent_components, mantissa_components,
    ← isNaN_iff_word, number]
  decide

theorem signed_abs (number : x.isNaN = false) : Json.signed (Decimal.isNegative x) x.abs = x := by
  apply eq_of_word
  have parts := components_eq (word x)
  cases negative : Decimal.isNegative x with
  | true =>
    rw [(isNegative_iff x).mp negative] at parts
    rw [Json.signed, if_pos rfl, word_neg (isNaN_abs number), word_abs number, sign_components,
      exponent_components, mantissa_components]
    exact parts
  | false =>
    have positive : sign (word x) = .positive := by
      cases same : sign (word x) with
      | negative => rw [(isNegative_iff x).mpr same] at negative; contradiction
      | positive => rfl
    rw [positive] at parts
    rw [Json.signed, if_neg Bool.false_ne_true, word_abs number, parts]

end Bits

end NodeScript
