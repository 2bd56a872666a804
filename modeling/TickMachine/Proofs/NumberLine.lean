import Mathlib.Data.EReal.Basic
import TickMachine.Proofs.Rate

namespace TickMachine

open Float.Model (Format UnpackedFloat)
open Float.Model.UnpackedFloat (Sign unpackExponent unpackMantissa unpackSign)

namespace Binary64

def sign (b : Binary64) : Sign := if b.negative then .negative else .positive

theorem sign_ofFloat (x : Float) :
    Sign.ofBitVec (@unpackSign Format.binary64 x.toBits.toBitVec) = (ofFloat x).sign := by
  have hbit : (@unpackSign Format.binary64 x.toBits.toBitVec).toNat =
      x.toBits.toNat >>> 63 % 2 := rfl
  have hlt : x.toBits.toNat < 1 <<< 64 := x.toBits.toNat_lt
  have hiff : @unpackSign Format.binary64 x.toBits.toBitVec = 0#1 ↔
      ¬ (1 <<< 63 ≤ x.toBits.toNat) := by
    rw [← BitVec.toNat_inj, hbit, Nat.shiftRight_eq_div_pow]
    change _ = 0 ↔ _
    omega
  by_cases hneg : 1 <<< 63 ≤ x.toBits.toNat
  · rw [Sign.ofBitVec, if_neg (by rwa [hiff, not_not]), sign,
      if_pos (by simpa [ofFloat] using hneg)]
  · rw [Sign.ofBitVec, if_pos (hiff.mpr hneg), sign, if_neg (by simpa [ofFloat] using hneg)]

theorem finite_congr {s : Sign} {m m' : Nat} {e e' : Int} {h : 0 < m} (hm : m = m') (he : e = e') :
    ∃ h', UnpackedFloat.finite s m e h = .finite s m' e' h' := by
  subst hm he
  exact ⟨h, rfl⟩

theorem toNat_one_append (f : BitVec 52) : (1#1 ++ f).toNat = 1 <<< 52 + f.toNat := by
  rw [BitVec.toNat_append]
  exact (Nat.shiftLeft_add_eq_or_of_lt f.isLt 1).symm

/-- What a double is unpacked to, by its fields. The exponent of the least doubles is that of the
next ones above them, so both kinds have the gap as their unit. -/
theorem unpack_cases (x : Float) :
    x.toModel.unpack = .infinity (ofFloat x).sign ∨ x.toModel.unpack = .notANumber ∨
    (x.toModel.unpack = .zero (ofFloat x).sign ∧ (ofFloat x).magnitude = 0) ∨
    ∃ h, x.toModel.unpack =
      .finite (ofFloat x).sign (ofFloat x).mantissa (((ofFloat x).biased - 1 : Nat) - 1074) h := by
  let exponent := @unpackExponent Format.binary64 x.toBits.toBitVec
  let fraction := @unpackMantissa Format.binary64 x.toBits.toBitVec
  let sign := Sign.ofBitVec (@unpackSign Format.binary64 x.toBits.toBitVec)
  have hexponent : exponent.toNat = (ofFloat x).biased := rfl
  have hfraction : fraction.toNat = (ofFloat x).fraction := rfl
  have hsign : sign = (ofFloat x).sign := sign_ofFloat x
  have hunpack : x.toModel.unpack =
      if exponent = -1#11 then if fraction = 0#52 then .infinity sign else .notANumber
      else if exponent = 0#11 then
        if h : fraction = 0#52 then .zero sign
        else .finite sign fraction.toNat ((ofFloat x).biased - 1075 + 1)
          (Nat.pos_of_ne_zero fun hzero => h (BitVec.eq_of_toNat_eq hzero))
      else .finite sign (1#1 ++ fraction).toNat ((ofFloat x).biased - 1075)
        (by rw [toNat_one_append]; omega) := rfl
  rw [hunpack, hsign]
  -- The last exponent stands for infinities and NaN, the first one for the least doubles.
  by_cases hlast : exponent = -1#11
  · rw [if_pos hlast]
    by_cases hnone : fraction = 0#52
    · exact .inl (if_pos hnone)
    · exact .inr (.inl (if_neg hnone))
  refine .inr (.inr ?_)
  rw [if_neg hlast]
  by_cases hfirst : exponent = 0#11
  · have hbiased : (ofFloat x).biased = 0 := hexponent ▸ congrArg BitVec.toNat hfirst
    have hmantissa : (ofFloat x).mantissa = (ofFloat x).fraction := if_pos hbiased
    rw [if_pos hfirst]
    by_cases hnone : fraction = 0#52
    · have hzero : (ofFloat x).fraction = 0 := hfraction ▸ congrArg BitVec.toNat hnone
      refine .inl ⟨dif_pos hnone, ?_⟩
      rw [magnitude, hmantissa, hzero, Nat.zero_mul]
    · rw [dif_neg hnone]
      exact .inr (finite_congr (hfraction.trans hmantissa.symm) (by omega))
  · have hbiased : (ofFloat x).biased ≠ 0 := by
      intro h
      exact hfirst (BitVec.eq_of_toNat_eq (hexponent.trans h))
    have hmantissa : (ofFloat x).mantissa = 1 <<< 52 + (ofFloat x).fraction := if_neg hbiased
    have hone := toNat_one_append fraction
    rw [if_neg hfirst]
    exact .inr (finite_congr (hone.trans hmantissa.symm) (by omega))

end Binary64

/-- The value of an unpacked double on the extended real line. -/
noncomputable def unpackedValue? : UnpackedFloat → Option EReal
  | .notANumber => none
  | .infinity .negative => some ⊥
  | .infinity .positive => some ⊤
  | .zero _ => some 0
  | .finite .negative m e _ => some ((-(m * (2 : ℝ) ^ e) : ℝ) : EReal)
  | .finite .positive m e _ => some ((m * (2 : ℝ) ^ e : ℝ) : EReal)

/-- The point of the extended real line that a number stands for. -/
noncomputable def Number.value? : Number → Option EReal
  | .int n => some ((n : ℝ) : EReal)
  | .real x => unpackedValue? x.toModel.unpack

noncomputable def Height.value : Height → EReal
  | .below => ⊥
  | .at units => ((units / 2 ^ 1074 : ℝ) : EReal)
  | .above => ⊤

theorem units_pos : (0 : ℝ) < 2 ^ 1074 := by positivity

theorem Height.lt_iff (h k : Height) : h.lt k = true ↔ h.value < k.value := by
  cases h with
  | below => cases k <;> simp [Height.lt, value]
  | above => cases k <;> simp [Height.lt, value]
  | «at» m =>
    cases k with
    | below | above => simp [Height.lt, value]
    | «at» n =>
      rw [value, value, EReal.coe_lt_coe_iff, div_lt_div_iff_of_pos_right units_pos, Int.cast_lt]
      exact decide_eq_true_iff

theorem cast_one_shiftLeft (k : Nat) : ((1 <<< k : Nat) : ℝ) = 2 ^ k := by
  rw [Nat.one_shiftLeft, Nat.cast_pow, Nat.cast_ofNat]

theorem Binary64.mantissa_mul_zpow (b : Binary64) :
    (b.mantissa : ℝ) * (2 : ℝ) ^ (((b.biased - 1 : Nat) : Int) - 1074) =
      b.magnitude / 2 ^ 1074 := by
  rw [magnitude, gap, Nat.cast_mul, cast_one_shiftLeft, zpow_sub₀ two_ne_zero, zpow_natCast,
    mul_div_assoc]
  rfl

theorem Number.value?_int (n : Int) :
    (Number.int n).value? = (Number.int n).height?.map Height.value := by
  rw [value?, height?, Option.map_some, Height.value, Int.cast_mul, Int.cast_natCast,
    Binary64.unitsPerOne, cast_one_shiftLeft, mul_div_cancel_right₀ _ units_pos.ne']

theorem Number.value?_real (x : Float) :
    (Number.real x).value? = (Number.real x).height?.map Height.value := by
  have hnan : x.isNaN = x.toModel.unpack.isNaN := rfl
  have hinf : x.isInf = x.toModel.unpack.isInf := rfl
  have hunits := (Binary64.ofFloat x).mantissa_mul_zpow
  simp only [value?, height?, hnan, hinf]
  obtain h | h | ⟨h, hzero⟩ | ⟨hpos, h⟩ := Binary64.unpack_cases x
  · rw [h, Binary64.sign]
    cases (Binary64.ofFloat x).negative <;> rfl
  · rw [h]
    rfl
  · rw [h]
    change some 0 = some (Height.at (Binary64.ofFloat x).units).value
    simp [Binary64.units, hzero, Height.value]
  · rw [h, Binary64.sign]
    cases hneg : (Binary64.ofFloat x).negative with
    | true =>
      change some ((-(_ * (2 : ℝ) ^ _) : ℝ) : EReal) =
        some (Height.at (Binary64.ofFloat x).units).value
      rw [hunits, Height.value, Binary64.units, if_pos hneg, Int.cast_neg, Int.cast_natCast,
        neg_div]
    | false =>
      change some ((_ * (2 : ℝ) ^ _ : ℝ) : EReal) =
        some (Height.at (Binary64.ofFloat x).units).value
      rw [hunits, Height.value, Binary64.units, hneg, if_neg Bool.false_ne_true, Int.cast_natCast]

theorem Number.value?_eq (a : Number) : a.value? = a.height?.map Height.value := by
  cases a with
  | int n => exact value?_int n
  | real x => exact value?_real x

namespace Number

def isNaN : Number → Bool
  | .int _ => false
  | .real x => x.isNaN

theorem value?_eq_none_iff (a : Number) : a.value? = none ↔ a.isNaN = true := by
  rw [value?_eq, Option.map_eq_none_iff]
  cases a with
  | int n => simp [height?, isNaN]
  | real x =>
    simp only [height?, isNaN]
    split
    · rename_i h
      exact iff_of_true rfl h
    · rename_i h
      split <;> exact iff_of_false (Option.some_ne_none _) h

theorem lt_iff_exists (a b : Number) :
    a.lt b = true ↔ ∃ x ∈ a.value?, ∃ y ∈ b.value?, x < y := by
  rw [value?_eq, value?_eq, lt]
  cases a.height? with
  | none => simp
  | some h =>
    cases b.height? with
    | none => simp
    | some k => simpa using h.lt_iff k

variable {a b : Number} {x y : EReal}

theorem not_lt_of_isNaN (ha : a.isNaN = true) : a.lt b = false ∧ b.lt a = false := by
  have hnone : a.value? = none := (value?_eq_none_iff a).mpr ha
  simp [Bool.eq_false_iff, lt_iff_exists, hnone]

section Values

variable (ha : a.value? = some x) (hb : b.value? = some y)
include ha hb

theorem lt_iff : a.lt b = true ↔ x < y := by simp [lt_iff_exists, ha, hb]

theorem lt_eq_false_iff : a.lt b = false ↔ y ≤ x := by
  rw [← Bool.not_eq_true, lt_iff ha hb, not_lt]

theorem value?_max : (a.max b).value? = some (x ⊔ y) := by
  obtain h | h := lt_or_ge x y
  · rw [max_of_lt ((lt_iff ha hb).mpr h), hb, sup_of_le_right h.le]
  · rw [max_of_not_lt ((lt_eq_false_iff ha hb).mpr h), ha, sup_of_le_left h]

theorem value?_min : (a.min b).value? = some (x ⊓ y) := by
  obtain h | h := lt_or_ge y x
  · rw [min_of_lt ((lt_iff hb ha).mpr h), hb, inf_of_le_right h.le]
  · rw [min_of_not_lt ((lt_eq_false_iff hb ha).mpr h), ha, inf_of_le_left h]

end Values

end Number

end TickMachine
