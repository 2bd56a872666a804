import TickMachine.Proofs.FailedStart
import TickMachine.Proofs.NumberLine

namespace TickMachine

namespace Number

def InRange (a : Number) : Prop := ∃ x ∈ a.value?, 1 ≤ x ∧ x ≤ 2000

/-- Both are numbers, and the first one is not the larger. -/
def Le (a b : Number) : Prop := ∃ x ∈ a.value?, ∃ y ∈ b.value?, x ≤ y

theorem value?_rateMin : (Number.int Hardware.rateMin).value? = some 1 := by
  simp [value?, Hardware.rateMin]

theorem value?_rateMax : (Number.int Hardware.rateMax).value? = some 2000 := by
  have hmax : (((Hardware.rateMax : Nat) : Int) : ℝ) = 2000 := by simp [Hardware.rateMax]
  rw [value?, hmax]
  rfl

theorem exists_value {a : Number} (h : a.isNaN = false) : ∃ x, a.value? = some x := by
  rw [← Option.ne_none_iff_exists', Ne, value?_eq_none_iff, h]
  exact Bool.false_ne_true

theorem not_inRange_of_isNaN {a : Number} (h : a.isNaN = true) : ¬ a.InRange := by
  rintro ⟨x, hx, -⟩
  rw [(value?_eq_none_iff a).mpr h] at hx
  cases hx

end Number

namespace FixedRate

variable {v w : Number} {x : EReal}

theorem value?_ofNumber (h : v.value? = some x) :
    (ofNumber v).value.value? = some ((x ⊔ 1) ⊓ 2000) :=
  Number.value?_min (Number.value?_max h Number.value?_rateMin) Number.value?_rateMax

theorem value_of_isNaN (h : v.isNaN = true) : (ofNumber v).value = v := by
  rw [ofNumber, Number.max_of_not_lt (Number.not_lt_of_isNaN h).1,
    Number.min_of_not_lt (Number.not_lt_of_isNaN h).2]

theorem value_of_inRange (h : v.InRange) : (ofNumber v).value = v := by
  obtain ⟨x, hx, hlow, hhigh⟩ := h
  rw [ofNumber, Number.max_of_not_lt ((Number.lt_eq_false_iff hx Number.value?_rateMin).mpr hlow),
    Number.min_of_not_lt ((Number.lt_eq_false_iff Number.value?_rateMax hx).mpr hhigh)]

theorem inRange_ofNumber (h : v.isNaN = false) : (ofNumber v).value.InRange := by
  obtain ⟨x, hx⟩ := Number.exists_value h
  refine ⟨_, value?_ofNumber hx, le_inf le_sup_right ?_, inf_le_right⟩
  norm_num

theorem inRange_ofNumber_iff : (ofNumber v).value.InRange ↔ v.isNaN = false := by
  cases h : v.isNaN with
  | false => simp [inRange_ofNumber h]
  | true => simp [value_of_isNaN h, Number.not_inRange_of_isNaN h]

theorem ofNumber_value (v : Number) : ofNumber (ofNumber v).value = ofNumber v := by
  cases h : v.isNaN with
  | false => exact congrArg mk (value_of_inRange (inRange_ofNumber h))
  | true => rw [value_of_isNaN h]

theorem le_ofNumber (h : v.Le w) : (ofNumber v).value.Le (ofNumber w).value := by
  obtain ⟨x, hx, y, hy, hle⟩ := h
  exact ⟨_, value?_ofNumber hx, _, value?_ofNumber hy, inf_le_inf_right _ (sup_le_sup_right hle _)⟩

end FixedRate

theorem Session.setRate_of_fixed {s : Session} {r : FixedRate} (h : s.rate = .fixed r)
    (value : Number) : s.setRate value = { s with rate := .fixed (.ofNumber value) } := by
  rw [setRate, h]

/-- A fixed rate that is given one number after the other is in its range unless the last one is
NaN, which it keeps. It is the last number itself if that is in the range. To give it its own value
changes nothing, and a number that is not smaller does not make it smaller. -/
theorem rate_kept_in_range (source : Source) (display : Display) (first : Number)
    (ops : List Operation) :
    let s := (Session.onDisplay source (.fixed (.ofNumber first)) display).session.performAll ops
    let v := Operation.latestRate first ops
    ∃ r, s.rate.rate = .ok r ∧
      (r.InRange ↔ v.isNaN = false) ∧
      (v.isNaN = true → r = v) ∧
      (v.InRange → r = v) ∧
      s.setRate r = s ∧
      ∀ w, v.Le w → ∃ r', (s.setRate w).rate.rate = .ok r' ∧ r.Le r' := by
  intro s v
  have hs : s.rate = .fixed (.ofNumber v) := Session.rate_performAll rfl ops
  refine ⟨(FixedRate.ofNumber v).value, by rw [hs]; rfl, FixedRate.inRange_ofNumber_iff,
    FixedRate.value_of_isNaN, FixedRate.value_of_inRange, ?_, ?_⟩
  · rw [Session.setRate_of_fixed hs, FixedRate.ofNumber_value, ← hs]
  · intro w hw
    rw [Session.setRate_of_fixed hs]
    exact ⟨_, rfl, FixedRate.le_ofNumber hw⟩

/-- NaN is kept as a rate, while a number that is too small is not. -/
theorem rate_kept_in_range_notANumber :
    let nan : Number := .real (0.0 / 0.0)
    let s :=
      (Session.onDisplay (.text "") (.fixed (.ofNumber (.int (-3)))) (.blank false none)).session
    (∃ r, s.rate.rate = .ok r ∧ r.InRange) ∧
    ∃ r, (s.performAll [.start, .setRate nan, .stop]).rate.rate = .ok r ∧
      r = nan ∧ ¬ r.InRange := by
  intro nan s
  have hnan : nan.isNaN = true := by decide +kernel
  obtain ⟨r, hrate, hrange, -⟩ :=
    rate_kept_in_range (.text "") (.blank false none) (.int (-3)) []
  obtain ⟨r', hrate', hrange', hkept, -⟩ :=
    rate_kept_in_range (.text "") (.blank false none) (.int (-3)) [.start, .setRate nan, .stop]
  refine ⟨⟨r, hrate, hrange.mpr rfl⟩, r', hrate', hkept hnan, ?_⟩
  rw [hrange']
  exact fun h => Bool.false_ne_true (h.symm.trans hnan)

end TickMachine
