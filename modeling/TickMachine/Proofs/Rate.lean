import TickMachine.Rate

namespace TickMachine

namespace Number

variable {a b : Number}

theorem max_of_lt (h : a.lt b = true) : a.max b = b := by simp [max, h]

theorem max_of_not_lt (h : a.lt b = false) : a.max b = a := by simp [max, h]

theorem min_of_lt (h : b.lt a = true) : a.min b = b := by simp [min, h]

theorem min_of_not_lt (h : b.lt a = false) : a.min b = a := by simp [min, h]

theorem lt_int (m n : Int) : (Number.int m).lt (.int n) = decide (m < n) := by
  have hpos : (0 : Int) < Binary64.unitsPerOne := by decide +kernel
  simp only [lt, height?, Height.lt]
  exact decide_eq_decide.mpr (Int.mul_lt_mul_right hpos)

theorem toFloat?_int {n : Int} (h : n.natAbs < floatLimit) :
    (Number.int n).toFloat? = some (Float.ofInt n) := by
  simp only [toFloat?, h, if_true]

end Number

namespace FixedRate

theorem min_rateMax {n : Int} (h : Hardware.rateMin ≤ n) :
    ∃ k : Int, (Number.int n).min (.int Hardware.rateMax) = .int k ∧
      Hardware.rateMin ≤ k ∧ k ≤ Hardware.rateMax := by
  by_cases hlt : (Hardware.rateMax : Int) < n
  · have hmin := Number.min_of_lt (a := .int n) (b := .int Hardware.rateMax)
      (by simpa [Number.lt_int] using hlt)
    exact ⟨_, hmin, by decide, Int.le_refl _⟩
  · have hmin := Number.min_of_not_lt (a := .int n) (b := .int Hardware.rateMax)
      (by simpa [Number.lt_int] using hlt)
    exact ⟨n, hmin, h, by omega⟩

theorem value_cases (v : Number) :
    (∃ x, (ofNumber v).value = .real x) ∨
      ∃ n : Int, (ofNumber v).value = .int n ∧ Hardware.rateMin ≤ n ∧ n ≤ Hardware.rateMax := by
  have hvalue : (ofNumber v).value =
      (v.max (.int Hardware.rateMin)).min (.int Hardware.rateMax) := rfl
  rw [hvalue]
  cases hlow : v.lt (.int Hardware.rateMin) with
  | true =>
    rw [Number.max_of_lt hlow]
    exact .inr (min_rateMax (Int.le_refl _))
  | false =>
    rw [Number.max_of_not_lt hlow]
    cases v with
    | int n => exact .inr (min_rateMax (by simpa [Number.lt_int] using hlow))
    | real x =>
      cases hhigh : (Number.int Hardware.rateMax).lt (.real x) with
      | true => exact .inr ⟨_, Number.min_of_lt hhigh, by decide, Int.le_refl _⟩
      | false => exact .inl ⟨x, Number.min_of_not_lt hhigh⟩

end FixedRate

theorem RateControl.exists_interval_of_fixed (v : Number) :
    ∃ seconds, (fixed (.ofNumber v)).interval = .ok seconds := by
  simp only [interval, rate, intervalOf]
  obtain ⟨x, hx⟩ | ⟨n, hn, hlow, hhigh⟩ := FixedRate.value_cases v
  · rw [hx]
    cases hlt : (Number.real x).lt (.int 1) with
    | true =>
      have hone : (1 : Int).natAbs < Number.floatLimit := by decide +kernel
      rw [Number.max_of_lt hlt, Number.toFloat?_int hone]
      exact ⟨_, rfl⟩
    | false =>
      rw [Number.max_of_not_lt hlt]
      exact ⟨_, rfl⟩
  · have hlt : (Number.int n).lt (.int 1) = false := by
      simpa [Number.lt_int, Hardware.rateMin] using hlow
    have hsmall : n.natAbs < Number.floatLimit := by
      have hlimit : Hardware.rateMax < Number.floatLimit := by decide +kernel
      have hpos : (0 : Int) ≤ n := Int.le_trans (Int.natCast_nonneg _) hlow
      omega
    rw [hn, Number.max_of_not_lt hlt, Number.toFloat?_int hsmall]
    exact ⟨_, rfl⟩

end TickMachine
