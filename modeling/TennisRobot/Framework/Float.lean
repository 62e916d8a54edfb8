import Mathlib.Data.Int.Log
import Mathlib.Data.Rat.Floor
import Mathlib.Tactic.Linarith
import Mathlib.Tactic.Ring

/-!
# Floats

Floats are read as rationals, which are exact unless they are rounded on purpose
(`float`, `double`); `abs_roundTo_sub_le` bounds what rounding loses. `castInt` is the
conversion of a float to an `int`, which drops the fraction: the floor of a number that
is not negative (`castInt_of_nonneg`). `castInt_le` and `lt_castInt_add_one` bound what a
conversion loses. `Approx` is the calculus of relative errors: each operation adds some.

Where a divisor can be zero, the quotient is a `FloatQuot`: `fdiv` has the values
that are no numbers too, and `0 / 0` compares with nothing.
-/

namespace TR

/-- `(int)q`: the fraction is dropped. -/
def castInt (q : Rat) : Int := q.num.tdiv q.den

theorem castInt_of_nonneg {q : Rat} (h : 0 ≤ q) : castInt q = ⌊q⌋ := by
  rw [castInt, Int.tdiv_eq_ediv_of_nonneg (Rat.num_nonneg.mpr h), Rat.floor_def']

theorem castInt_nonneg {q : Rat} (h : 0 ≤ q) : 0 ≤ castInt q := by
  rw [castInt_of_nonneg h]; exact Int.floor_nonneg.mpr h

/-- A conversion of a number that is not negative does not exceed it. -/
theorem castInt_le {q : Rat} (h : 0 ≤ q) : (castInt q : Rat) ≤ q := by
  rw [castInt_of_nonneg h]; exact Int.floor_le q

/-- What a conversion loses is less than one. -/
theorem lt_castInt_add_one {q : Rat} (h : 0 ≤ q) : q < castInt q + 1 := by
  rw [castInt_of_nonneg h]; exact Int.lt_floor_add_one q

@[simp] theorem castInt_intCast (n : Int) : castInt (n : Rat) = n := by
  simp [castInt]

@[simp] theorem castInt_neg (q : Rat) : castInt (-q) = -castInt q := by
  simp only [castInt, Rat.num_neg_eq_neg_num, Rat.den_neg_eq_den, Int.neg_tdiv]

/-- The conversion of a quotient is integer division. -/
theorem castInt_div {a m : Int} (ha : 0 ≤ a) (hm : 0 < m) : castInt ((a : Rat) / m) = a / m := by
  have hq : (0 : Rat) ≤ a / m := div_nonneg (by exact_mod_cast ha) (by exact_mod_cast hm.le)
  rw [castInt_of_nonneg hq]
  lift m to Nat using hm.le
  exact Rat.floor_intCast_div_natCast a m

/-- The conversion of a quotient is not 0 from the divisor on. -/
theorem castInt_div_pos_iff {a m : Int} (hm : 0 < m) : 0 < castInt ((a : Rat) / m) ↔ m ≤ a := by
  rcases Int.lt_or_le a 0 with ha | ha
  · have hneg : (a : Rat) / m = -(((-a : Int) : Rat) / m) := by push_cast; ring
    have h0 : 0 ≤ -a / m := Int.ediv_nonneg (by omega) hm.le
    rw [hneg, castInt_neg, castInt_div (by omega) hm]
    omega
  · rw [castInt_div ha hm, ← Int.add_one_le_iff, zero_add, Int.le_ediv_iff_mul_le hm, one_mul]

theorem castInt_div_neg_iff {a m : Int} (hm : 0 < m) : castInt ((a : Rat) / m) < 0 ↔ m ≤ -a := by
  have h := castInt_div_pos_iff (a := -a) hm
  rw [show ((-a : Int) : Rat) / m = -((a : Rat) / m) by push_cast; ring, castInt_neg] at h
  omega

/-- The integer nearest to `q`, and of two the even one. -/
def roundEven (q : Rat) : Int :=
  let n := ⌊q⌋
  if q - n < 1 / 2 then n
  else if 1 / 2 < q - n then n + 1
  else if n % 2 = 0 then n else n + 1

/-- `q` with so many binary digits: a multiple of the power of two that leaves them, or of
`2 ^ least`. -/
def roundTo (digits : Nat) (least : Int) (q : Rat) : Rat :=
  let ulp := (2 : Rat) ^ max (Int.log 2 |q| - (digits - 1)) least
  roundEven (q / ulp) * ulp

/-- The `float` nearest to `q`, unless `q` is out of their range. -/
def float (q : Rat) : Rat := roundTo 24 (-149) q

/-- The `double` nearest to `q`, unless `q` is out of their range. -/
def double (q : Rat) : Rat := roundTo 53 (-1074) q

example : double (1 / 10) = 3602879701896397 / 2 ^ 55 := by decide +kernel

theorem abs_roundEven_sub_le (q : Rat) : |(roundEven q : Rat) - q| ≤ 1 / 2 := by
  have hlo := Int.floor_le q
  have hhi := Int.lt_floor_add_one q
  unfold roundEven
  dsimp only
  rw [abs_le]
  split_ifs <;> push_cast <;> constructor <;> linarith

@[simp] theorem roundTo_zero (digits : Nat) (least : Int) : roundTo digits least 0 = 0 := by
  have hzero : roundEven 0 = 0 := by decide +kernel
  simp [roundTo, hzero]

/-- Rounding is off by half of the last digit at most. -/
theorem abs_roundTo_sub_le (digits : Nat) (least : Int) (q : Rat) :
    |roundTo digits least q - q| ≤ max (|q| / 2 ^ digits) (2 ^ (least - 1)) := by
  rcases eq_or_ne q 0 with rfl | hq
  · simp
  have htwo : (2 : Rat) ≠ 0 := two_ne_zero
  unfold roundTo
  dsimp only
  generalize hulp : (2 : Rat) ^ max (Int.log 2 |q| - (digits - 1)) least = ulp
  have hpos : 0 < ulp := hulp ▸ zpow_pos two_pos _
  have hround : |roundEven (q / ulp) * ulp - q| ≤ ulp / 2 := by
    calc |roundEven (q / ulp) * ulp - q| = |(roundEven (q / ulp) - q / ulp) * ulp| := by
          rw [sub_mul, div_mul_cancel₀ q hpos.ne']
      _ = |(roundEven (q / ulp) : Rat) - q / ulp| * ulp := by rw [abs_mul, abs_of_pos hpos]
      _ ≤ 1 / 2 * ulp := mul_le_mul_of_nonneg_right (abs_roundEven_sub_le _) hpos.le
      _ = ulp / 2 := by ring
  refine hround.trans ?_
  rcases max_choice (Int.log 2 |q| - (digits - 1)) least with h | h
  · refine le_max_of_le_left ?_
    have hlog : (2 : Rat) ^ Int.log 2 |q| ≤ |q| := Int.zpow_log_le_self (by decide) (abs_pos.mpr hq)
    calc ulp / 2 = 2 ^ Int.log 2 |q| / 2 ^ digits := by
          rw [← hulp, h, zpow_sub₀ htwo, zpow_sub₀ htwo, zpow_natCast, zpow_one]
          field_simp
      _ ≤ |q| / 2 ^ digits := div_le_div_of_nonneg_right hlog (by positivity)
  · refine le_max_of_le_right ?_
    rw [← hulp, h, zpow_sub_one₀ htwo]
    exact (div_eq_mul_inv _ _).le

/-! ## Relative errors -/

/-- `y` is `x` but for the part `e` of it. -/
structure Approx (e x y : Rat) : Prop where
  lower : (1 - e) * x ≤ y
  upper : y ≤ (1 + e) * x

section Approx

variable {e e' f x y z : Rat}

theorem Approx.pos (h : Approx e x y) (he : e < 1) (hx : 0 < x) : 0 < y :=
  lt_of_lt_of_le (mul_pos (by linarith) hx) h.lower

/-- Errors add up, if `f` has room for their product. -/
theorem Approx.trans (h : Approx e x y) (h' : Approx e' y z) (hx : 0 ≤ x) (he : 0 ≤ e)
    (he' : 0 ≤ e') (h1 : e' ≤ 1) (hf : e + e' + e * e' ≤ f) : Approx f x z := by
  have hprod : 0 ≤ e * e' * x := mul_nonneg (mul_nonneg he he') hx
  have hfx := mul_le_mul_of_nonneg_right hf hx
  constructor
  · have h1' := mul_le_mul_of_nonneg_left h.lower (by linarith : 0 ≤ 1 - e')
    linarith [h'.lower]
  · have h1' := mul_le_mul_of_nonneg_left h.upper (by linarith : 0 ≤ 1 + e')
    linarith [h'.upper]

theorem Approx.mul_right (h : Approx e x y) (hz : 0 ≤ z) : Approx e (x * z) (y * z) where
  lower := by linarith [mul_le_mul_of_nonneg_right h.lower hz]
  upper := by linarith [mul_le_mul_of_nonneg_right h.upper hz]

theorem Approx.mul_left (h : Approx e x y) (hz : 0 ≤ z) : Approx e (z * x) (z * y) := by
  rw [mul_comm z x, mul_comm z y]
  exact h.mul_right hz

/-- The error of a divisor counts twice at most. -/
theorem Approx.div (h : Approx e x y) (hx : 0 < x) (he : 0 ≤ e) (he' : e ≤ 1 / 2) (hz : 0 ≤ z) :
    Approx (2 * e) (z / x) (z / y) := by
  have hy : 0 < y := h.pos (by linarith) hx
  have hex : 0 ≤ e * x := mul_nonneg he hx.le
  have heex : e * (e * x) ≤ 1 / 2 * (e * x) := mul_le_mul_of_nonneg_right he' hex
  have hlo : (1 - 2 * e) * y ≤ x := by
    have hmul := mul_le_mul_of_nonneg_left h.upper (by linarith : 0 ≤ 1 - 2 * e)
    linarith [mul_nonneg he hex]
  have hhi : x ≤ (1 + 2 * e) * y := by
    have hmul := mul_le_mul_of_nonneg_left h.lower (by linarith : 0 ≤ 1 + 2 * e)
    linarith
  constructor
  · rw [← mul_div_assoc, div_le_div_iff₀ hx hy]
    linarith [mul_le_mul_of_nonneg_left hlo hz]
  · rw [← mul_div_assoc, div_le_div_iff₀ hy hx]
    linarith [mul_le_mul_of_nonneg_left hhi hz]

theorem Approx.min (h : Approx e x y) {x' y' : Rat} (h' : Approx e x' y') (h0 : 0 ≤ e) (he : e ≤ 1) :
    Approx e (min x x') (min y y') where
  lower := by
    rw [mul_min_of_nonneg _ _ (by linarith)]
    exact min_le_min h.lower h'.lower
  upper := by
    rw [mul_min_of_nonneg _ _ (by linarith)]
    exact min_le_min h.upper h'.upper

theorem approx_float (hx : 1 / 2 ^ 100 ≤ x) : Approx (1 / 2 ^ 24) x (float x) := by
  have hpos : 0 < x := lt_of_lt_of_le (by positivity) hx
  have h := abs_roundTo_sub_le 24 (-149) x
  rw [abs_of_pos hpos, max_eq_left, abs_le] at h
  · constructor <;> unfold float <;> linarith [h.1, h.2]
  · calc (2 : Rat) ^ (-149 - 1 : Int) ≤ 1 / 2 ^ 100 / 2 ^ 24 := by norm_num
      _ ≤ x / 2 ^ 24 := div_le_div_of_nonneg_right hx (by positivity)

end Approx

/-! ## Quotients -/

/-- The value of a division of floats. -/
inductive FloatQuot
  | num (q : Rat)
  | inf
  | negInf
  | nan
deriving DecidableEq, Repr

/-- `a / b`. -/
def fdiv (a b : Rat) : FloatQuot :=
  if b ≠ 0 then .num (a / b)
  else if a > 0 then .inf
  else if a < 0 then .negInf
  else .nan

/-- `v > t`. -/
def FloatQuot.gt (v : FloatQuot) (t : Rat) : Bool :=
  match v with
  | .num q => decide (t < q)
  | .inf => true
  | .negInf => false
  | .nan => false

end TR
