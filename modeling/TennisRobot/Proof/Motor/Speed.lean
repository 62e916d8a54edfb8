import TennisRobot.Impl.Uart
import Mathlib.Order.Monotone.Odd
import Mathlib.Algebra.Order.Group.Int

/-!
# The speed that is sent

A requested speed goes through two truncating maps: `mapSpeed` raises it to the
least speed the motor turns at, and `toPwm` scales it to the controller's unit.
Both are odd, so each fact below is proved for a speed forward and holds
backward as well. `sentSpeed` is what is sent in the end: it has the sign of the
request (`sentSpeed_pos_iff`, `sentSpeed_neg_iff`), is monotone in it
(`sentSpeed_mono`) and stays between the scaled least speed and 150
(`sentSpeed_bounds`).
-/

namespace TR.Proof.Motor

open TR.Impl.Motor TR.Impl.Uart

variable {m v w : Int}

/-! ## Maps that keep the sign -/

section Sign

variable {f : Int → Int} (hodd : ∀ v, f (-v) = -f v) (hpos : ∀ v, 0 < v → 0 < f v)

include hodd hpos

/-- An odd map that is positive forward keeps the sign. -/
theorem pos_iff_of_odd : 0 < f v ↔ 0 < v := by
  refine ⟨fun h => Int.not_le.mp fun hv => ?_, hpos v⟩
  rcases Int.lt_or_eq_of_le hv with hv | rfl
  · have := hpos (-v) (by omega)
    rw [hodd] at this
    omega
  · have := hodd 0
    rw [Int.neg_zero] at this
    omega

theorem neg_iff_of_odd : f v < 0 ↔ v < 0 := by
  have := pos_iff_of_odd (v := -v) hodd hpos
  rw [hodd] at this
  omega

end Sign

/-! ## The mapping -/

@[simp] theorem mapSpeed_zero (m : Int) : mapSpeed m 0 = 0 := rfl

theorem mapSpeed_neg (m v : Int) : mapSpeed m (-v) = -mapSpeed m v := by
  unfold mapSpeed
  simp only [Int.neg_eq_zero, Int.natAbs_neg]
  split_ifs <;> omega

/-- The magnitude of a mapped speed, before it is capped. -/
theorem mapSpeed_of_pos (hm : m ≤ 100) (hv : 0 < v) :
    mapSpeed m v = min 100 (m + (v - 1) * (100 - m) / 99) := by
  have hprod : 0 ≤ (v - 1) * (100 - m) := Int.mul_nonneg (by omega) (by omega)
  unfold mapSpeed
  rw [if_neg (by omega)]
  simp only [gt_iff_lt, if_pos hv, Int.natAbs_of_nonneg hv.le, one_mul,
    Int.tdiv_eq_ediv_of_nonneg hprod]
  split_ifs <;> omega

/-- A speed forward is mapped to one from the least speed to 100. -/
theorem mapSpeed_bounds_of_pos (hm : m ≤ 100) (hv : 0 < v) :
    m ≤ mapSpeed m v ∧ mapSpeed m v ≤ 100 := by
  have hprod : 0 ≤ (v - 1) * (100 - m) := Int.mul_nonneg (by omega) (by omega)
  rw [mapSpeed_of_pos hm hv]
  omega

theorem mapSpeed_mono (h0 : 0 ≤ m) (hm : m ≤ 100) (hvw : v ≤ w) : mapSpeed m v ≤ mapSpeed m w := by
  refine monotone_of_odd_of_monotoneOn_nonneg (mapSpeed_neg m) (fun v hv w _ hvw => ?_) hvw
  rcases Int.lt_or_eq_of_le (show 0 ≤ v from hv) with hv | rfl
  · have hw : 0 < w := Int.lt_of_lt_of_le hv hvw
    have hprod : (v - 1) * (100 - m) ≤ (w - 1) * (100 - m) :=
      Int.mul_le_mul_of_nonneg_right (by omega) (by omega)
    rw [mapSpeed_of_pos hm hv, mapSpeed_of_pos hm hw]
    omega
  · rcases Int.lt_or_eq_of_le hvw with hw | rfl
    · have := (mapSpeed_bounds_of_pos hm hw).1
      rw [mapSpeed_zero]
      omega
    · exact le_rfl

/-- A mapped speed is at most 100 either way. -/
theorem mapSpeed_le (h0 : 0 ≤ m) (hm : m ≤ 100) (v : Int) :
    -100 ≤ mapSpeed m v ∧ mapSpeed m v ≤ 100 := by
  rcases Int.lt_trichotomy v 0 with hv | rfl | hv
  · have := mapSpeed_bounds_of_pos hm (Int.neg_pos.mpr hv)
    rw [mapSpeed_neg] at this
    omega
  · rw [mapSpeed_zero]; omega
  · have := mapSpeed_bounds_of_pos hm hv
    omega

/-- Wheels that are to turn backward together, or against each other, do so. -/
theorem mapSpeed_add_nonpos (h0 : 0 ≤ m) (hm : m ≤ 100) (h : v + w ≤ 0) :
    mapSpeed m v + mapSpeed m w ≤ 0 := by
  have := mapSpeed_mono h0 hm (show v ≤ -w by omega)
  rw [mapSpeed_neg] at this
  omega

/-! ## The value that is sent -/

theorem toInt_toPwm {s : Int} (h : -100 ≤ s ∧ s ≤ 100) : (toPwm s 150).toInt = (s * 150).tdiv 100 := by
  unfold toPwm
  rw [if_neg (by omega)]
  simp only [if_neg (show ¬ s < -100 by omega)]
  have hlo : (-15000 : Int).tdiv 100 ≤ (s * 150).tdiv 100 := Int.tdiv_le_tdiv (by decide) (by omega)
  have hhi : (s * 150).tdiv 100 ≤ (15000 : Int).tdiv 100 := Int.tdiv_le_tdiv (by decide) (by omega)
  apply Int16.toInt_ofInt_of_le
  · exact Int.le_trans (by decide) hlo
  · exact Int.lt_of_le_of_lt hhi (by decide)

/-- The value that the controller is sent for a requested speed, by a driver that
scales 100 to 150. -/
def sentSpeed (minSpeed v : Int) : Int := (toPwm (mapSpeed minSpeed v) 150).toInt

section Sent

variable (h0 : 0 ≤ m) (hm : m ≤ 100)

include h0 hm

theorem sentSpeed_eq (v : Int) : sentSpeed m v = (mapSpeed m v * 150).tdiv 100 :=
  toInt_toPwm (mapSpeed_le h0 hm v)

theorem sentSpeed_neg (v : Int) : sentSpeed m (-v) = -sentSpeed m v := by
  rw [sentSpeed_eq h0 hm, sentSpeed_eq h0 hm, mapSpeed_neg, Int.neg_mul, Int.neg_tdiv]

theorem sentSpeed_mono (hvw : v ≤ w) : sentSpeed m v ≤ sentSpeed m w := by
  rw [sentSpeed_eq h0 hm, sentSpeed_eq h0 hm]
  have := mapSpeed_mono h0 hm hvw
  exact Int.tdiv_le_tdiv (by decide) (by omega)

theorem sentSpeed_bounds_of_pos (hv : 0 < v) :
    m * 150 / 100 ≤ sentSpeed m v ∧ sentSpeed m v ≤ 150 := by
  have := mapSpeed_bounds_of_pos hm hv
  rw [sentSpeed_eq h0 hm, Int.tdiv_eq_ediv_of_nonneg (by omega)]
  omega

/-- What is sent is at most 150, and at least the least speed, scaled, when a
speed is requested. -/
theorem sentSpeed_bounds (hv : v ≠ 0) :
    m * 150 / 100 ≤ (sentSpeed m v).natAbs ∧ (sentSpeed m v).natAbs ≤ 150 := by
  rcases Int.lt_or_gt_of_ne hv with hv | hv
  · have := sentSpeed_bounds_of_pos h0 hm (Int.neg_pos.mpr hv)
    rw [sentSpeed_neg h0 hm] at this
    omega
  · have := sentSpeed_bounds_of_pos h0 hm hv
    omega

end Sent

section Sign

variable (h1 : 1 ≤ m) (hm : m ≤ 100)

include h1 hm

theorem mapSpeed_pos (v : Int) (hv : 0 < v) : 0 < mapSpeed m v := by
  have := (mapSpeed_bounds_of_pos hm hv).1
  omega

theorem mapSpeed_pos_iff : 0 < mapSpeed m v ↔ 0 < v :=
  pos_iff_of_odd (mapSpeed_neg m) (mapSpeed_pos h1 hm)

theorem mapSpeed_neg_iff : mapSpeed m v < 0 ↔ v < 0 :=
  neg_iff_of_odd (mapSpeed_neg m) (mapSpeed_pos h1 hm)

theorem sentSpeed_pos (v : Int) (hv : 0 < v) : 0 < sentSpeed m v := by
  have := (sentSpeed_bounds_of_pos (by omega) hm hv).1
  omega

/-- What is sent has the sign of what is requested. -/
theorem sentSpeed_pos_iff : 0 < sentSpeed m v ↔ 0 < v :=
  pos_iff_of_odd (sentSpeed_neg (by omega) hm) (sentSpeed_pos h1 hm)

theorem sentSpeed_neg_iff : sentSpeed m v < 0 ↔ v < 0 :=
  neg_iff_of_odd (sentSpeed_neg (by omega) hm) (sentSpeed_pos h1 hm)

theorem sentSpeed_eq_zero_iff : sentSpeed m v = 0 ↔ v = 0 := by
  have := sentSpeed_pos_iff (v := v) h1 hm
  have := sentSpeed_neg_iff (v := v) h1 hm
  omega

end Sign

/-! ## A least speed of 15 -/

theorem sentSpeed_lt_of_pos (hv : 0 < v) (hvw : v + 2 ≤ w) (hw : w ≤ 100) :
    sentSpeed 15 v < sentSpeed 15 w := by
  have hmv := mapSpeed_bounds_of_pos (m := 15) (by decide) hv
  have hmw := mapSpeed_bounds_of_pos (m := 15) (by decide) (show 0 < w by omega)
  have hstep : mapSpeed 15 v + 1 ≤ mapSpeed 15 w := by
    rw [mapSpeed_of_pos (by decide) hv, mapSpeed_of_pos (by decide) (show 0 < w by omega)]
    omega
  rw [sentSpeed_eq (by decide) (by decide), sentSpeed_eq (by decide) (by decide),
    Int.tdiv_eq_ediv_of_nonneg (by omega), Int.tdiv_eq_ediv_of_nonneg (by omega)]
  omega

/-- Speeds that are two apart are still apart when they are sent. -/
theorem sentSpeed_lt (hv : -100 ≤ v) (hvw : v + 2 ≤ w) (hw : w ≤ 100) :
    sentSpeed 15 v < sentSpeed 15 w := by
  by_cases hpos : 0 < v
  · exact sentSpeed_lt_of_pos hpos hvw hw
  · by_cases hneg : w < 0
    · have := sentSpeed_lt_of_pos (v := -w) (w := -v) (by omega) (by omega) (by omega)
      rw [sentSpeed_neg (by decide) (by decide), sentSpeed_neg (by decide) (by decide)] at this
      omega
    · have := sentSpeed_pos_iff (m := 15) (v := v) (by decide) (by decide)
      have := sentSpeed_neg_iff (m := 15) (v := v) (by decide) (by decide)
      have := sentSpeed_pos_iff (m := 15) (v := w) (by decide) (by decide)
      have := sentSpeed_neg_iff (m := 15) (v := w) (by decide) (by decide)
      omega

end TR.Proof.Motor
