import TennisRobot.Proof.Motor.Speed

/-!
# Speeds out of range

`Motor::drive` is documented for speeds between -100 and 100, and cuts a magnitude
off at 100, but multiplies before it does. In 32 bits the mapping is that of
`mapSpeed` as long as the magnitude is one and its product with `100 - min_speed`
fits (`mapSpeedInt_eq_some_iff`). There a speed beyond the range saturates
(`saturates_mapSpeed`), and nowhere else (`driveInt_saturates_iff`).
-/

namespace TR.Proof.Motor

open TR.Impl.Motor

/-- The product of the mapping fits, and so does the magnitude. -/
def ProductFits (minSpeed v : Int) : Prop :=
  v ≠ INT_MIN ∧ ((v.natAbs : Int) - 1) * (100 - minSpeed) ≤ INT_MAX

instance (m v : Int) : Decidable (ProductFits m v) := inferInstanceAs (Decidable (_ ∧ _))

/-- What a request `v` is to be mapped to: a speed of its direction in the range, the
fastest one from 100 on. -/
structure Saturates (v s : Int) : Prop where
  range : -100 ≤ s ∧ s ≤ 100
  forward : 0 ≤ v → 0 ≤ s
  backward : v ≤ 0 → s ≤ 0
  full : 100 ≤ v → s = 100
  fullBackward : v ≤ -100 → s = -100

variable {m v w : Int}

/-- A magnitude that is cut off at 100 fits with either sign. -/
theorem fitsInt_signed (v : Int) {n : Int} (hn : 0 ≤ n) :
    FitsInt ((if v > 0 then (1 : Int) else -1) * (if n > 100 then 100 else n)) := by
  unfold FitsInt INT_MIN INT_MAX
  split_ifs <;> omega

/-- In 32 bits the mapping is the one on integers, where its product fits. -/
theorem mapSpeedInt_eq_some_iff {s : Int} (h0 : 0 ≤ m) (hm : m ≤ 100) (hv : FitsInt v) :
    mapSpeedInt m v = some s ↔ ProductFits m v ∧ mapSpeed m v = s := by
  rcases eq_or_ne v 0 with rfl | hz
  · have hfit : ProductFits m 0 := by
      refine ⟨by decide, ?_⟩
      show ((0 : Int) - 1) * (100 - m) ≤ 2147483647
      omega
    exact ⟨fun h => ⟨hfit, Option.some.inj h⟩, fun h => congrArg some h.2⟩
  unfold mapSpeedInt mapSpeed ProductFits
  rw [if_neg hz, if_neg hz]
  have hmag : 1 ≤ (v.natAbs : Int) := by omega
  have hprod : 0 ≤ ((v.natAbs : Int) - 1) * (100 - m) := Int.mul_nonneg (by omega) (by omega)
  simp only [checked_bind_eq_some, checked_eq_some_iff, Int.tdiv_eq_ediv_of_nonneg hprod]
  generalize ((v.natAbs : Int) - 1) * (100 - m) = p at hprod ⊢
  have hcut := fitsInt_signed v (n := m + p / 99) (by omega)
  unfold FitsInt INT_MIN INT_MAX at *
  refine ⟨?_, ?_⟩
  · rintro ⟨h1, h2, h3, h4, h5, h6, h7⟩
    exact ⟨⟨by omega, h4.2⟩, h7⟩
  · rintro ⟨⟨h1, h2⟩, h7⟩
    exact ⟨by omega, by omega, by omega, by omega, by omega, hcut, h7⟩

/-- From 100 on a speed is the fastest. -/
theorem mapSpeed_of_ge (hm : m ≤ 100) (hv : 100 ≤ v) : mapSpeed m v = 100 := by
  have hprod : 99 * (100 - m) ≤ (v - 1) * (100 - m) :=
    Int.mul_le_mul_of_nonneg_right (by omega) (by omega)
  rw [mapSpeed_of_pos hm (by omega)]
  omega

/-- The mapping on integers saturates. -/
theorem saturates_mapSpeed (h0 : 0 ≤ m) (hm : m ≤ 100) (v : Int) : Saturates v (mapSpeed m v) where
  range := mapSpeed_le h0 hm v
  forward hv := by
    have := mapSpeed_mono h0 hm hv
    rwa [mapSpeed_zero] at this
  backward hv := by
    have := mapSpeed_mono h0 hm hv
    rwa [mapSpeed_zero] at this
  full hv := mapSpeed_of_ge hm hv
  fullBackward hv := by
    have := mapSpeed_of_ge hm (show 100 ≤ -v by omega)
    rw [mapSpeed_neg] at this
    omega

theorem driveInt_eq_some_iff {l r l' r' : Int} : driveInt m l r = some (.drive l' r') ↔
    mapSpeedInt m l = some l' ∧ mapSpeedInt m r = some r' := by
  unfold driveInt
  cases mapSpeedInt m l <;> cases mapSpeedInt m r <;> simp

/-- Two speeds saturate, without an overflow on the way, exactly when their products
fit; and those that do not overflow are mapped in order. -/
theorem driveInt_saturates_iff (h0 : 0 ≤ m) (hm : m ≤ 100) {l r : Int} (hl : FitsInt l)
    (hr : FitsInt r) :
    ((∃ l' r', driveInt m l r = some (.drive l' r') ∧ Saturates l l' ∧ Saturates r r') ↔
      ProductFits m l ∧ ProductFits m r) ∧
    ∀ v w s t, FitsInt v → FitsInt w → v ≤ w → mapSpeedInt m v = some s →
      mapSpeedInt m w = some t → s ≤ t := by
  refine ⟨⟨?_, ?_⟩, ?_⟩
  · rintro ⟨l', r', hd, -, -⟩
    obtain ⟨hml, hmr⟩ := driveInt_eq_some_iff.mp hd
    exact ⟨((mapSpeedInt_eq_some_iff h0 hm hl).mp hml).1,
      ((mapSpeedInt_eq_some_iff h0 hm hr).mp hmr).1⟩
  · rintro ⟨hpl, hpr⟩
    refine ⟨mapSpeed m l, mapSpeed m r, driveInt_eq_some_iff.mpr ⟨?_, ?_⟩, ?_, ?_⟩
    · exact (mapSpeedInt_eq_some_iff h0 hm hl).mpr ⟨hpl, rfl⟩
    · exact (mapSpeedInt_eq_some_iff h0 hm hr).mpr ⟨hpr, rfl⟩
    · exact saturates_mapSpeed h0 hm l
    · exact saturates_mapSpeed h0 hm r
  · intro v w s t hv hw hvw hs ht
    obtain ⟨-, rfl⟩ := (mapSpeedInt_eq_some_iff h0 hm hv).mp hs
    obtain ⟨-, rfl⟩ := (mapSpeedInt_eq_some_iff h0 hm hw).mp ht
    exact mapSpeed_mono h0 hm hvw

/-- A request of 120 and -50. -/
theorem driveInt_saturates_fast :
    ((∃ l' r', driveInt 15 120 (-50) = some (.drive l' r') ∧ Saturates 120 l' ∧
        Saturates (-50) r') ↔ ProductFits 15 120 ∧ ProductFits 15 (-50)) ∧
    ∀ v w s t, FitsInt v → FitsInt w → v ≤ w → mapSpeedInt 15 v = some s →
      mapSpeedInt 15 w = some t → s ≤ t :=
  driveInt_saturates_iff (by decide) (by decide) (by decide) (by decide)

/-- A request of 100000000, with the least speed that `Motor` is made with. -/
theorem driveInt_overflow : FitsInt 100000000 ∧ driveInt 15 100000000 0 = none := by decide

end TR.Proof.Motor
