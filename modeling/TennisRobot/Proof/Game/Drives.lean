import TennisRobot.Proof.Motor.Speed
import TennisRobot.Proof.Game.ArmCalls

/-!
# The speeds of the drives

What each place of the loop that drives asks of the wheels. A turn towards a target is
a base speed with a bias of 3 at most (`turnBias`, `chaseDrive_eq`, `bucketDrive_eq`),
and no drive asks for more than 7 (`Exit.speedsWithin`). Mapped for a least speed of
15, what reaches the driver is 0 or from 15 to 20 (`speed_envelope`).
-/

namespace TR.Proof.Game

open TR.Impl.Game TR.Impl.Motor
open TR.Proof.Motor

/-! ## The speeds of each drive -/

/-- The speeds of a call are `n` at most, either way. -/
def SpeedsWithin (n : Int) : MotorCall → Prop
  | .drive l r => (-n ≤ l ∧ l ≤ n) ∧ (-n ≤ r ∧ r ≤ n)
  | .brake => True
  | .standby => True

/-- Between the speeds of a far ball and of a near one. -/
theorem between_speeds {t : Rat} (h0 : 0 ≤ t) (h1 : t ≤ 1) :
    3 ≤ castInt (CHASE_SPEED_FAR + t * (BRAKE_SPEED - CHASE_SPEED_FAR)) ∧
      castInt (CHASE_SPEED_FAR + t * (BRAKE_SPEED - CHASE_SPEED_FAR)) ≤ 4 := by
  have hq : (CHASE_SPEED_FAR : Rat) + t * (BRAKE_SPEED - CHASE_SPEED_FAR) = 4 - t := by
    simp only [CHASE_SPEED_FAR, BRAKE_SPEED]
    push_cast
    linarith
  rw [hq, castInt_of_nonneg (by linarith)]
  exact ⟨Int.le_floor.mpr (by push_cast; linarith), Int.floor_le_iff.mpr (by push_cast; linarith)⟩

theorem baseSpeed_bounds (areaRatio : Rat) : 3 ≤ baseSpeed areaRatio ∧ baseSpeed areaRatio ≤ 4 := by
  unfold baseSpeed
  split_ifs
  · decide
  · exact between_speeds (le_max_left ..) (max_le zero_le_one (min_le_left ..))

/-- The bias of a turn towards a target. -/
def turnBias (k : Rat) (halfW offset : Int) : Int :=
  max (-3) (min 3 (if |offset| ≤ CENTER_DEAD_ZONE then 0 else castInt (k * offset / halfW)))

theorem turnBias_bounds (k : Rat) (halfW offset : Int) :
    -3 ≤ turnBias k halfW offset ∧ turnBias k halfW offset ≤ 3 := by
  unfold turnBias
  omega

/-- The speeds towards a target are not clamped. -/
theorem clamp_drive {l r : Int} (hl : -100 ≤ l ∧ l ≤ 100) (hr : -100 ≤ r ∧ r ≤ 100) :
    MotorCall.drive (max (-100) (min 100 l)) (max (-100) (min 100 r)) = .drive l r := by
  rw [show max (-100) (min 100 l) = l by omega, show max (-100) (min 100 r) = r by omega]

theorem chaseDrive_eq (camHalfW : Int) {areaRatio : Rat} (ha : areaRatio < AREA_NEAR) (offset : Int) :
    chaseDrive camHalfW areaRatio offset =
      .drive (baseSpeed areaRatio + turnBias K_TURN camHalfW offset)
        (baseSpeed areaRatio - turnBias K_TURN camHalfW offset) := by
  have hspd := baseSpeed_bounds areaRatio
  have hbias := turnBias_bounds K_TURN camHalfW offset
  unfold chaseDrive
  dsimp only
  rw [if_neg (not_le.mpr ha)]
  show MotorCall.drive
    (max (-100) (min 100 (baseSpeed areaRatio + turnBias K_TURN camHalfW offset)))
    (max (-100) (min 100 (baseSpeed areaRatio - turnBias K_TURN camHalfW offset))) = _
  exact clamp_drive (by omega) (by omega)

/-- The base speed towards the bucket. -/
def bucketSpeed (br : BucketResult) : Int :=
  if br.areaRatio ≥ BUCKET_AREA_BRAKE then BUCKET_BRAKE_SPD else BUCKET_APPROACH_SPD

theorem bucketSpeed_bounds (br : BucketResult) : 2 ≤ bucketSpeed br ∧ bucketSpeed br ≤ 4 := by
  unfold bucketSpeed BUCKET_BRAKE_SPD BUCKET_APPROACH_SPD
  split_ifs <;> omega

theorem bucketDrive_eq (f : Frame) (br : BucketResult) :
    bucketDrive f br =
      .drive (bucketSpeed br + turnBias BUCKET_K_TURN f.halfW (br.cx - f.halfW))
        (bucketSpeed br - turnBias BUCKET_K_TURN f.halfW (br.cx - f.halfW)) := by
  have hspd := bucketSpeed_bounds br
  have hbias := turnBias_bounds BUCKET_K_TURN f.halfW (br.cx - f.halfW)
  show MotorCall.drive
    (max (-100) (min 100 (bucketSpeed br + turnBias BUCKET_K_TURN f.halfW (br.cx - f.halfW))))
    (max (-100) (min 100 (bucketSpeed br - turnBias BUCKET_K_TURN f.halfW (br.cx - f.halfW)))) = _
  exact clamp_drive (by omega) (by omega)

theorem speedsWithin_bucketDrive (f : Frame) (br : BucketResult) :
    SpeedsWithin 7 (bucketDrive f br) := by
  have hspd := bucketSpeed_bounds br
  have hbias := turnBias_bounds BUCKET_K_TURN f.halfW (br.cx - f.halfW)
  rw [bucketDrive_eq]
  unfold SpeedsWithin
  omega

theorem speedsWithin_chaseDrive (camHalfW : Int) (areaRatio : Rat) (offset : Int) :
    SpeedsWithin 7 (chaseDrive camHalfW areaRatio offset) := by
  have hspd := baseSpeed_bounds areaRatio
  rcases lt_or_ge areaRatio AREA_NEAR with ha | ha
  · have hbias := turnBias_bounds K_TURN camHalfW offset
    rw [chaseDrive_eq camHalfW ha]
    unfold SpeedsWithin
    omega
  · unfold chaseDrive
    dsimp only
    rw [if_pos ha]
    unfold SpeedsWithin MAX_TURN_BIAS_NEAR
    omega

theorem speedsWithin_reverseDrive (offset : Int) : SpeedsWithin 7 (reverseDrive offset) := by
  unfold reverseDrive SpeedsWithin REVERSE_SPEED
  dsimp only
  split_ifs <;> omega

theorem speedsWithin_searchBall (s : LoopState) : SpeedsWithin 7 (searchBall s) := by
  unfold searchBall SEARCH_PIVOT_SPD
  dsimp only
  split_ifs <;> unfold SpeedsWithin <;> omega

/-- The pivot of `ALIGN` has one speed. -/
theorem pivot_eq (t : Rat) :
    castInt (ALIGN_PIVOT_MIN + t * (ALIGN_PIVOT_SPD - ALIGN_PIVOT_MIN)) = 2 := by
  rw [show (ALIGN_PIVOT_MIN : Rat) + t * (ALIGN_PIVOT_SPD - ALIGN_PIVOT_MIN) = (2 : Int) by
    simp [ALIGN_PIVOT_MIN, ALIGN_PIVOT_SPD], castInt_intCast]

/-! ## Exits -/

/-- No drive asks for more than 7. -/
theorem Exit.speedsWithin {g : Int} {s s' : LoopState} {f : Option Frame} {out : List Cmd}
    (h : Exit g s f s' out) : ∀ c ∈ out.filterMap motorCall?, SpeedsWithin 7 c := by
  have one {c : MotorCall} (hc : SpeedsWithin 7 c) : ∀ c' ∈ [c], SpeedsWithin 7 c' :=
    fun c' h => List.mem_singleton.mp h ▸ hc
  have two {c d : MotorCall} (hc : SpeedsWithin 7 c) (hd : SpeedsWithin 7 d) :
      ∀ c' ∈ [c, d], SpeedsWithin 7 c' :=
    fun c' h => by rcases List.mem_pair.mp h with rfl | rfl <;> assumption
  cases h with
  | noFrame | found | lostBucket => exact fun c h => nomatch h
  | deposit | confirmBucket | missBucket | hold | confirmStop => exact one trivial
  | atBucket | grab => exact two trivial trivial
  | turnForBucket => exact one ⟨by decide, by decide⟩
  | toBucket => exact one (speedsWithin_bucketDrive _ _)
  | reverse => exact one (speedsWithin_reverseDrive _)
  | chase => exact one (speedsWithin_chaseDrive _ _ _)
  | search => exact one (speedsWithin_searchBall _)
  | kick hg hb ht ha ho hs hk =>
    refine two ?_ trivial
    unfold SpeedsWithin
    unfold ALIGN_KICK_SPD at hk
    split_ifs at hk <;> omega
  | align hg hb ht ha ho hs hp =>
    apply one
    rw [pivot_eq] at hp
    unfold SpeedsWithin
    split_ifs at hp <;> omega

/-! ## Runs -/

/-- The calls of the driver that commands come to, with `set_min_speed(15)`. -/
def driverCalls (cmds : List Cmd) : List DriverCall :=
  (cmds.filterMap motorCall?).map (MotorCall.driverCall 15)

theorem speedsWithin_run (g : Int) (fs : List (Option Frame)) :
    ∀ c ∈ ((loop g).outputs .init fs).filterMap motorCall?, SpeedsWithin 7 c := by
  intro c hc
  obtain ⟨cmd, hcmd, hc⟩ := List.mem_filterMap.mp hc
  obtain ⟨r, hr, hcmd⟩ := List.mem_flatMap.mp hcmd
  have hout : ∀ c ∈ r.out.filterMap motorCall?, SpeedsWithin 7 c :=
    (loop g).log_all (I := fun _ => True) (P := fun r => ∀ c ∈ r.out.filterMap motorCall?,
      SpeedsWithin 7 c) trivial (fun _ _ _ => trivial)
      (fun s f _ => (exit_of_loopBody g s f).speedsWithin) hr
  exact hout c (List.mem_filterMap.mpr ⟨cmd, hcmd, hc⟩)

/-- A wheel stands, or turns at 15 to 20. -/
def InEnvelope (v : Int) : Prop := v = 0 ∨ 15 ≤ v.natAbs ∧ v.natAbs ≤ 20

theorem inEnvelope_mapSpeed {v : Int} (h : -7 ≤ v ∧ v ≤ 7) : InEnvelope (mapSpeed 15 v) := by
  have h20 : mapSpeed 15 7 = 20 := by decide
  have hle := mapSpeed_mono (m := 15) (by decide) (by decide) h.2
  have hge := mapSpeed_mono (m := 15) (by decide) (by decide) h.1
  rw [show (-7 : Int) = -(7) from rfl, mapSpeed_neg] at hge
  rcases Int.lt_trichotomy v 0 with hv | rfl | hv
  · have hb := mapSpeed_bounds_of_pos (m := 15) (by decide) (Int.neg_pos.mpr hv)
    rw [mapSpeed_neg] at hb
    unfold InEnvelope
    omega
  · exact .inl rfl
  · have hb := mapSpeed_bounds_of_pos (m := 15) (by decide) hv
    unfold InEnvelope
    omega

/-- Every drive that a run commands turns the wheels at 15 to 20, or not at all. -/
theorem speed_envelope (g : Int) (fs : List (Option Frame)) (l r : Int)
    (h : .drive l r ∈ driverCalls ((loop g).outputs .init fs)) : InEnvelope l ∧ InEnvelope r := by
  obtain ⟨c, hc, he⟩ := List.mem_map.mp h
  have hw := speedsWithin_run g fs c hc
  cases c with
  | drive l' r' =>
    obtain ⟨rfl, rfl⟩ := DriverCall.drive.inj he
    exact ⟨inEnvelope_mapSpeed hw.1, inEnvelope_mapSpeed hw.2⟩
  | brake => cases he
  | standby => cases he

theorem speed_envelope_scan : InEnvelope 16 ∧ InEnvelope (-16) :=
  speed_envelope 120 [some { halfW := 320, camHalfW := 320, bucket := none, ball := none }] 16 (-16)
    (by decide +kernel)

end TR.Proof.Game
