import TennisRobot.Proof.Game.Drives
import TennisRobot.Proof.Game.StopConfirm

/-!
# Steering

In `CHASE_BALL` the robot never drives forward towards a ball that is near, and never
stops or goes back before one that is not (`chase_drives`). Towards a ball, and towards
the bucket, it is to turn when its target is outside the dead zone of 5 pixels. The
correction is a gain times the offset over half the width of the picture, and an `int`:
below one it is lost, and both wheels turn alike (`chase_without_steering`). A correction
of one or more reaches the wheels through all of the maps behind it
(`steers_iff`), so that the robot steers exactly from there on (`steering_iff`).
-/

namespace TR.Proof.Game

open TR.Impl.Game TR.Impl.Motor
open TR.Proof.Motor

/-! ## The exit of a drive -/

section Exits

variable {g : Int} {s s' : LoopState} {f : Frame} {out : List Cmd} (h : Exit g s (some f) s' out)

include h

/-- A ball that is not near is chased. -/
theorem Exit.chase_of_far (hi : LoopInv s) {b : Ball} (hg : s.gameState = .chaseBall)
    (hb : f.ball = some b) (ha : b.areaRatio < AREA_STOP) :
    out = [.motor (chaseDrive f.camHalfW b.areaRatio (ballOffset f b))] := by
  have hrev : b.areaRatio < AREA_REVERSE := lt_trans ha (by norm_num [AREA_STOP, AREA_REVERSE])
  cases h with
  | chase hg' hb' => rw [Option.some.inj (hb.symm.trans hb')]
  | hold hg' hb' ht => exact absurd (hi.tracked hg' _) ht
  | reverse hg' hb' ht ha' =>
    cases Option.some.inj (hb.symm.trans hb')
    exact absurd ha' (not_le.mpr hrev)
  | grab hg' hb' ht hz | confirmStop hg' hb' ht hz | kick hg' hb' ht hz | align hg' hb' ht hz =>
    cases Option.some.inj (hb.symm.trans hb')
    exact absurd hz.1 (not_le.mpr ha)
  | search hg' hb' => cases hb.symm.trans hb'
  | deposit hg' | found hg' | confirmBucket hg' | turnForBucket hg' | lostBucket hg'
  | missBucket hg' | atBucket hg' | toBucket hg' => cases hg.symm.trans hg'

/-- A bucket that is not near is approached. -/
theorem Exit.toBucket_of_far {br : BucketResult} (hg : s.gameState = .approachBucket)
    (hb : f.bucket = some br) (ha : br.areaRatio < BUCKET_AREA_DEPOSIT) :
    out = [.motor (bucketDrive f br)] := by
  cases h with
  | toBucket hg' hb' => rw [Option.some.inj (hb.symm.trans hb')]
  | atBucket hg' hb' ha' =>
    cases Option.some.inj (hb.symm.trans hb')
    exact absurd ha' (not_le.mpr ha)
  | lostBucket hg' hb' | missBucket hg' hb' => cases hb.symm.trans hb'
  | deposit hg' | found hg' | confirmBucket hg' | turnForBucket hg' | hold hg' | reverse hg'
  | grab hg' | confirmStop hg' | kick hg' | align hg' | chase hg' | search hg' =>
    cases hg.symm.trans hg'

end Exits

/-! ## Near and far balls -/

/-- Whether the guards before the chase let a ball pass. -/
def ReachesChase (g : Int) (s : LoopState) (f : Frame) (b : Ball) : Prop :=
  Tracked s b ∧ ¬ AREA_REVERSE ≤ b.areaRatio ∧
    ¬ (AREA_STOP ≤ b.areaRatio ∧ |ballOffset f b - g| ≤ STOP_CENTER_ZONE) ∧
    ¬ (AREA_STOP ≤ b.areaRatio ∧ STOP_CENTER_ZONE < |ballOffset f b - g|)

/-- Such a ball is not near. -/
theorem ReachesChase.far {g : Int} {s : LoopState} {f : Frame} {b : Ball}
    (h : ReachesChase g s f b) : b.areaRatio < AREA_STOP := by
  obtain ⟨-, -, hin, hout⟩ := h
  refine lt_of_not_ge fun ha => ?_
  rcases Int.lt_or_le STOP_CENTER_ZONE |ballOffset f b - g| with ho | ho
  · exact hout ⟨ha, ho⟩
  · exact hin ⟨ha, ho⟩

/-- A call of the driver that does not take the robot forward. -/
def NotForward : DriverCall → Prop
  | .drive l r => l + r ≤ 0
  | .brake => True
  | .standby => True

/-- A call that asks for no forward speed does not take the robot forward. -/
theorem notForward_driverCall {c : MotorCall} (h : ∀ l r, c = .drive l r → l + r ≤ 0) :
    NotForward (c.driverCall 15) := by
  cases c with
  | drive l r => exact mapSpeed_add_nonpos (by decide) (by decide) (h l r rfl)
  | brake => trivial
  | standby => trivial

theorem reverseDrive_nonpos {offset l r : Int} (h : reverseDrive offset = .drive l r) :
    l + r ≤ 0 := by
  unfold reverseDrive REVERSE_SPEED at h
  obtain ⟨rfl, rfl⟩ := MotorCall.drive.inj h
  split_ifs <;> omega

/-- Before a near ball nothing takes the robot forward. -/
theorem Exit.notForward {g : Int} {s s' : LoopState} {f : Frame} {out : List Cmd}
    (h : Exit g s (some f) s' out) {b : Ball} (hg : s.gameState = .chaseBall)
    (hb : f.ball = some b) (ha : AREA_STOP ≤ b.areaRatio) : ∀ c ∈ driverCalls out, NotForward c := by
  have against (k : Int) : NotForward ((MotorCall.drive k (-k)).driverCall 15) :=
    notForward_driverCall fun l r h => by
      obtain ⟨rfl, rfl⟩ := MotorCall.drive.inj h
      omega
  cases h with
  | hold | confirmStop => simp [driverCalls, motorCall?, NotForward, MotorCall.driverCall]
  | grab => simp [driverCalls, motorCall?, NotForward, MotorCall.driverCall]
  | reverse =>
    intro c hc
    rw [List.mem_singleton.mp hc]
    exact notForward_driverCall fun l r => reverseDrive_nonpos
  | kick =>
    intro c hc
    rcases List.mem_pair.mp hc with rfl | rfl
    · apply against
    · trivial
  | align =>
    intro c hc
    rw [List.mem_singleton.mp hc]
    apply against
  | chase hg' hb' ht ha' =>
    cases Option.some.inj (hb.symm.trans hb')
    exact absurd ha (not_le.mpr ha')
  | search hg' hb' => cases hb.symm.trans hb'
  | deposit hg' | found hg' | confirmBucket hg' | turnForBucket hg' | lostBucket hg'
  | missBucket hg' | atBucket hg' | toBucket hg' => cases hg.symm.trans hg'

/-- Towards a far ball both wheels go forward, or one does and the other stands. -/
theorem chaseDrive_forward (camHalfW : Int) {areaRatio : Rat} (ha : areaRatio < AREA_NEAR)
    (offset : Int) : ∃ l r, chaseDrive camHalfW areaRatio offset = .drive l r ∧
      0 ≤ mapSpeed 15 l ∧ 0 ≤ mapSpeed 15 r ∧ 0 < mapSpeed 15 l + mapSpeed 15 r := by
  refine ⟨_, _, chaseDrive_eq camHalfW ha offset, ?_⟩
  have hspd := baseSpeed_bounds areaRatio
  have hbias := turnBias_bounds K_TURN camHalfW offset
  generalize turnBias K_TURN camHalfW offset = bias at hbias ⊢
  generalize baseSpeed areaRatio = spd at hspd ⊢
  have hl := mapSpeed_neg_iff (m := 15) (v := spd + bias) (by decide) (by decide)
  have hr := mapSpeed_neg_iff (m := 15) (v := spd - bias) (by decide) (by decide)
  have hl' := mapSpeed_pos_iff (m := 15) (v := spd + bias) (by decide) (by decide)
  have hr' := mapSpeed_pos_iff (m := 15) (v := spd - bias) (by decide) (by decide)
  omega

/-- Before a ball that is near, no command of a frame takes the robot forward. Before
one that is not, the only command is a drive that does, and the near branch of the
chase is not reached. -/
theorem chase_drives (g : Int) (fs : List (Option Frame)) (f : Frame) (b : Ball)
    (hg : ((loop g).run .init fs).gameState = .chaseBall) (hb : f.ball = some b) :
    (AREA_STOP ≤ b.areaRatio →
      ∀ c ∈ driverCalls (loopBody g ((loop g).run .init fs) (some f)).2, NotForward c) ∧
    (b.areaRatio < AREA_STOP →
      ∃ l r, (loopBody g ((loop g).run .init fs) (some f)).2 = [.motor (.drive l r)] ∧
        0 ≤ mapSpeed 15 l ∧ 0 ≤ mapSpeed 15 r ∧ 0 < mapSpeed 15 l + mapSpeed 15 r) ∧
    (ReachesChase g ((loop g).run .init fs) f b →
      (loopBody g ((loop g).run .init fs) (some f)).2 =
          [.motor (chaseDrive f.camHalfW b.areaRatio (ballOffset f b))] ∧
        b.areaRatio < AREA_NEAR) := by
  have hexit := exit_of_loopBody g ((loop g).run .init fs) (some f)
  have hi := loopInv_run g fs
  have hstop : AREA_STOP < AREA_NEAR := by norm_num [AREA_STOP, AREA_NEAR]
  refine ⟨hexit.notForward hg hb, fun ha => ?_, fun h => ?_⟩
  · obtain ⟨l, r, hd, hpos⟩ := chaseDrive_forward f.camHalfW (lt_trans ha hstop) (ballOffset f b)
    refine ⟨l, r, ?_, hpos⟩
    rw [hexit.chase_of_far hi hg hb ha, hd]
  · have ha := h.far
    exact ⟨hexit.chase_of_far hi hg hb ha, lt_trans ha hstop⟩

theorem chase_drives_near :
    (AREA_STOP ≤ (3 / 10 : Rat) →
      ∀ c ∈ driverCalls (loopBody 120 ((loop 120).run .init []) (some ballInFront)).2,
        NotForward c) ∧
    ((3 / 10 : Rat) < AREA_STOP →
      ∃ l r, (loopBody 120 ((loop 120).run .init []) (some ballInFront)).2 = [.motor (.drive l r)] ∧
        0 ≤ mapSpeed 15 l ∧ 0 ≤ mapSpeed 15 r ∧ 0 < mapSpeed 15 l + mapSpeed 15 r) ∧
    (ReachesChase 120 ((loop 120).run .init []) ballInFront { areaRatio := 3 / 10, cx := 440 } →
      (loopBody 120 ((loop 120).run .init []) (some ballInFront)).2 =
          [.motor (chaseDrive 320 (3 / 10) 120)] ∧
        (3 / 10 : Rat) < AREA_NEAR) :=
  chase_drives 120 [] ballInFront { areaRatio := 3 / 10, cx := 440 } rfl rfl

/-! ## Steering -/

/-- The wheels turn the robot towards a target. -/
def Steers (offset l r : Int) : Prop :=
  (0 < offset → sentSpeed 15 r < sentSpeed 15 l) ∧ (offset < 0 → sentSpeed 15 l < sentSpeed 15 r)

instance (offset l r : Int) : Decidable (Steers offset l r) := inferInstanceAs (Decidable (_ ∧ _))

section TurnBias

variable {k halfW offset : Int} (hw : 1 ≤ halfW) (ho : CENTER_DEAD_ZONE < |offset|)

include hw ho

theorem turnBias_pos_iff : 0 < turnBias k halfW offset ↔ halfW ≤ k * offset := by
  have hq : (k * offset / halfW : Rat) = ((k * offset : Int) : Rat) / halfW := by push_cast; rfl
  unfold turnBias
  rw [if_neg (not_le.mpr ho), hq, ← castInt_div_pos_iff (by omega)]
  omega

theorem turnBias_neg_iff : turnBias k halfW offset < 0 ↔ halfW ≤ -(k * offset) := by
  have hq : (k * offset / halfW : Rat) = ((k * offset : Int) : Rat) / halfW := by push_cast; rfl
  unfold turnBias
  rw [if_neg (not_le.mpr ho), hq, ← castInt_div_neg_iff (by omega)]
  omega

end TurnBias

/-- A bias towards the target reaches the wheels. -/
theorem steers_iff {spd bias offset : Int} (hs : 2 ≤ spd ∧ spd ≤ 4) (hb : -3 ≤ bias ∧ bias ≤ 3) :
    Steers offset (spd + bias) (spd - bias) ↔
      (0 < offset → 0 < bias) ∧ (offset < 0 → bias < 0) := by
  have hpos (h : 0 < bias) : sentSpeed 15 (spd - bias) < sentSpeed 15 (spd + bias) :=
    sentSpeed_lt (by omega) (by omega) (by omega)
  have hneg (h : bias < 0) : sentSpeed 15 (spd + bias) < sentSpeed 15 (spd - bias) :=
    sentSpeed_lt (by omega) (by omega) (by omega)
  have hzero (h : bias = 0) : sentSpeed 15 (spd + bias) = sentSpeed 15 (spd - bias) := by
    rw [h, Int.add_zero, Int.sub_zero]
  unfold Steers
  rcases Int.lt_trichotomy bias 0 with h | h | h
  · have := hneg h
    omega
  · have := hzero h
    omega
  · have := hpos h
    omega

/-- The turn towards a target reaches the wheels from an offset on that makes up for half
the width of the picture. -/
theorem steers_turnBias_iff {spd k halfW offset : Int} (hs : 2 ≤ spd ∧ spd ≤ 4) (hw : 1 ≤ halfW)
    (ho : CENTER_DEAD_ZONE < |offset|) :
    Steers offset (spd + turnBias k halfW offset) (spd - turnBias k halfW offset) ↔
      halfW ≤ k * |offset| := by
  have hp := turnBias_pos_iff (k := k) hw ho
  have hn := turnBias_neg_iff (k := k) hw ho
  rw [steers_iff hs (turnBias_bounds _ _ _), hp, hn]
  unfold CENTER_DEAD_ZONE at ho
  rcases Int.lt_or_le offset 0 with h | h
  · rw [abs_of_neg h] at ho ⊢
    rw [Int.mul_neg]
    omega
  · rw [abs_of_nonneg h] at ho ⊢
    omega

/-- Outside the dead zone the robot steers towards a ball it chases, and towards a bucket it
approaches, exactly when the gain times the offset makes up for half the width of the
picture. -/
theorem steering_iff (g : Int) (fs : List (Option Frame)) (f : Frame) :
    (∀ b : Ball, ((loop g).run .init fs).gameState = .chaseBall → f.ball = some b →
      b.areaRatio < AREA_STOP → 1 ≤ f.camHalfW → CENTER_DEAD_ZONE < |ballOffset f b| →
      ∃ l r, (loopBody g ((loop g).run .init fs) (some f)).2 = [.motor (.drive l r)] ∧
        (Steers (ballOffset f b) l r ↔ (f.camHalfW : Rat) ≤ K_TURN * (|ballOffset f b| : Int))) ∧
    (∀ br : BucketResult, ((loop g).run .init fs).gameState = .approachBucket →
      f.bucket = some br → br.areaRatio < BUCKET_AREA_DEPOSIT → 1 ≤ f.halfW →
      CENTER_DEAD_ZONE < |br.cx - f.halfW| →
      ∃ l r, (loopBody g ((loop g).run .init fs) (some f)).2 = [.motor (.drive l r)] ∧
        (Steers (br.cx - f.halfW) l r ↔
          (f.halfW : Rat) ≤ BUCKET_K_TURN * (|br.cx - f.halfW| : Int))) := by
  have hexit := exit_of_loopBody g ((loop g).run .init fs) (some f)
  refine ⟨fun b hg hb ha hw ho => ?_, fun br hg hb ha hw ho => ?_⟩
  · have hk : K_TURN = ((6 : Int) : Rat) := by norm_num [K_TURN]
    have hspd := baseSpeed_bounds b.areaRatio
    have hnear : b.areaRatio < AREA_NEAR := lt_trans ha (by norm_num [AREA_STOP, AREA_NEAR])
    refine ⟨_, _, (hexit.chase_of_far (loopInv_run g fs) hg hb ha).trans
      (congrArg (fun c => [Cmd.motor c]) (chaseDrive_eq f.camHalfW hnear (ballOffset f b))), ?_⟩
    rw [hk, steers_turnBias_iff (by omega) hw ho]
    exact_mod_cast Iff.rfl
  · have hk : BUCKET_K_TURN = ((5 : Int) : Rat) := by norm_num [BUCKET_K_TURN]
    have hspd := bucketSpeed_bounds br
    refine ⟨_, _, (hexit.toBucket_of_far hg hb ha).trans
      (congrArg (fun c => [Cmd.motor c]) (bucketDrive_eq f br)), ?_⟩
    rw [hk, steers_turnBias_iff hspd hw ho]
    exact_mod_cast Iff.rfl

/-- A frame with a ball 20 pixels to the right of the middle. -/
def ballToTheRight : Frame :=
  { halfW := 320, camHalfW := 320, bucket := none, ball := some { areaRatio := 1 / 10, cx := 340 } }

/-- A ball outside the dead zone, and both wheels turn alike. -/
theorem chase_without_steering :
    CENTER_DEAD_ZONE < 340 - ballToTheRight.camHalfW ∧
      (loopBody 120 ((loop 120).run .init []) (some ballToTheRight)).2 = [.motor (.drive 3 3)] ∧
      ¬ Steers (340 - ballToTheRight.camHalfW) 3 3 := by
  decide +kernel

end TR.Proof.Game
