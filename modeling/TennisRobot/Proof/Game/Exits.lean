import TennisRobot.Impl.Game

/-!
# The exits of the loop body

`Exit g s f s' out` lists the ways an iteration can end: one constructor for
each way out of the loop body, with its guards, the state it leaves and the
commands it issues. An iteration takes one of them (`exit_of_loopBody`), so a
property of a step is proved by cases on its exit, never by unfolding the body.
-/

namespace TR.Proof.Game

open TR.Impl.Game
open TR.Impl.Motor (MotorCall)

/-- The state with its frame counted. -/
def tick (s : LoopState) : LoopState := { s with frameIdx := s.frameIdx + 1 }

/-- The offset of a ball in a frame. -/
def ballOffset (f : Frame) (b : Ball) : Int := b.cx - f.camHalfW

/-- The state with a ball's sighting noted. -/
def seen (s : LoopState) (f : Frame) (b : Ball) : LoopState :=
  { tick s with lastOffset := ballOffset f b, lastSeenFrame := s.frameIdx + 1 }

/-- The state in which a ball is tracked: a stopped robot resumes. -/
def resumed (s : LoopState) (f : Frame) (b : Ball) : LoopState :=
  if s.stopped then { seen s f b with stopped := false, stopConfirmCnt := 0 } else seen s f b

/-- Whether a ball is tracked: a stopped robot holds before a ball that is near. -/
def Tracked (s : LoopState) (b : Ball) : Prop :=
  s.stopped = true → AREA_REVERSE ≤ b.areaRatio ∨ b.areaRatio < AREA_STOP_EXIT

/-- A ball near enough to stop at, and not too near. -/
def InStopZone (b : Ball) : Prop := AREA_STOP ≤ b.areaRatio ∧ b.areaRatio < AREA_REVERSE

/-- `ALIGN`, before it is decided whether the robot has stalled. -/
def aligned (s : LoopState) (offset : Int) : LoopState :=
  { s with
    stopConfirmCnt := 0
    alignCnt := s.alignCnt + 1
    alignOffBuf := s.alignOffBuf.set! (s.alignOffHead.tmod STALL_BUF).toNat offset
    alignOffHead := s.alignOffHead + 1 }

/-- The stall test of `ALIGN`. -/
def Stalled (s : LoopState) : Prop :=
  ALIGN_STALL_FRAMES ≤ s.alignCnt ∧
    stallSpan s.alignOffBuf (min s.alignCnt STALL_BUF) < ALIGN_STALL_MOVE_PX

instance (s : LoopState) : Decidable (Stalled s) := inferInstanceAs (Decidable (_ ∧ _))

variable (g : Int)

/-- The ways out of the loop body. -/
inductive Exit (s : LoopState) : Option Frame → LoopState → List Cmd → Prop
  /-- No frame. -/
  | noFrame : Exit s none (tick s) []
  /-- `DEPOSIT`. -/
  | deposit {f : Frame} (hg : s.gameState = .deposit) :
    Exit s (some f)
      { tick s with
        gameState := .chaseBall, stopped := false, stopConfirmCnt := 0, alignCnt := 0,
        alignOffHead := 0, lastSeenFrame := -999, bucketLostCnt := 0, bucketConfirm := 0 }
      [.motor .standby, .arm .release, .arm .grabPos]
  /-- `FIND_BUCKET`, the last confirmation. -/
  | found {f : Frame} {br : BucketResult} (hg : s.gameState = .findBucket)
    (hb : f.bucket = some br) (hc : BUCKET_CONFIRM_CNT ≤ s.bucketConfirm + 1) :
    Exit s (some f)
      { tick s with gameState := .approachBucket, bucketConfirm := 0, bucketLostCnt := 0 } []
  /-- `FIND_BUCKET`, a confirmation before the last. -/
  | confirmBucket {f : Frame} {br : BucketResult} (hg : s.gameState = .findBucket)
    (hb : f.bucket = some br) (hc : s.bucketConfirm + 1 < BUCKET_CONFIRM_CNT) :
    Exit s (some f)
      { tick s with bucketConfirm := s.bucketConfirm + 1, bucketLostCnt := 0 } [.motor .standby]
  /-- `FIND_BUCKET` without a bucket. -/
  | turnForBucket {f : Frame} (hg : s.gameState = .findBucket) (hb : f.bucket = none) :
    Exit s (some f)
      { tick s with bucketConfirm := 0, bucketLostCnt := s.bucketLostCnt + 1 }
      [.motor (.drive BUCKET_SEARCH_SPD (-BUCKET_SEARCH_SPD))]
  /-- `APPROACH_BUCKET`, the bucket lost for too long. -/
  | lostBucket {f : Frame} (hg : s.gameState = .approachBucket) (hb : f.bucket = none)
    (hl : BUCKET_LOST_FRAMES < s.bucketLostCnt + 1) :
    Exit s (some f)
      { tick s with
        gameState := .findBucket, bucketConfirm := 0, bucketLostCnt := s.bucketLostCnt + 1 } []
  /-- `APPROACH_BUCKET`, the bucket lost. -/
  | missBucket {f : Frame} (hg : s.gameState = .approachBucket) (hb : f.bucket = none)
    (hl : s.bucketLostCnt + 1 ≤ BUCKET_LOST_FRAMES) :
    Exit s (some f) { tick s with bucketLostCnt := s.bucketLostCnt + 1 } [.motor .standby]
  /-- `APPROACH_BUCKET`, at the bucket. -/
  | atBucket {f : Frame} {br : BucketResult} (hg : s.gameState = .approachBucket)
    (hb : f.bucket = some br) (ha : BUCKET_AREA_DEPOSIT ≤ br.areaRatio) :
    Exit s (some f) { tick s with gameState := .deposit, bucketLostCnt := 0 }
      [.pulse .brake BRAKE_PULSE_US, .motor .standby]
  /-- `APPROACH_BUCKET`, on the way. -/
  | toBucket {f : Frame} {br : BucketResult} (hg : s.gameState = .approachBucket)
    (hb : f.bucket = some br) (ha : br.areaRatio < BUCKET_AREA_DEPOSIT) :
    Exit s (some f) { tick s with bucketLostCnt := 0 } [.motor (bucketDrive f br)]
  /-- The stopped state, before a ball that is near. -/
  | hold {f : Frame} {b : Ball} (hg : s.gameState = .chaseBall) (hb : f.ball = some b)
    (ht : ¬ Tracked s b) : Exit s (some f) (seen s f b) [.motor .standby]
  /-- `REVERSE`. -/
  | reverse {f : Frame} {b : Ball} (hg : s.gameState = .chaseBall) (hb : f.ball = some b)
    (ht : Tracked s b) (ha : AREA_REVERSE ≤ b.areaRatio) :
    Exit s (some f) (resumed s f b) [.motor (reverseDrive (ballOffset f b))]
  /-- The last stop confirmation, and the grab. -/
  | grab {f : Frame} {b : Ball} (hg : s.gameState = .chaseBall) (hb : f.ball = some b)
    (ht : Tracked s b) (ha : InStopZone b) (ho : |ballOffset f b - g| ≤ STOP_CENTER_ZONE)
    (hc : STOP_CONFIRM_CNT ≤ (resumed s f b).stopConfirmCnt + 1) :
    Exit s (some f)
      { resumed s f b with
        stopConfirmCnt := (resumed s f b).stopConfirmCnt + 1, alignCnt := 0, alignOffHead := 0,
        stopped := true, gameState := .findBucket, bucketLostCnt := 0, bucketConfirm := 0 }
      [.pulse .brake BRAKE_PULSE_US, .motor .standby, .arm .grab]
  /-- A stop confirmation before the last. -/
  | confirmStop {f : Frame} {b : Ball} (hg : s.gameState = .chaseBall) (hb : f.ball = some b)
    (ht : Tracked s b) (ha : InStopZone b) (ho : |ballOffset f b - g| ≤ STOP_CENTER_ZONE)
    (hc : (resumed s f b).stopConfirmCnt + 1 < STOP_CONFIRM_CNT) :
    Exit s (some f)
      { resumed s f b with
        stopConfirmCnt := (resumed s f b).stopConfirmCnt + 1, alignCnt := 0, alignOffHead := 0 }
      [.motor .brake]
  /-- `ALIGN`, with a kick. -/
  | kick {f : Frame} {b : Ball} {kick : Int} (hg : s.gameState = .chaseBall)
    (hb : f.ball = some b) (ht : Tracked s b) (ha : InStopZone b)
    (ho : STOP_CENTER_ZONE < |ballOffset f b - g|)
    (hs : Stalled (aligned (resumed s f b) (ballOffset f b)))
    (hk : kick = if ballOffset f b - g > 0 then ALIGN_KICK_SPD else -ALIGN_KICK_SPD) :
    Exit s (some f)
      { aligned (resumed s f b) (ballOffset f b) with alignOffHead := 0, alignCnt := 0 }
      [.pulse (.drive kick (-kick)) ALIGN_KICK_US, .motor .brake]
  /-- `ALIGN`. -/
  | align {f : Frame} {b : Ball} {pivot : Int} (hg : s.gameState = .chaseBall)
    (hb : f.ball = some b) (ht : Tracked s b) (ha : InStopZone b)
    (ho : STOP_CENTER_ZONE < |ballOffset f b - g|)
    (hs : ¬ Stalled (aligned (resumed s f b) (ballOffset f b)))
    (hp : pivot = if ballOffset f b - g > 0
      then castInt (ALIGN_PIVOT_MIN + min 1 ((|ballOffset f b - g| : Int) / (f.camHalfW : Rat)) *
        (ALIGN_PIVOT_SPD - ALIGN_PIVOT_MIN))
      else -castInt (ALIGN_PIVOT_MIN + min 1 ((|ballOffset f b - g| : Int) / (f.camHalfW : Rat)) *
        (ALIGN_PIVOT_SPD - ALIGN_PIVOT_MIN))) :
    Exit s (some f) (aligned (resumed s f b) (ballOffset f b)) [.motor (.drive pivot (-pivot))]
  /-- The chase. -/
  | chase {f : Frame} {b : Ball} (hg : s.gameState = .chaseBall) (hb : f.ball = some b)
    (ht : Tracked s b) (ha : b.areaRatio < AREA_STOP) :
    Exit s (some f)
      { resumed s f b with stopConfirmCnt := 0, alignCnt := 0, alignOffHead := 0 }
      [.motor (chaseDrive f.camHalfW b.areaRatio (ballOffset f b))]
  /-- `SEARCH` or `SCAN`. -/
  | search {f : Frame} (hg : s.gameState = .chaseBall) (hb : f.ball = none) :
    Exit s (some f) (tick s) [.motor (searchBall (tick s))]

variable {g} {s : LoopState}

/-! ## An iteration takes an exit -/

theorem findBucket_exit {f : Frame} (hg : s.gameState = .findBucket) :
    Exit g s (some f) (findBucket (tick s) f).1 (findBucket (tick s) f).2 := by
  unfold findBucket
  split
  · rename_i br hb
    dsimp only
    split
    · exact .found hg hb ‹_›
    · exact .confirmBucket hg hb (not_le.mp ‹_›)
  · exact .turnForBucket hg ‹_›

theorem approachBucket_exit {f : Frame} (hg : s.gameState = .approachBucket) :
    Exit g s (some f) (approachBucket (tick s) f).1 (approachBucket (tick s) f).2 := by
  unfold approachBucket
  split
  · dsimp only
    split
    · exact .lostBucket hg ‹_› ‹_›
    · exact .missBucket hg ‹_› (not_lt.mp ‹_›)
  · rename_i br hb
    dsimp only
    split
    · exact .atBucket hg hb ‹_›
    · exact .toBucket hg hb (not_le.mp ‹_›)

theorem trackBall_exit {f : Frame} {b : Ball} (hg : s.gameState = .chaseBall)
    (hb : f.ball = some b) (ht : Tracked s b) :
    Exit g s (some f) (trackBall g (resumed s f b) f.camHalfW b.areaRatio (ballOffset f b)).1
      (trackBall g (resumed s f b) f.camHalfW b.areaRatio (ballOffset f b)).2 := by
  unfold trackBall
  split
  · exact .reverse hg hb ht ‹_›
  · rename_i hr
    have hr := not_le.mp hr
    dsimp only
    split
    · rename_i hz
      unfold confirmStop
      dsimp only
      split
      · exact .grab hg hb ht ⟨hz.1, hr⟩ hz.2 ‹_›
      · exact .confirmStop hg hb ht ⟨hz.1, hr⟩ hz.2 (not_le.mp ‹_›)
    · split
      · rename_i hz
        unfold align
        dsimp only
        split
        · exact .kick hg hb ht ⟨hz.1, hr⟩ hz.2 ‹_› rfl
        · exact .align hg hb ht ⟨hz.1, hr⟩ hz.2 ‹_› rfl
      · rename_i h1 h2
        -- neither in front of the gripper nor beside it: the ball is not near
        refine .chase hg hb ht (lt_of_not_ge fun ha => ?_)
        rcases le_or_gt |ballOffset f b - g| STOP_CENTER_ZONE with ho | ho
        · exact h1 ⟨ha, ho⟩
        · exact h2 ⟨ha, ho⟩

theorem chaseBall_exit {f : Frame} {b : Ball} (hg : s.gameState = .chaseBall)
    (hb : f.ball = some b) :
    Exit g s (some f) (chaseBall g (tick s) f b).1 (chaseBall g (tick s) f b).2 := by
  by_cases ht : Tracked s b
  · have e : chaseBall g (tick s) f b =
        trackBall g (resumed s f b) f.camHalfW b.areaRatio (ballOffset f b) := by
      cases hs : s.stopped with
      | false => simp only [chaseBall, tick, resumed, seen, ballOffset, hs]; rfl
      | true => simp only [chaseBall, tick, resumed, seen, ballOffset, hs, ge_iff_le, ht hs, if_true]
    rw [e]
    exact trackBall_exit hg hb ht
  · have e : chaseBall g (tick s) f b = (seen s f b, [.motor .standby]) := by
      obtain ⟨hs, hn⟩ := Classical.not_imp.mp ht
      simp only [chaseBall, tick, seen, ballOffset, hs, ge_iff_le, hn, if_true, if_false]
    rw [e]
    exact .hold hg hb ht

/-! ## The loop body in each state -/

section LoopBody

variable {f : Frame}

theorem loopBody_deposit (hg : s.gameState = .deposit) :
    loopBody g s (some f) = depositBall (tick s) := by
  simp only [loopBody, hg, tick]

theorem loopBody_findBucket (hg : s.gameState = .findBucket) :
    loopBody g s (some f) = findBucket (tick s) f := by
  simp only [loopBody, hg, tick]

theorem loopBody_approachBucket (hg : s.gameState = .approachBucket) :
    loopBody g s (some f) = approachBucket (tick s) f := by
  simp only [loopBody, hg, tick]

theorem loopBody_chaseBall {b : Ball} (hg : s.gameState = .chaseBall) (hb : f.ball = some b) :
    loopBody g s (some f) = chaseBall g (tick s) f b := by
  simp only [loopBody, hg, hb, tick]

theorem loopBody_searchBall (hg : s.gameState = .chaseBall) (hb : f.ball = none) :
    loopBody g s (some f) = (tick s, [.motor (searchBall (tick s))]) := by
  simp only [loopBody, hg, hb, tick]

end LoopBody

/-- An iteration takes one of the exits. -/
theorem exit_of_loopBody (g : Int) (s : LoopState) (f : Option Frame) :
    Exit g s f (loopBody g s f).1 (loopBody g s f).2 := by
  cases f with
  | none => exact .noFrame
  | some f =>
    cases hg : s.gameState with
    | deposit => rw [loopBody_deposit hg]; exact .deposit hg
    | findBucket => rw [loopBody_findBucket hg]; exact findBucket_exit hg
    | approachBucket => rw [loopBody_approachBucket hg]; exact approachBucket_exit hg
    | chaseBall =>
      cases hb : f.ball with
      | some b => rw [loopBody_chaseBall hg hb]; exact chaseBall_exit hg hb
      | none => rw [loopBody_searchBall hg hb]; exact .search hg hb

end TR.Proof.Game
