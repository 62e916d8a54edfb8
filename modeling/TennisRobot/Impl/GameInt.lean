import TennisRobot.Framework.Checked
import TennisRobot.Framework.Failing
import TennisRobot.Impl.Game

/-!
# The main loop in 32 bits (`tennis.cpp`)

The loop of `Impl.Game` once more, with its `int`s of 32 bits: a step has no result where an
operation overflows, where a float that does not fit is converted to an `int`, or where
`align_off_buf` is written outside its bounds. What no operation on a variable can change, a
sum of constants or a speed within its clamps, is not checked.
-/

namespace TR.Impl.Game

open TR.Impl.Motor (MotorCall)

/-- `(int)x`. -/
def castIntChecked : FloatQuot → Option Int
  | .num q => checked (castInt q)
  | _ => none

/-- `bk_bias`, and `bias`, before they are clamped. -/
def biasInt (k : Rat) (halfW offset : Int) : Option Int := do
  let dist ← checked |offset|
  if dist ≤ CENTER_DEAD_ZONE then return 0 else castIntChecked (fdiv (k * offset) halfW)

/-! ## The bucket -/

def findBucketInt (s : LoopState) (f : Frame) : Option (LoopState × List Cmd) :=
  match f.bucket with
  | some _ => do
    let bucketConfirm ← checked (s.bucketConfirm + 1)
    let s := { s with bucketConfirm := bucketConfirm, bucketLostCnt := 0 }
    if s.bucketConfirm ≥ BUCKET_CONFIRM_CNT then
      return ({ s with gameState := .approachBucket, bucketConfirm := 0 }, [])
    else return (s, [.motor .standby])
  | none => do
    let bucketLostCnt ← checked (s.bucketLostCnt + 1)
    return ({ s with bucketConfirm := 0, bucketLostCnt := bucketLostCnt },
      [.motor (.drive BUCKET_SEARCH_SPD (-BUCKET_SEARCH_SPD))])

def bucketDriveInt (f : Frame) (br : BucketResult) : Option MotorCall := do
  let bkOff ← checked (br.cx - f.halfW)
  let bkBias ← biasInt BUCKET_K_TURN f.halfW bkOff
  let bkBias := max (-BUCKET_MAX_BIAS) (min BUCKET_MAX_BIAS bkBias)
  let bkSpd := if br.areaRatio ≥ BUCKET_AREA_BRAKE then BUCKET_BRAKE_SPD else BUCKET_APPROACH_SPD
  let bkL := max (-100) (min 100 (bkSpd + bkBias))
  let bkR := max (-100) (min 100 (bkSpd - bkBias))
  return .drive bkL bkR

def approachBucketInt (s : LoopState) (f : Frame) : Option (LoopState × List Cmd) :=
  match f.bucket with
  | none => do
    let bucketLostCnt ← checked (s.bucketLostCnt + 1)
    let s := { s with bucketLostCnt := bucketLostCnt }
    if s.bucketLostCnt > BUCKET_LOST_FRAMES then
      return ({ s with gameState := .findBucket, bucketConfirm := 0 }, [])
    else return (s, [.motor .standby])
  | some br =>
    let s := { s with bucketLostCnt := 0 }
    if br.areaRatio ≥ BUCKET_AREA_DEPOSIT then
      some ({ s with gameState := .deposit }, [.pulse .brake BRAKE_PULSE_US, .motor .standby])
    else do
      let drive ← bucketDriveInt f br
      return (s, [.motor drive])

/-! ## The ball -/

def confirmStopInt (s : LoopState) : Option (LoopState × List Cmd) := do
  let stopConfirmCnt ← checked (s.stopConfirmCnt + 1)
  let s := { s with stopConfirmCnt := stopConfirmCnt, alignCnt := 0, alignOffHead := 0 }
  if s.stopConfirmCnt ≥ STOP_CONFIRM_CNT then
    return (
      { s with stopped := true, gameState := .findBucket, bucketLostCnt := 0, bucketConfirm := 0 },
      [.pulse .brake BRAKE_PULSE_US, .motor .standby, .arm .grab])
  else return (s, [.motor .brake])

/-- `align_off_buf[align_off_head % STALL_BUF] = offset`. -/
def storeOffset (s : LoopState) (offset : Int) : Option (Vector Int STALL_BUF) :=
  let idx := s.alignOffHead.tmod STALL_BUF
  if 0 ≤ idx then some (s.alignOffBuf.set! idx.toNat offset) else none

def alignInt (s : LoopState) (camHalfW offset stopOff : Int) :
    Option (LoopState × List Cmd) := do
  let alignCnt ← checked (s.alignCnt + 1)
  let alignOffBuf ← storeOffset s offset
  let alignOffHead ← checked (s.alignOffHead + 1)
  let s := { s with
    stopConfirmCnt := 0
    alignCnt := alignCnt
    alignOffBuf := alignOffBuf
    alignOffHead := alignOffHead }
  let stalled ← if s.alignCnt ≥ ALIGN_STALL_FRAMES then do
      let span ← checked (stallSpan s.alignOffBuf (min s.alignCnt STALL_BUF))
      pure (decide (span < ALIGN_STALL_MOVE_PX))
    else pure false
  if stalled then
    let kick := if stopOff > 0 then ALIGN_KICK_SPD else -ALIGN_KICK_SPD
    return ({ s with alignOffHead := 0, alignCnt := 0 },
      [.pulse (.drive kick (-kick)) ALIGN_KICK_US, .motor .brake])
  else do
    let dist ← checked |stopOff|
    let t := min 1 ((dist : Int) / (camHalfW : Rat))
    let pivotSpd ← checked (castInt (ALIGN_PIVOT_MIN + t * (ALIGN_PIVOT_SPD - ALIGN_PIVOT_MIN)))
    let pivot := if stopOff > 0 then pivotSpd else -pivotSpd
    return (s, [.motor (.drive pivot (-pivot))])

def chaseDriveInt (camHalfW : Int) (areaRatio : Rat) (offset : Int) : Option MotorCall := do
  let spd := baseSpeed areaRatio
  let bias ← biasInt K_TURN camHalfW offset
  if areaRatio ≥ AREA_NEAR then
    let pivot := max (-MAX_TURN_BIAS_NEAR) (min MAX_TURN_BIAS_NEAR bias)
    return .drive pivot (-pivot)
  else
    let bias := max (-MAX_TURN_BIAS_FAR) (min MAX_TURN_BIAS_FAR bias)
    return .drive (max (-100) (min 100 (spd + bias))) (max (-100) (min 100 (spd - bias)))

def trackBallInt (stopCenterOffset : Int) (s : LoopState) (camHalfW : Int) (areaRatio : Rat)
    (offset : Int) : Option (LoopState × List Cmd) :=
  if areaRatio ≥ AREA_REVERSE then some (s, [.motor (reverseDrive offset)])
  else do
    let stopOff ← checked (offset - stopCenterOffset)
    if areaRatio ≥ AREA_STOP then
      let dist ← checked |stopOff|
      if dist ≤ STOP_CENTER_ZONE then confirmStopInt s
      else alignInt s camHalfW offset stopOff
    else
      let drive ← chaseDriveInt camHalfW areaRatio offset
      return ({ s with stopConfirmCnt := 0, alignCnt := 0, alignOffHead := 0 }, [.motor drive])

def chaseBallInt (stopCenterOffset : Int) (s : LoopState) (f : Frame) (b : Ball) :
    Option (LoopState × List Cmd) := do
  let offset ← checked (b.cx - f.camHalfW)
  let s := { s with lastOffset := offset, lastSeenFrame := s.frameIdx }
  if s.stopped then
    if b.areaRatio ≥ AREA_REVERSE ∨ b.areaRatio < AREA_STOP_EXIT then
      trackBallInt stopCenterOffset { s with stopped := false, stopConfirmCnt := 0 } f.camHalfW
        b.areaRatio offset
    else return (s, [.motor .standby])
  else trackBallInt stopCenterOffset s f.camHalfW b.areaRatio offset

def searchBallInt (s : LoopState) : Option MotorCall := do
  let _ ← checked (s.frameIdx - s.lastSeenFrame)
  return searchBall s

/-! ## The loop -/

def loopBodyInt (stopCenterOffset : Int) (s : LoopState) (f : Option Frame) :
    Option (LoopState × List Cmd) := do
  let frameIdx ← checked (s.frameIdx + 1)
  let s := { s with frameIdx := frameIdx }
  match f with
  | none => return (s, [])
  | some f =>
    match s.gameState with
    | .deposit => return depositBall s
    | .findBucket => findBucketInt s f
    | .approachBucket => approachBucketInt s f
    | .chaseBall =>
      match f.ball with
      | some b => chaseBallInt stopCenterOffset s f b
      | none => do
        let drive ← searchBallInt s
        return (s, [.motor drive])

/-- The loop, for a `g_stop_center_offset`. -/
def loopInt (stopCenterOffset : Int) : FailingMachine LoopState (Option Frame) Cmd :=
  ⟨loopBodyInt stopCenterOffset⟩

end TR.Impl.Game
