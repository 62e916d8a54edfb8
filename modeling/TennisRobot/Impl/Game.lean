import TennisRobot.Framework.Machine
import TennisRobot.Framework.Float
import TennisRobot.Impl.Arm
import TennisRobot.Impl.Motor

/-!
# The main loop (`tennis.cpp`)

The loop of `main` as a machine (`loop`): a step is one iteration, its input
what the iteration sees of the world (`Frame`, or nothing when the capture
fails), its outputs the calls it makes of the motors and the arm. `main` moves
the arm home before the loop (`mainCmds`).

Floats are exact rationals, and `int`s integers. The pulses, `brake` or `drive`
called again and again until a time is over, are one command. The log, the
pauses and the frame's timing are left out; `g_arm` is never null in `main`.
-/

namespace TR.Impl.Game

open TR.Impl.Arm (ArmCall)
open TR.Impl.Motor (MotorCall)

def CHASE_SPEED_FAR : Int := 4

def AREA_FAR : Rat := 2 / 100
def AREA_NEAR : Rat := 35 / 100
def AREA_BRAKE : Rat := 20 / 100

def BRAKE_SPEED : Int := 3
def AREA_STOP : Rat := 28 / 100
def AREA_REVERSE : Rat := 50 / 100
def REVERSE_SPEED : Int := 2

def AREA_STOP_EXIT : Rat := 20 / 100
def STOP_CONFIRM_CNT : Int := 4
def BRAKE_PULSE_US : Int := 350000

def K_TURN : Rat := 6
def MAX_TURN_BIAS_FAR : Int := 3
def MAX_TURN_BIAS_NEAR : Int := 1
def CENTER_DEAD_ZONE : Int := 5
def STOP_CENTER_ZONE : Int := 20
def ALIGN_PIVOT_SPD : Int := 2
def ALIGN_PIVOT_MIN : Int := 2

def SEARCH_FRAMES : Int := 25
def SEARCH_PIVOT_SPD : Int := 3

def ALIGN_STALL_FRAMES : Int := 20
def ALIGN_STALL_MOVE_PX : Int := 10
def ALIGN_KICK_SPD : Int := 3
def ALIGN_KICK_US : Int := 180000

def BUCKET_AREA_DEPOSIT : Rat := 90 / 100
def BUCKET_AREA_BRAKE : Rat := 70 / 100
def BUCKET_APPROACH_SPD : Int := 4
def BUCKET_BRAKE_SPD : Int := 2
def BUCKET_K_TURN : Rat := 5
def BUCKET_MAX_BIAS : Int := 3
def BUCKET_SEARCH_SPD : Int := 3
def BUCKET_LOST_FRAMES : Int := 10
def BUCKET_CONFIRM_CNT : Int := 3

def STALL_BUF : Nat := 30

/-- `GameState`. -/
inductive GameState
  | chaseBall
  | findBucket
  | approachBucket
  | deposit
deriving DecidableEq, Repr

/-- The variables of `main` that live across iterations of the loop. -/
structure LoopState where
  frameIdx : Int := 0
  lastOffset : Int := 0
  lastSeenFrame : Int := -999
  stopped : Bool := false
  stopConfirmCnt : Int := 0
  alignCnt : Int := 0
  alignOffBuf : Vector Int STALL_BUF := Vector.replicate STALL_BUF 0
  alignOffHead : Int := 0
  gameState : GameState := .chaseBall
  bucketLostCnt : Int := 0
  bucketConfirm : Int := 0
deriving DecidableEq, Repr

/-- The red bucket, as `detect_bucket_bgr` finds it (`BucketResult`). -/
structure BucketResult where
  areaRatio : Rat
  cx : Int
  cy : Int
  x : Int
  y : Int
  w : Int
  h : Int
deriving DecidableEq, Repr

/-- The best ball of a frame: its `area_ratio` and its `ball_cx`. -/
structure Ball where
  areaRatio : Rat
  cx : Int
deriving DecidableEq, Repr

/-- What an iteration sees of a captured frame: half the widths of the frame
and of the camera's picture, the bucket when one is visible, and the best ball
when one is detected. -/
structure Frame where
  halfW : Int
  camHalfW : Int
  bucket : Option BucketResult
  ball : Option Ball
deriving DecidableEq, Repr

/-- A command of the loop. -/
inductive Cmd
  | motor (c : MotorCall)
  /-- `while (elapsed_us(t) < us) { c; usleep(20000); }` -/
  | pulse (c : MotorCall) (us : Int)
  | arm (c : ArmCall)
deriving DecidableEq, Repr

/-- `base_speed`: the nearer, the slower. -/
def baseSpeed (areaRatio : Rat) : Int :=
  if areaRatio ≥ AREA_BRAKE then BRAKE_SPEED
  else
    let t := (areaRatio - AREA_FAR) / (AREA_BRAKE - AREA_FAR)
    let t := max 0 (min 1 t)
    castInt (CHASE_SPEED_FAR + t * (BRAKE_SPEED - CHASE_SPEED_FAR))

/-! ## The bucket -/

/-- `DEPOSIT`: release the ball, go back to the ready position and start the
next round. -/
def depositBall (s : LoopState) : LoopState × List Cmd :=
  ({ s with
      gameState := .chaseBall
      stopped := false
      stopConfirmCnt := 0
      alignCnt := 0
      alignOffHead := 0
      lastSeenFrame := -999
      bucketLostCnt := 0
      bucketConfirm := 0 },
    [.motor .standby, .arm .release, .arm .grabPos])

/-- `FIND_BUCKET`. -/
def findBucket (s : LoopState) (f : Frame) : LoopState × List Cmd :=
  match f.bucket with
  | some _ =>
    let s := { s with bucketConfirm := s.bucketConfirm + 1, bucketLostCnt := 0 }
    if s.bucketConfirm ≥ BUCKET_CONFIRM_CNT then
      ({ s with gameState := .approachBucket, bucketConfirm := 0 }, [])
    else (s, [.motor .standby])
  | none =>
    ({ s with bucketConfirm := 0, bucketLostCnt := s.bucketLostCnt + 1 },
      [.motor (.drive BUCKET_SEARCH_SPD (-BUCKET_SEARCH_SPD))])

/-- The speeds of `APPROACH_BUCKET` towards a bucket. -/
def bucketDrive (f : Frame) (br : BucketResult) : MotorCall :=
  let bkOff := br.cx - f.halfW
  let bkBias := if |bkOff| ≤ CENTER_DEAD_ZONE then 0 else castInt (BUCKET_K_TURN * bkOff / f.halfW)
  let bkBias := max (-BUCKET_MAX_BIAS) (min BUCKET_MAX_BIAS bkBias)
  let bkSpd := if br.areaRatio ≥ BUCKET_AREA_BRAKE then BUCKET_BRAKE_SPD else BUCKET_APPROACH_SPD
  let bkL := max (-100) (min 100 (bkSpd + bkBias))
  let bkR := max (-100) (min 100 (bkSpd - bkBias))
  .drive bkL bkR

/-- `APPROACH_BUCKET`. -/
def approachBucket (s : LoopState) (f : Frame) : LoopState × List Cmd :=
  match f.bucket with
  | none =>
    let s := { s with bucketLostCnt := s.bucketLostCnt + 1 }
    if s.bucketLostCnt > BUCKET_LOST_FRAMES then
      ({ s with gameState := .findBucket, bucketConfirm := 0 }, [])
    else (s, [.motor .standby])
  | some br =>
    let s := { s with bucketLostCnt := 0 }
    if br.areaRatio ≥ BUCKET_AREA_DEPOSIT then
      ({ s with gameState := .deposit }, [.pulse .brake BRAKE_PULSE_US, .motor .standby])
    else (s, [.motor (bucketDrive f br)])

/-! ## The ball -/

/-- Backwards, away from a ball that is too near. -/
def reverseDrive (offset : Int) : MotorCall :=
  let revL := if offset > CENTER_DEAD_ZONE then -REVERSE_SPEED + 1
    else if offset < -CENTER_DEAD_ZONE then -REVERSE_SPEED - 1 else -REVERSE_SPEED
  let revR := if offset > CENTER_DEAD_ZONE then -REVERSE_SPEED - 1
    else if offset < -CENTER_DEAD_ZONE then -REVERSE_SPEED + 1 else -REVERSE_SPEED
  .drive revL revR

/-- Near enough, and in front of the gripper: after `STOP_CONFIRM_CNT` such
frames, stop and grab. -/
def confirmStop (s : LoopState) : LoopState × List Cmd :=
  let s := { s with stopConfirmCnt := s.stopConfirmCnt + 1, alignCnt := 0, alignOffHead := 0 }
  if s.stopConfirmCnt ≥ STOP_CONFIRM_CNT then
    ({ s with stopped := true, gameState := .findBucket, bucketLostCnt := 0, bucketConfirm := 0 },
      [.pulse .brake BRAKE_PULSE_US, .motor .standby, .arm .grab])
  else (s, [.motor .brake])

/-- `mx - mn` over the first `check` slots of the ring buffer. -/
def stallSpan (buf : Vector Int STALL_BUF) (check : Int) : Int :=
  let (mn, mx) := (List.range' 1 (check.toNat - 1)).foldl
    (fun (mn, mx) i =>
      let v := buf.toList.getD i 0
      (if v < mn then v else mn, if v > mx then v else mx))
    (buf.toList.getD 0 0, buf.toList.getD 0 0)
  mx - mn

/-- Near enough, but not in front of the gripper: turn on the spot, with a kick
when the last offsets show no movement. -/
def align (s : LoopState) (camHalfW offset stopOff : Int) : LoopState × List Cmd :=
  let s := { s with
    stopConfirmCnt := 0
    alignCnt := s.alignCnt + 1
    alignOffBuf := s.alignOffBuf.set! (s.alignOffHead.tmod STALL_BUF).toNat offset
    alignOffHead := s.alignOffHead + 1 }
  let stalled := s.alignCnt ≥ ALIGN_STALL_FRAMES ∧
    stallSpan s.alignOffBuf (min s.alignCnt STALL_BUF) < ALIGN_STALL_MOVE_PX
  if stalled then
    let kick := if stopOff > 0 then ALIGN_KICK_SPD else -ALIGN_KICK_SPD
    ({ s with alignOffHead := 0, alignCnt := 0 },
      [.pulse (.drive kick (-kick)) ALIGN_KICK_US, .motor .brake])
  else
    let t := min 1 ((|stopOff| : Int) / (camHalfW : Rat))
    let pivotSpd := castInt (ALIGN_PIVOT_MIN + t * (ALIGN_PIVOT_SPD - ALIGN_PIVOT_MIN))
    let pivot := if stopOff > 0 then pivotSpd else -pivotSpd
    (s, [.motor (.drive pivot (-pivot))])

/-- The speeds towards a ball that is not near yet. -/
def chaseDrive (camHalfW : Int) (areaRatio : Rat) (offset : Int) : MotorCall :=
  let spd := baseSpeed areaRatio
  let bias := if |offset| ≤ CENTER_DEAD_ZONE then 0 else castInt (K_TURN * offset / camHalfW)
  if areaRatio ≥ AREA_NEAR then
    let pivot := max (-MAX_TURN_BIAS_NEAR) (min MAX_TURN_BIAS_NEAR bias)
    .drive pivot (-pivot)
  else
    let bias := max (-MAX_TURN_BIAS_FAR) (min MAX_TURN_BIAS_FAR bias)
    .drive (max (-100) (min 100 (spd + bias))) (max (-100) (min 100 (spd - bias)))

/-- A detected ball, outside the stopped state: `REVERSE`, the stop condition,
`ALIGN` and the chase. -/
def trackBall (stopCenterOffset : Int) (s : LoopState) (camHalfW : Int) (areaRatio : Rat)
    (offset : Int) : LoopState × List Cmd :=
  if areaRatio ≥ AREA_REVERSE then (s, [.motor (reverseDrive offset)])
  else
    let stopOff := offset - stopCenterOffset
    if areaRatio ≥ AREA_STOP ∧ |stopOff| ≤ STOP_CENTER_ZONE then confirmStop s
    else if areaRatio ≥ AREA_STOP ∧ |stopOff| > STOP_CENTER_ZONE then align s camHalfW offset stopOff
    else
      ({ s with stopConfirmCnt := 0, alignCnt := 0, alignOffHead := 0 },
        [.motor (chaseDrive camHalfW areaRatio offset)])

/-- `CHASE_BALL` with a detection: the stopped state is left only for a ball
that is too near, or far. -/
def chaseBall (stopCenterOffset : Int) (s : LoopState) (f : Frame) (b : Ball) :
    LoopState × List Cmd :=
  let offset := b.cx - f.camHalfW
  let s := { s with lastOffset := offset, lastSeenFrame := s.frameIdx }
  if s.stopped then
    if b.areaRatio ≥ AREA_REVERSE ∨ b.areaRatio < AREA_STOP_EXIT then
      trackBall stopCenterOffset { s with stopped := false, stopConfirmCnt := 0 } f.camHalfW
        b.areaRatio offset
    else (s, [.motor .standby])
  else trackBall stopCenterOffset s f.camHalfW b.areaRatio offset

/-- `CHASE_BALL` without a detection: `SEARCH` where the ball was last seen, or
`SCAN`. -/
def searchBall (s : LoopState) : MotorCall :=
  let framesLost := s.frameIdx - s.lastSeenFrame
  if s.lastSeenFrame ≥ 0 ∧ framesLost ≤ SEARCH_FRAMES then
    let pivot := if s.lastOffset ≥ 0 then SEARCH_PIVOT_SPD else -SEARCH_PIVOT_SPD
    .drive pivot (-pivot)
  else
    let scanDir := if (s.frameIdx.tdiv 60).tmod 2 = 0 then 1 else -1
    .drive (scanDir * SEARCH_PIVOT_SPD) (-scanDir * SEARCH_PIVOT_SPD)

/-! ## The loop -/

/-- An iteration of the loop. -/
def loopBody (stopCenterOffset : Int) (s : LoopState) (f : Option Frame) : LoopState × List Cmd :=
  let s := { s with frameIdx := s.frameIdx + 1 }
  match f with
  | none => (s, [])
  | some f =>
    match s.gameState with
    | .deposit => depositBall s
    | .findBucket => findBucket s f
    | .approachBucket => approachBucket s f
    | .chaseBall =>
      match f.ball with
      | some b => chaseBall stopCenterOffset s f b
      | none => (s, [.motor (searchBall s)])

/-- The loop, for a `g_stop_center_offset`. -/
def loop (stopCenterOffset : Int) : Machine LoopState (Option Frame) Cmd :=
  ⟨loopBody stopCenterOffset⟩

/-- The variables before the first iteration. -/
def LoopState.init : LoopState := {}

/-- Everything `main` has commanded when the loop has seen `fs`. -/
def mainCmds (stopCenterOffset : Int) (fs : List (Option Frame)) : List Cmd :=
  .arm .grabPos :: (loop stopCenterOffset).outputs .init fs

end TR.Impl.Game
