import TennisRobot.Impl.Motor

/-!
# What the wheels are told

A wheel goes forward or backward, is off, or is braked (`WheelState`). The
chassis controller is told so by a command for each wheel, 0 on the left and 1
on the right (`WheelCmd`), in a frame whose command and payload are read as
`uart_motor_driver.hpp` describes them (`decode`); the H-bridge, by the two
channels of the wheel (`bridgeState`). `told` is what each call of the `Motor`
API is to tell the two wheels, and `SpeedCode` what a code for speeds must keep of
them.
-/

namespace TR.Spec

open TR.Impl.Motor (ApiCall)

/-- The state of a wheel. -/
inductive WheelState
  | forward
  | backward
  | off
  | braking
deriving DecidableEq, Repr

/-- The state in which a speed puts a wheel. -/
def speedState (speed : Int) : WheelState :=
  if speed > 0 then .forward else if speed < 0 then .backward else .off

/-! ## The controller -/

/-- A command for a wheel. -/
inductive WheelCmd
  | speed (v : Int)
  | brake
  | stop
deriving DecidableEq, Repr

/-- The state a wheel is in after a command. -/
def WheelCmd.state : WheelCmd → WheelState
  | .speed v => speedState v
  | .brake => .braking
  | .stop => .off

/-- An `int16`, the high byte first. -/
def int16BE (hi lo : UInt8) : Int :=
  let v : Int := 256 * hi.toNat + lo.toNat
  if v < 32768 then v else v - 65536

/-- The wheel and the command of a frame: `CMD_SET_SPEED` with `motor_id(1B)`
and `speed(int16 BE)`, `CMD_STOP` and `CMD_BRAKE` with `motor_id`. -/
def decode (cmd : UInt8) (payload : List UInt8) : Option (UInt8 × WheelCmd) :=
  match payload with
  | [id, hi, lo] => if cmd = 0x10 then some (id, .speed (int16BE hi lo)) else none
  | [id] =>
    if cmd = 0x11 then some (id, .stop)
    else if cmd = 0x12 then some (id, .brake)
    else none
  | _ => none

/-- The last command for a wheel. -/
def lastCmd (id : UInt8) (cmds : List (UInt8 × WheelCmd)) : Option WheelCmd :=
  (cmds.reverse.find? (·.1 = id)).map Prod.snd

/-! ## The H-bridge -/

/-- The state in which the enables of its two channels put a wheel. -/
def bridgeState (forward backward : Bool) : WheelState :=
  match forward, backward with
  | true, false => .forward
  | false, true => .backward
  | false, false => .off
  | true, true => .braking

/-! ## The calls -/

/-- A speed of the range of `Motor`. -/
def SpeedInRange (v : Int) : Prop := -100 ≤ v ∧ v ≤ 100

/-- The arguments of a call are speeds of the range of `Motor`. -/
def InRange : ApiCall → Prop
  | .forward s => SpeedInRange s
  | .backward s => SpeedInRange s
  | .left s => SpeedInRange s
  | .right s => SpeedInRange s
  | .drive l r => SpeedInRange l ∧ SpeedInRange r
  | .brake => True
  | .standby => True

/-- What a call tells the left and the right wheel, where a speed `v` is told as
`speed v`. -/
def told (speed : Int → Int) : ApiCall → WheelCmd × WheelCmd
  | .forward s => (.speed (speed s), .speed (speed s))
  | .backward s => (.speed (speed (-s)), .speed (speed (-s)))
  | .left s => (.speed (speed (-s)), .speed (speed s))
  | .right s => (.speed (speed s), .speed (speed (-s)))
  | .drive l r => (.speed (speed l), .speed (speed r))
  | .brake => (.brake, .brake)
  | .standby => (.stop, .stop)

/-- The commands for the wheels of one call after another, 0 on the left. -/
def toldAll (speed : Int → Int) (calls : List ApiCall) : List (UInt8 × WheelCmd) :=
  calls.flatMap fun c => [(0, (told speed c).1), (1, (told speed c).2)]

/-- `speed` keeps the sign and the order of speeds, is odd, and has values between
the least speed, scaled by 150 over 100, and 150. -/
structure SpeedCode (minSpeed : Int) (speed : Int → Int) : Prop where
  zero_iff {v : Int} (h : SpeedInRange v) : speed v = 0 ↔ v = 0
  pos_iff {v : Int} (h : SpeedInRange v) : 0 < speed v ↔ 0 < v
  neg_iff {v : Int} (h : SpeedInRange v) : speed v < 0 ↔ v < 0
  bounds {v : Int} (h : SpeedInRange v) (hv : v ≠ 0) :
    minSpeed * 150 / 100 ≤ (speed v).natAbs ∧ (speed v).natAbs ≤ 150
  mono {v w : Int} (hv : SpeedInRange v) (hw : SpeedInRange w) (h : v ≤ w) : speed v ≤ speed w
  odd {v : Int} (h : SpeedInRange v) : speed (-v) = -speed v

end TR.Spec
