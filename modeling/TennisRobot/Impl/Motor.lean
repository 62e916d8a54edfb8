import TennisRobot.Framework.Checked

/-!
# The chassis (`motor.cpp`)

The calls of the `Motor` API, and the calls of its driver (`motor_driver.hpp`)
that they come to. `main` makes the `MotorCall`s; `forward`, `backward`, `left`
and `right` are calls of `drive`. `int`s are integers, but for the mapping of a
speed in 32 bits (`mapSpeedInt`, `driveInt`).
-/

namespace TR.Impl.Motor

/-- A call of the `Motor` API. -/
inductive MotorCall
  | drive (leftSpeed rightSpeed : Int)
  | brake
  | standby
deriving DecidableEq, Repr

/-- `Motor::forward`. -/
def forward (speed : Int) : MotorCall := .drive speed speed

/-- `Motor::backward`. -/
def backward (speed : Int) : MotorCall := .drive (-speed) (-speed)

/-- `Motor::left`: spin left. -/
def left (speed : Int) : MotorCall := .drive (-speed) speed

/-- `Motor::right`: spin right. -/
def right (speed : Int) : MotorCall := .drive speed (-speed)

/-- Every method of `Motor` that moves the chassis. -/
inductive ApiCall
  | forward (speed : Int)
  | backward (speed : Int)
  | left (speed : Int)
  | right (speed : Int)
  | drive (leftSpeed rightSpeed : Int)
  | brake
  | standby
deriving DecidableEq, Repr

/-- The call that a method comes to. -/
def ApiCall.motorCall : ApiCall → MotorCall
  | .forward speed => Motor.forward speed
  | .backward speed => Motor.backward speed
  | .left speed => Motor.left speed
  | .right speed => Motor.right speed
  | .drive leftSpeed rightSpeed => .drive leftSpeed rightSpeed
  | .brake => .brake
  | .standby => .standby

/-- A call of a driver (`MotorDriver`). -/
inductive DriverCall
  | drive (leftSpeed rightSpeed : Int)
  | brake
  | standby
deriving DecidableEq, Repr

/-- `map` of `Motor::drive`: a speed that is not 0 is one from `min_speed_` to
100. -/
def mapSpeed (minSpeed v : Int) : Int :=
  if v = 0 then 0
  else
    let sign : Int := if v > 0 then 1 else -1
    let mag : Int := v.natAbs
    let mag := minSpeed + ((mag - 1) * (100 - minSpeed)).tdiv 99
    let mag := if mag > 100 then 100 else mag
    sign * mag

/-- `Motor::drive`, `Motor::brake` and `Motor::standby`. -/
def MotorCall.driverCall (minSpeed : Int) : MotorCall → DriverCall
  | .drive leftSpeed rightSpeed => .drive (mapSpeed minSpeed leftSpeed) (mapSpeed minSpeed rightSpeed)
  | .brake => .brake
  | .standby => .standby

/-! ## In 32 bits -/

/-- `map` of `Motor::drive` on `int`s. -/
def mapSpeedInt (minSpeed v : Int) : Option Int :=
  if v = 0 then some 0
  else do
    let sign : Int := if v > 0 then 1 else -1
    let mag ← checked v.natAbs
    let dec ← checked (mag - 1)
    let range ← checked (100 - minSpeed)
    let prod ← checked (dec * range)
    let mag ← checked (minSpeed + prod.tdiv 99)
    let mag := if mag > 100 then 100 else mag
    checked (sign * mag)

/-- `Motor::drive` on `int`s. -/
def driveInt (minSpeed leftSpeed rightSpeed : Int) : Option DriverCall := do
  let l ← mapSpeedInt minSpeed leftSpeed
  let r ← mapSpeedInt minSpeed rightSpeed
  return .drive l r

end TR.Impl.Motor
