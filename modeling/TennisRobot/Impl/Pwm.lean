import TennisRobot.Framework.Float
import TennisRobot.Impl.Motor
import Mathlib.Logic.Function.Basic

/-!
# The PWM driver (`pwm_motor_driver.cpp`)

The older driver writes to the files of sysfs, and these keep the last value
written: the `duty_cycle` and the `enable` of each channel are the driver's
registers (`Registers`). A call of the driver is what it makes of them. The
`double`s of `set_speed` are rounded after each operation.
-/

namespace TR.Impl.Pwm

open TR.Impl.Motor (DriverCall)

/-- A channel, `pwm_id`. -/
abbrev PwmId := Fin 4

def PERIOD : Int := 10000

def LEFT_WHEEL_BACKWARD : PwmId := 0
def LEFT_WHEEL_FORWARD : PwmId := 1
def RIGHT_WHEEL_BACKWARD : PwmId := 2
def RIGHT_WHEEL_FORWARD : PwmId := 3

/-- What the files of the channels hold. -/
structure Registers where
  dutyCycle : PwmId → Int
  enable : PwmId → Bool

/-- `set_pwm_duty_cycle`. -/
def setPwmDutyCycle (pwmId : PwmId) (dutyCycle : Int) (r : Registers) : Registers :=
  { r with dutyCycle := Function.update r.dutyCycle pwmId dutyCycle }

/-- `set_pwm_enable`. -/
def setPwmEnable (pwmId : PwmId) (enable : Bool) (r : Registers) : Registers :=
  { r with enable := Function.update r.enable pwmId enable }

/-- The duty cycle of `set_speed`: the faster, the smaller. The conversion to `int`
drops what rounding leaves behind the point. -/
def dutyOf (speed : Int) : Int :=
  let speed := if speed < 0 then 0 else speed
  let speed := if speed > 100 then 100 else speed
  castInt (double (PERIOD - double (double (speed / 100) * PERIOD)))

/-- `set_speed`. -/
def setSpeed (pwmId : PwmId) (speed : Int) (r : Registers) : Registers :=
  setPwmDutyCycle pwmId (dutyOf speed) r

/-- `drive` for one wheel, whose speed is raised by `trim`. -/
def driveWheel (forward backward : PwmId) (trim speed : Int) (r : Registers) : Registers :=
  if speed > 0 then
    let r := setSpeed forward (speed + trim) r
    let r := setPwmEnable forward true r
    setPwmEnable backward false r
  else if speed < 0 then
    let r := setSpeed backward (-speed + trim) r
    let r := setPwmEnable backward true r
    setPwmEnable forward false r
  else
    let r := setPwmEnable forward false r
    setPwmEnable backward false r

/-- `PwmMotorDriver::drive`: the right wheel is trimmed by 2. -/
def drive (leftSpeed rightSpeed : Int) (r : Registers) : Registers :=
  let r := driveWheel LEFT_WHEEL_FORWARD LEFT_WHEEL_BACKWARD 0 leftSpeed r
  driveWheel RIGHT_WHEEL_FORWARD RIGHT_WHEEL_BACKWARD 2 rightSpeed r

/-- `PwmMotorDriver::brake`. -/
def brake (r : Registers) : Registers :=
  let r := setPwmEnable LEFT_WHEEL_FORWARD true r
  let r := setPwmEnable LEFT_WHEEL_BACKWARD true r
  let r := setPwmEnable RIGHT_WHEEL_FORWARD true r
  setPwmEnable RIGHT_WHEEL_BACKWARD true r

/-- `PwmMotorDriver::standby`. -/
def standby (r : Registers) : Registers :=
  let r := setPwmEnable LEFT_WHEEL_FORWARD false r
  let r := setPwmEnable LEFT_WHEEL_BACKWARD false r
  let r := setPwmEnable RIGHT_WHEEL_FORWARD false r
  setPwmEnable RIGHT_WHEEL_BACKWARD false r

/-- What a call of the driver leaves in the registers. -/
def call (r : Registers) : DriverCall → Registers
  | .drive leftSpeed rightSpeed => drive leftSpeed rightSpeed r
  | .brake => brake r
  | .standby => standby r

/-- What the channels put out: the duty cycle of each that is enabled. -/
def Registers.outputs (r : Registers) (pwmId : PwmId) : Option Int :=
  if r.enable pwmId then some (r.dutyCycle pwmId) else none

/-! ## Writes

The same once more, one `write` to a file at a time. -/

/-- A `write` to the `duty_cycle` or the `enable` of a channel. -/
inductive Write
  | dutyCycle (pwmId : PwmId) (duty : Int)
  | enable (pwmId : PwmId) (on : Bool)
deriving DecidableEq, Repr

/-- What the files hold after a `write`. -/
def Write.apply (r : Registers) : Write → Registers
  | .dutyCycle pwmId duty => setPwmDutyCycle pwmId duty r
  | .enable pwmId on => setPwmEnable pwmId on r

/-- The `write`s of `drive` for one wheel. -/
def driveWheelWrites (forward backward : PwmId) (trim speed : Int) : List Write :=
  if speed > 0 then
    [.dutyCycle forward (dutyOf (speed + trim)), .enable forward true, .enable backward false]
  else if speed < 0 then
    [.dutyCycle backward (dutyOf (-speed + trim)), .enable backward true, .enable forward false]
  else [.enable forward false, .enable backward false]

/-- The `write`s of a call of the driver. -/
def writes : DriverCall → List Write
  | .drive leftSpeed rightSpeed =>
    driveWheelWrites LEFT_WHEEL_FORWARD LEFT_WHEEL_BACKWARD 0 leftSpeed ++
      driveWheelWrites RIGHT_WHEEL_FORWARD RIGHT_WHEEL_BACKWARD 2 rightSpeed
  | .brake =>
    [.enable LEFT_WHEEL_FORWARD true, .enable LEFT_WHEEL_BACKWARD true,
      .enable RIGHT_WHEEL_FORWARD true, .enable RIGHT_WHEEL_BACKWARD true]
  | .standby =>
    [.enable LEFT_WHEEL_FORWARD false, .enable LEFT_WHEEL_BACKWARD false,
      .enable RIGHT_WHEEL_FORWARD false, .enable RIGHT_WHEEL_BACKWARD false]

end TR.Impl.Pwm
