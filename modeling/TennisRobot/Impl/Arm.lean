import TennisRobot.Framework.Float
import TennisRobot.Framework.Text

/-!
# The arm (`arm.cpp`)

The servo commands `Arm::set_angle` sends, and the commands each of the arm's
movements sends in turn; and the text that a command is on the serial line. The
pauses between them and the log are left out.
-/

namespace TR.Impl.Arm

def PULSE_MIN : Int := 500
def PULSE_MAX : Int := 2500

def ANGLE_MAX : Rat := 270
def ID2_ANGLE_OPEN : Rat := 110
def ID2_ANGLE_CLOSE : Rat := 50

def SERVO0_READY : Rat := 150
def SERVO1_READY : Rat := 100
def SERVO0_GRAB : Rat := 225
def SERVO1_GRAB : Rat := 60
def SERVO0_LIFT : Rat := 150
def SERVO1_LIFT : Rat := 100

/-- A command of `set_angle`: move a servo to a pulse width within a time. -/
structure ServoCmd where
  servoId : Int
  pulse : Int
  timeMs : Int
deriving DecidableEq, Repr

/-- `Arm::angle_to_pulse`. -/
def angleToPulse (angle : Rat) : Int :=
  let pulse := castInt (500 + angle / ANGLE_MAX * 2000)
  max PULSE_MIN (min PULSE_MAX pulse)

/-- `Arm::set_angle`: angles out of range are clamped. -/
def setAngle (servoId : Int) (angle : Rat) (timeMs : Int := 1000) : ServoCmd :=
  let angle := if angle < 0 ∨ angle > ANGLE_MAX then max 0 (min ANGLE_MAX angle) else angle
  { servoId, pulse := angleToPulse angle, timeMs }

/-- The movements of the arm that `main` calls. -/
inductive ArmCall
  | grab
  | release
  | grabPos
deriving DecidableEq, Repr

/-- `Arm::grab`: down with the gripper open, close it, lift. -/
def grab : List ServoCmd :=
  [setAngle 0 SERVO0_GRAB, setAngle 1 SERVO1_GRAB, setAngle 2 ID2_ANGLE_OPEN,
    setAngle 2 ID2_ANGLE_CLOSE,
    setAngle 0 SERVO0_LIFT, setAngle 1 SERVO1_LIFT]

/-- `Arm::release`. -/
def release : List ServoCmd := [setAngle 2 ID2_ANGLE_OPEN]

/-- `Arm::grab_pos`. -/
def grabPos : List ServoCmd :=
  [setAngle 0 SERVO0_READY, setAngle 1 SERVO1_READY, setAngle 2 ID2_ANGLE_OPEN]

/-- The servo commands a movement sends. -/
def ArmCall.servoCmds : ArmCall → List ServoCmd
  | .grab => Arm.grab
  | .release => Arm.release
  | .grabPos => Arm.grabPos

/-- The last pulse commanded to a servo. -/
def lastPulse (servoId : Int) (cmds : List ServoCmd) : Option Int :=
  (cmds.reverse.find? (·.servoId = servoId)).map ServoCmd.pulse

/-! ## The serial line -/

/-- The text of `set_angle`: `#%03dP%04dT%d!`. -/
def ServoCmd.text (c : ServoCmd) : List Char :=
  '#' :: (printfD 3 c.servoId ++ 'P' :: (printfD 4 c.pulse ++ 'T' :: (printfD 0 c.timeMs ++ ['!'])))

/-- The text of `release_torque`: `#%03dPULK`. -/
def releaseText (servoId : Int) : List Char := '#' :: (printfD 3 servoId ++ ['P', 'U', 'L', 'K'])

/-- The text of `restore_torque`: `#%03dPULR`. -/
def restoreText (servoId : Int) : List Char := '#' :: (printfD 3 servoId ++ ['P', 'U', 'L', 'R'])

/-- `Arm::send_command`: what is written to the port. -/
def sendCommand (fd : Int) (cmd : List Char) : List Char := if fd < 0 then [] else cmd

/-- The methods of `Arm` that send one command. -/
inductive LineCall
  | setAngle (servoId : Int) (angle : Rat) (timeMs : Int)
  | releaseTorque (servoId : Int)
  | restoreTorque (servoId : Int)
deriving DecidableEq, Repr

/-- The text a method writes to its buffer. -/
def LineCall.text : LineCall → List Char
  | .setAngle servoId angle timeMs => (Arm.setAngle servoId angle timeMs).text
  | .releaseTorque servoId => releaseText servoId
  | .restoreTorque servoId => restoreText servoId

/-- `sizeof(buf)`. -/
def LineCall.bufSize : LineCall → Nat
  | .setAngle .. => 32
  | .releaseTorque _ => 16
  | .restoreTorque _ => 16

/-- What a method writes to the port. -/
def LineCall.sent (fd : Int) (c : LineCall) : List Char :=
  sendCommand fd (snprintf c.bufSize c.text)

/-- What a sequence of methods writes. -/
def stream (fd : Int) (calls : List LineCall) : List Char := calls.flatMap (LineCall.sent fd)

end TR.Impl.Arm
