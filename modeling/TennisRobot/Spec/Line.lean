import TennisRobot.Framework.Codec
import TennisRobot.Spec.Wheels

/-!
# What is on the chassis' line

The bytes on the line are frames, as `uart_motor_driver.hpp` lays them out (`readFrame`),
and the controller does what the last command for a wheel says (`stateOnLine`).
-/

namespace TR.Spec

/-- The frame at the front of `bytes`: its command and its payload. -/
def readFrame (bytes : List UInt8) : Option ((UInt8 × List UInt8) × List UInt8) :=
  match bytes with
  | sof0 :: sof1 :: cmd :: len :: bytes =>
    let payload := bytes.take len.toNat
    match bytes.drop len.toNat with
    | chk :: rest =>
      if sof0 = 0xAA ∧ sof1 = 0x55 ∧ chk = payload.foldl (· ^^^ ·) (cmd ^^^ len) then
        some ((cmd, payload), rest)
      else none
    | [] => none
  | _ => none

/-- The frames on a line. -/
def frames (bytes : List UInt8) : Option (List (UInt8 × List UInt8)) := readAll readFrame bytes

/-- The commands for the wheels on a line. -/
def wheelCmds (bytes : List UInt8) : Option (List (UInt8 × WheelCmd)) :=
  (frames bytes).map (List.filterMap fun f => decode f.1 f.2)

/-- The state of a wheel after commands: it is off before the first. -/
def stateAfter (id : UInt8) (cmds : List (UInt8 × WheelCmd)) : WheelState :=
  ((lastCmd id cmds).map WheelCmd.state).getD .off

/-- The state in which a line leaves a wheel, if there are frames on it and nothing else. -/
def stateOnLine (id : UInt8) (bytes : List UInt8) : Option WheelState :=
  (wheelCmds bytes).map (stateAfter id)

theorem lastCmd_append (id : UInt8) (as bs : List (UInt8 × WheelCmd)) :
    lastCmd id (as ++ bs) = (lastCmd id bs).or (lastCmd id as) := by
  simp only [lastCmd, List.reverse_append, List.find?_append]
  cases bs.reverse.find? _ <;> rfl

@[simp] theorem stateAfter_nil (id : UInt8) : stateAfter id [] = .off := rfl

/-- The state after commands of which one is for the wheel. -/
theorem stateAfter_append {id : UInt8} {c : WheelCmd} {as bs : List (UInt8 × WheelCmd)}
    (h : lastCmd id bs = some c) : stateAfter id (as ++ bs) = c.state := by
  rw [stateAfter, lastCmd_append, h]
  rfl

end TR.Spec
