import TennisRobot.Framework.Copy
import TennisRobot.Framework.Reader
import TennisRobot.Impl.Motor

/-!
# The UART protocol (`uart_motor_driver.cpp`)

Frames to and from the motor controller. What the UART delivers is the list of
what successive calls of `wait_byte` come to (`Outcome`), and `recvFrame` a
program that reads it. Buffers are indexed with a check: `sendFrame` is `none`,
and `recvFrame` returns `outOfRange`, where the source leaves a buffer. Writes
are complete.

`UartMotorDriver.call` is what the calls of the driver write, and
`testUartProbe` the other reader of frames, `test_uart_probe.cpp`.
-/

namespace TR.Impl.Uart

open TR.Impl.Motor (DriverCall)

def FRAME_SOF0 : UInt8 := 0xAA
def FRAME_SOF1 : UInt8 := 0x55

def CMD_INIT : UInt8 := 0x01
def CMD_CONFIG : UInt8 := 0x02
def CMD_SET_SPEED : UInt8 := 0x10
def CMD_STOP : UInt8 := 0x11
def CMD_BRAKE : UInt8 := 0x12
def CMD_RESET : UInt8 := 0xFF

/-- `payload[0] ^ ...` on top of `cmd ^ len`; `none` beyond the end of
`payload`. -/
def calcChecksum (cmd len : UInt8) (payload : List UInt8) : Option UInt8 :=
  (List.range len.toNat).foldlM (fun chk i => payload[i]?.map (chk ^^^ ·)) (cmd ^^^ len)

/-- `put_be16`. -/
def putBe16 (v : UInt16) : List UInt8 := [(v >>> 8).toUInt8, v.toUInt8]

/-- `UartMotorDriver`. -/
structure UartMotorDriver where
  fd : Int
  speedScale : Int
  ppr : UInt16
  pwmFreq : UInt16
deriving DecidableEq, Repr

/-! ## send_frame -/

/-- `send_frame`: the bytes written. The buffer has 64 bytes; `payload` is
`none` for a null pointer, in whose place the checksum reads `""`. -/
def sendFrame (d : UartMotorDriver) (cmd : UInt8) (payload : Option (List UInt8)) (len : UInt8) :
    Option (List UInt8) :=
  if d.fd < 0 then some []
  else do
    let body ← match payload with
      | some p => if len.toNat ≤ p.length ∧ 4 + len.toNat < 64 then some (p.take len.toNat) else none
      | none => if len = 0 then some [] else none
    let chk ← calcChecksum cmd len (payload.getD [0])
    return [FRAME_SOF0, FRAME_SOF1, cmd, len] ++ body ++ [chk]

/-! ## recv_frame -/

/-- What a call of `wait_byte` comes to: a byte, or nothing in time. -/
abbrev Outcome := Option UInt8

/-- `wait_byte`. -/
def waitByte : Reader Outcome Outcome := Reader.next

/-- What `recv_frame` returns: `false`, or `true` with what it has written to
`cmd_out`, `len_out` and `payload_out`. -/
inductive Recv
  | refused
  | accepted (cmd len : UInt8) (payload : List UInt8)
  | outOfRange
deriving DecidableEq, Repr

/-- The loop that waits for the start of a frame, with `deadline` milliseconds
left: whether it is found. -/
def hunt (deadline : Int) : Reader Outcome Bool := fun l =>
  if deadline ≤ 0 then .done false l
  else
    match l with
    | [] => .pending
    -- Only a call in which nothing comes takes time off the deadline.
    | none :: l => hunt (deadline - 10) l
    | some b :: l =>
      if b ≠ FRAME_SOF0 then hunt deadline l
      else
        match l with
        | [] => .pending
        | none :: l => .done false l
        | some b :: l => if b = FRAME_SOF1 then .done true l else hunt deadline l

/-- The loop that reads `n` bytes into `payload`, from the index `i` on; `none`
when a byte does not come. -/
def readPayload : Nat → Nat → List UInt8 → Reader Outcome (Option (List UInt8))
  | 0, _, payload => return some payload
  | n + 1, i, payload => do
    let some b ← waitByte | return none
    readPayload n (i + 1) (payload.set i b)

/-- `memcpy(payload_out, payload, len)`, for a `payload_out` of `cap` bytes, or
a null pointer. -/
def copyOut (payloadOut : Option Nat) (cmd len : UInt8) (payload : List UInt8) : Recv :=
  match payloadOut with
  | none => .accepted cmd len []
  | some cap =>
    if len.toNat ≤ payload.length ∧ len.toNat ≤ cap then
      .accepted cmd len (payload.take len.toNat)
    else .outOfRange

/-- The checksum of a received frame, and the copy to the caller. -/
def checkFrame (payloadOut : Option Nat) (cmd len : UInt8) (payload : List UInt8) (chk : UInt8) :
    Recv :=
  match calcChecksum cmd len payload with
  | none => .outOfRange
  | some c => if c ≠ chk then .refused else copyOut payloadOut cmd len payload

/-- `recv_frame` after the start of a frame. -/
def recvBody (payloadOut : Option Nat) : Reader Outcome Recv := do
  let some cmd ← waitByte | return .refused
  let some len ← waitByte | return .refused
  let some payload ← readPayload (min len.toNat 32) 0 (List.replicate 32 0) | return .refused
  let some chk ← waitByte | return .refused
  return checkFrame payloadOut cmd len payload chk

/-- `recv_frame`. -/
def recvFrame (d : UartMotorDriver) (payloadOut : Option Nat) (timeoutMs : Int) :
    Reader Outcome Recv :=
  if d.fd < 0 then return .refused
  else do
    if ← hunt timeoutMs then recvBody payloadOut else return .refused

/-! ## The caller's variables -/

/-- What `cmd_out`, `len_out` and `payload_out` point to; `payloadOut` is `none` for a
null pointer. -/
structure Outs where
  cmdOut : UInt8
  lenOut : UInt8
  payloadOut : Option (List UInt8)
deriving DecidableEq, Repr

/-- `recv_frame`, with the variables that it writes to: what it returns, and what is
in them then; nothing when it leaves a buffer. -/
def recvFrameInto (d : UartMotorDriver) (timeoutMs : Int) (o : Outs) :
    Reader Outcome (Option (Bool × Outs)) :=
  if d.fd < 0 then return some (false, o)
  else do
    if ← hunt timeoutMs then
      let some cmd ← waitByte | return some (false, o)
      let some len ← waitByte | return some (false, o)
      let some payload ← readPayload (min len.toNat 32) 0 (List.replicate 32 0)
        | return some (false, o)
      let some chk ← waitByte | return some (false, o)
      match calcChecksum cmd len payload with
      | none => return none
      | some c =>
        if c ≠ chk then return some (false, o)
        else
          let o := { o with cmdOut := cmd }
          let o := { o with lenOut := len }
          match o.payloadOut with
          | none => return some (true, o)
          | some out =>
            match blit out 0 payload 0 len.toNat with
            | none => return none
            | some out => return some (true, { o with payloadOut := some out })
    else return some (false, o)

/-! ## Commands -/

/-- `cmd_init`: what it writes, and what it makes of the answer. -/
def cmdInit (d : UartMotorDriver) : Option (List UInt8) × Reader Outcome Recv :=
  (sendFrame d CMD_INIT none 0, recvFrame d (some 8) 500)

/-- `cmd_config`. -/
def cmdConfig (d : UartMotorDriver) (ppr pwmFreq : UInt16) :
    Option (List UInt8) × Reader Outcome Recv :=
  (sendFrame d CMD_CONFIG (some (putBe16 ppr ++ putBe16 pwmFreq)) 4, recvFrame d (some 8) 500)

/-- The constructor, with the port open: what the two commands make of their
answers. -/
def construct (d : UartMotorDriver) : Reader Outcome (Recv × Recv) := do
  let init ← (cmdInit d).2
  let config ← (cmdConfig d d.ppr d.pwmFreq).2
  return (init, config)

/-- `cmd_set_speeds`: the speed of each motor in turn. -/
def cmdSetSpeeds (d : UartMotorDriver) (m1Rpm m2Rpm : Int16) : Option (List UInt8) := do
  let p1 : List UInt8 := [0x00, (m1Rpm.toUInt16 >>> 8).toUInt8, (m1Rpm.toUInt16 &&& 0xFF).toUInt8]
  let p2 : List UInt8 := [0x01, (m2Rpm.toUInt16 >>> 8).toUInt8, (m2Rpm.toUInt16 &&& 0xFF).toUInt8]
  let f1 ← sendFrame d CMD_SET_SPEED (some p1) 3
  let f2 ← sendFrame d CMD_SET_SPEED (some p2) 3
  return f1 ++ f2

/-- `cmd_stop`. -/
def cmdStop (d : UartMotorDriver) (motorId : UInt8) : Option (List UInt8) :=
  sendFrame d CMD_STOP (some [motorId]) 1

/-- `cmd_brake`. -/
def cmdBrake (d : UartMotorDriver) (motorId : UInt8) : Option (List UInt8) :=
  sendFrame d CMD_BRAKE (some [motorId]) 1

/-! ## The driver -/

/-- `to_pwm`. -/
def toPwm (speed scale : Int) : Int16 :=
  let speed := if speed > 100 then 100 else speed
  let speed := if speed < -100 then -100 else speed
  Int16.ofInt ((speed * scale).tdiv 100)

/-- `UartMotorDriver::drive`. -/
def drive (d : UartMotorDriver) (leftSpeed rightSpeed : Int) : Option (List UInt8) :=
  cmdSetSpeeds d (toPwm leftSpeed d.speedScale) (toPwm rightSpeed d.speedScale)

/-- `UartMotorDriver::brake`. -/
def brake (d : UartMotorDriver) : Option (List UInt8) := do
  let f1 ← cmdBrake d 0
  let f2 ← cmdBrake d 1
  return f1 ++ f2

/-- `UartMotorDriver::standby`. -/
def standby (d : UartMotorDriver) : Option (List UInt8) := do
  let f1 ← cmdStop d 0
  let f2 ← cmdStop d 1
  return f1 ++ f2

/-- The bytes that a call of the driver writes. -/
def UartMotorDriver.call (d : UartMotorDriver) : DriverCall → Option (List UInt8)
  | .drive leftSpeed rightSpeed => Uart.drive d leftSpeed rightSpeed
  | .brake => Uart.brake d
  | .standby => Uart.standby d

/-! ## Writes

The same once more, one `write` at a time. A frame is written at once, and nothing on a
port that is not open. -/

/-- The frame of `cmd_set_speeds` for one motor. -/
def cmdSetSpeed (d : UartMotorDriver) (motorId : UInt8) (rpm : Int16) : Option (List UInt8) :=
  sendFrame d CMD_SET_SPEED
    (some [motorId, (rpm.toUInt16 >>> 8).toUInt8, (rpm.toUInt16 &&& 0xFF).toUInt8]) 3

/-- The `write`s of a call of the driver. -/
def UartMotorDriver.writes (d : UartMotorDriver) (c : DriverCall) : Option (List (List UInt8)) := do
  let frames ← match c with
    | .drive leftSpeed rightSpeed =>
      [cmdSetSpeed d 0x00 (toPwm leftSpeed d.speedScale),
        cmdSetSpeed d 0x01 (toPwm rightSpeed d.speedScale)].mapM id
    | .brake => [cmdBrake d 0, cmdBrake d 1].mapM id
    | .standby => [cmdStop d 0, cmdStop d 1].mapM id
  return frames.filter (· ≠ [])

/-- The `write`s of the constructor, after the port is opened (or is not). -/
def UartMotorDriver.constructWrites (d : UartMotorDriver) : Option (List (List UInt8)) :=
  if d.fd < 0 then some [] else [(cmdInit d).1, (cmdConfig d d.ppr d.pwmFreq).1].mapM id

/-- The `write`s of the destructor. -/
def UartMotorDriver.destructWrites (d : UartMotorDriver) : Option (List (List UInt8)) :=
  if d.fd ≥ 0 then [sendFrame d CMD_RESET (some [0]) 0].mapM id else some []

/-! ## The probe (`test_uart_probe.cpp`) -/

/-- What the probe says of the bytes it has read. -/
inductive Probe
  | noReply
  | noHeader
  | incomplete
  | badChecksum
  | motor (idx : Nat) (cmd len : UInt8) (payload : List UInt8)
deriving DecidableEq, Repr

/-- The scan for `AA 55`. -/
def scanHeader : List UInt8 → Option Nat
  | a :: b :: raw =>
    if a = FRAME_SOF0 ∧ b = FRAME_SOF1 then some 0 else (scanHeader (b :: raw)).map (· + 1)
  | _ => none

/-- `main`, from the bytes in `raw`. -/
def testUartProbe (raw : List UInt8) : Probe :=
  if raw.length = 0 then .noReply
  else
    match scanHeader raw with
    | none => .noHeader
    | some idx =>
      match raw[idx + 2]?, raw[idx + 3]? with
      | some cmd, some len =>
        let payload := (raw.drop (idx + 4)).take len.toNat
        match raw[idx + 4 + len.toNat]? with
        | some chk =>
          if chk = payload.foldl (· ^^^ ·) (cmd ^^^ len) then .motor idx cmd len payload
          else .badChecksum
        | none => .incomplete
      | _, _ => .incomplete

/-- The loop that reads the answer into `raw`, with `budgetMs` left. -/
def probeRead (budgetMs : Int) (raw : List UInt8) : Reader Outcome (List UInt8) := fun l =>
  if raw.length < 256 ∧ budgetMs > 0 then
    match l with
    | [] => .pending
    | some b :: l => probeRead budgetMs (raw ++ [b]) l
    | none :: l =>
      -- Something has come, and then nothing for 50 ms: that is taken for the end.
      if raw.length > 0 then .done raw l else probeRead (budgetMs - 50) raw l
  else .done raw l

/-- What `main` returns for the bytes in `raw`; nothing where a byte is read that has not
come. -/
def probeExit (raw : List UInt8) : Option Int :=
  if raw.length = 0 then some 2
  else
    match scanHeader raw with
    | none => some 3
    | some idx =>
      if idx + 4 ≥ raw.length then some 4
      else do
        let cmd ← raw[idx + 2]?
        let len ← raw[idx + 3]?
        if idx + 4 + len.toNat ≥ raw.length then return 4
        let chk ← raw[idx + 4 + len.toNat]?
        let calcChk ← (List.range len.toNat).foldlM
          (fun calcChk i => raw[idx + 4 + i]?.map (calcChk ^^^ ·)) (cmd ^^^ len)
        return if chk = calcChk then 0 else 5

/-- `main`, from where the port is opened: what it returns. -/
def probeMain (opened : Bool) : Reader Outcome (Option Int) :=
  if !opened then return some 1
  else do
    let raw ← probeRead 2000 []
    return probeExit raw

end TR.Impl.Uart
