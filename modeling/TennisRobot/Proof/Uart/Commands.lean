import TennisRobot.Proof.Motor.Speed
import TennisRobot.Proof.Uart.Stream
import TennisRobot.Spec.Wheels

/-!
# The commands of the chassis

A call of the driver writes two frames, one for each motor (`call_eq`). The
controller reads the commands of `told` in them (`decode_packets`), with speeds
sent as `sentSpeed`: the two bytes of a speed are those of its `int16`
(`int16BE_eq`).
-/

namespace TR.Proof.Uart

open TR.Impl.Uart TR.Impl.Motor TR.Spec TR.Reader
open TR.Proof.Motor

/-! ## The frames of a call -/

/-- The frame of `cmd_set_speeds` for a motor. -/
def speedPacket (id : UInt8) (v : Int16) : Packet where
  cmd := CMD_SET_SPEED
  payload := [id, (v.toUInt16 >>> 8).toUInt8, (v.toUInt16 &&& 0xFF).toUInt8]
  short := by simp

/-- The frame of `cmd_stop`. -/
def stopPacket (id : UInt8) : Packet where
  cmd := CMD_STOP
  payload := [id]
  short := by simp

/-- The frame of `cmd_brake`. -/
def brakePacket (id : UInt8) : Packet where
  cmd := CMD_BRAKE
  payload := [id]
  short := by simp

/-- The frames of a call. -/
def packets (scale : Int) : DriverCall → List Packet
  | .drive l r => [speedPacket 0 (toPwm l scale), speedPacket 1 (toPwm r scale)]
  | .brake => [brakePacket 0, brakePacket 1]
  | .standby => [stopPacket 0, stopPacket 1]

/-- A call writes its two frames. -/
theorem call_eq {d : UartMotorDriver} (hfd : 0 ≤ d.fd) (c : DriverCall) :
    d.call c = some ((packets d.speedScale c).map Packet.wire).flatten := by
  have two (p q : Packet) : (do
      let f1 ← sendFrame d p.cmd (some p.payload) p.len
      let f2 ← sendFrame d q.cmd (some q.payload) q.len
      return f1 ++ f2) = some ([p, q].map Packet.wire).flatten := by
    rw [sendFrame_eq hfd, sendFrame_eq hfd]
    simp
  cases c with
  | drive l r => exact two (speedPacket 0 _) (speedPacket 1 _)
  | brake => exact two (brakePacket 0) (brakePacket 1)
  | standby => exact two (stopPacket 0) (stopPacket 1)

theorem length_packets (scale : Int) (c : DriverCall) : (packets scale c).length = 2 := by
  cases c <;> rfl

theorem payload_packets {scale : Int} {c : DriverCall} {p : Packet} (h : p ∈ packets scale c) :
    p.payload.length ≤ 8 := by
  cases c <;> simp only [packets, List.mem_cons, List.not_mem_nil, or_false] at h <;>
    rcases h with rfl | rfl <;> simp [speedPacket, brakePacket, stopPacket]

/-! ## What the controller reads -/

/-- The bytes of an `int16` are read back. -/
theorem int16BE_eq (v : Int16) :
    int16BE (v.toUInt16 >>> 8).toUInt8 (v.toUInt16 &&& 0xFF).toUInt8 = v.toInt := by
  have hlt : v.toUInt16.toNat < 65536 := v.toUInt16.toNat_lt
  have hhi : (v.toUInt16 >>> 8).toUInt8.toNat = v.toUInt16.toNat / 256 := by
    rw [UInt16.toNat_toUInt8, UInt16.toNat_shiftRight, Nat.shiftRight_eq_div_pow]
    show v.toUInt16.toNat / 256 % 256 = _
    omega
  have hlo : (v.toUInt16 &&& 0xFF).toUInt8.toNat = v.toUInt16.toNat % 256 := by
    rw [UInt16.toNat_toUInt8, UInt16.toNat_and]
    show (v.toUInt16.toNat &&& 2 ^ 8 - 1) % 256 = _
    rw [Nat.and_two_pow_sub_one_eq_mod]
    omega
  have hv : v.toInt = if 2 * v.toUInt16.toNat < 65536 then (v.toUInt16.toNat : Int)
      else v.toUInt16.toNat - 65536 := BitVec.toInt_eq_toNat_cond v.toBitVec
  unfold int16BE
  rw [hhi, hlo, hv]
  dsimp only
  split_ifs <;> omega

theorem decode_speedPacket (id : UInt8) (v : Int16) :
    decode (speedPacket id v).cmd (speedPacket id v).payload = some (id, .speed v.toInt) := by
  rw [← int16BE_eq v]
  rfl

/-- The frames of a call tell the wheels what the call says. -/
theorem decode_packets (minSpeed : Int) (c : ApiCall) :
    (packets 150 (c.motorCall.driverCall minSpeed)).map (fun p => decode p.cmd p.payload) =
      [some (0, (told (sentSpeed minSpeed) c).1), some (1, (told (sentSpeed minSpeed) c).2)] := by
  have speeds (l r : Int) :
      (packets 150 (.drive (mapSpeed minSpeed l) (mapSpeed minSpeed r))).map
        (fun p => decode p.cmd p.payload) =
      [some (0, .speed (sentSpeed minSpeed l)), some (1, .speed (sentSpeed minSpeed r))] := by
    simp only [packets, List.map_cons, List.map_nil, decode_speedPacket]
    rfl
  cases c with
  | brake => rfl
  | standby => rfl
  | forward s | backward s | left s | right s | drive l r => apply speeds

/-! ## Calls in a row -/

theorem speedCode_sentSpeed {minSpeed : Int} (h1 : 1 ≤ minSpeed) (hm : minSpeed ≤ 100) :
    SpeedCode minSpeed (sentSpeed minSpeed) where
  zero_iff _ := sentSpeed_eq_zero_iff h1 hm
  pos_iff _ := sentSpeed_pos_iff h1 hm
  neg_iff _ := sentSpeed_neg_iff h1 hm
  bounds _ hv := sentSpeed_bounds (by omega) hm hv
  mono _ _ h := sentSpeed_mono (by omega) hm h
  odd _ := sentSpeed_neg (by omega) hm _

/-- The frames of calls in a row. -/
def callPackets (minSpeed : Int) (cs : List ApiCall) : List Packet :=
  cs.flatMap fun c => packets 150 (c.motorCall.driverCall minSpeed)

theorem length_callPackets (minSpeed : Int) (cs : List ApiCall) :
    (callPackets minSpeed cs).length = 2 * cs.length := by
  induction cs with
  | nil => rfl
  | cons c cs ih =>
    rw [callPackets] at ih ⊢
    rw [List.flatMap_cons, List.length_append, ih, length_packets, List.length_cons]
    omega

theorem decode_callPackets (minSpeed : Int) (cs : List ApiCall) :
    (callPackets minSpeed cs).map (fun p => decode p.cmd p.payload) =
      (toldAll (sentSpeed minSpeed) cs).map some := by
  induction cs with
  | nil => rfl
  | cons c cs ih =>
    rw [callPackets, toldAll] at ih ⊢
    rw [List.flatMap_cons, List.flatMap_cons, List.map_append, List.map_append, ih, decode_packets]
    rfl

theorem wire_callPackets (minSpeed : Int) (cs : List ApiCall) :
    ((callPackets minSpeed cs).map Packet.wire).flatten =
      (cs.map fun c =>
        ((packets 150 (c.motorCall.driverCall minSpeed)).map Packet.wire).flatten).flatten := by
  induction cs with
  | nil => rfl
  | cons c cs ih =>
    rw [callPackets] at ih ⊢
    rw [List.flatMap_cons, List.map_append, List.flatten_append, ih, List.map_cons,
      List.flatten_cons]

/-- The bytes that calls write are those of their frames, which are read off one
by one. -/
theorem calls_callPackets {d : UartMotorDriver} (hfd : 0 ≤ d.fd) (hs : d.speedScale = 150)
    (minSpeed : Int) {timeoutMs : Int} (ht : 0 < timeoutMs) (cs : List ApiCall) :
    ∃ bytes : List (List UInt8),
      (cs.map fun c => d.call (c.motorCall.driverCall minSpeed)) = bytes.map some ∧
      calls (recvFrame d (some 8) timeoutMs) (2 * cs.length) (bytes.flatten.map some) =
        .done ((callPackets minSpeed cs).map fun p =>
          (.accepted p.cmd p.len p.payload, 5 + p.payload.length)) [] := by
  refine ⟨cs.map fun c =>
    ((packets 150 (c.motorCall.driverCall minSpeed)).map Packet.wire).flatten, ?_, ?_⟩
  · rw [List.map_map]
    exact List.map_congr_left fun c _ => hs ▸ call_eq hfd _
  · have hcap : ∀ p ∈ callPackets minSpeed cs, p.payload.length ≤ 8 := fun p hp => by
      obtain ⟨c, -, hp⟩ := List.mem_flatMap.mp hp
      exact payload_packets hp
    have h := calls_wire hfd ht (callPackets minSpeed cs) hcap []
    rw [length_callPackets, List.append_nil, wire_callPackets] at h
    exact h

/-- What calls of the `Motor` API write on the line parses into two frames for
each call, with nothing left over. The controller reads in them what the call
tells the left wheel and then the right one, with speeds in a code that keeps
their sign and order. -/
theorem told_of_calls (d : UartMotorDriver) (hfd : 0 ≤ d.fd) (hs : d.speedScale = 150)
    (minSpeed : Int) (h1 : 1 ≤ minSpeed) (hm : minSpeed ≤ 100) :
    ∃ speed : Int → Int, SpeedCode minSpeed speed ∧
      ∀ cs : List ApiCall, (∀ c ∈ cs, InRange c) →
        ∃ (bytes : List (List UInt8)) (ps : List Packet),
          (cs.map fun c => d.call (c.motorCall.driverCall minSpeed)) = bytes.map some ∧
          calls (recvFrame d (some 8) 100) (2 * cs.length) (bytes.flatten.map some) =
            .done (ps.map fun p => (.accepted p.cmd p.len p.payload, 5 + p.payload.length)) [] ∧
          (ps.map fun p => decode p.cmd p.payload) = (toldAll speed cs).map some := by
  refine ⟨sentSpeed minSpeed, speedCode_sentSpeed h1 hm, fun cs _ => ?_⟩
  obtain ⟨bytes, hbytes, hcalls⟩ := calls_callPackets hfd hs minSpeed (by decide : (0 : Int) < 100) cs
  exact ⟨bytes, callPackets minSpeed cs, hbytes, hcalls, decode_callPackets minSpeed cs⟩

theorem told_of_calls_three :
    ∃ speed : Int → Int, SpeedCode 15 speed ∧
      ∃ (bytes : List (List UInt8)) (ps : List Packet),
        ([.forward 50, .drive (-100) 1, .brake].map fun c : ApiCall =>
          port.call (c.motorCall.driverCall 15)) = bytes.map some ∧
        calls (recvFrame port (some 8) 100) 6 (bytes.flatten.map some) =
          .done (ps.map fun p => (.accepted p.cmd p.len p.payload, 5 + p.payload.length)) [] ∧
        (ps.map fun p => decode p.cmd p.payload) =
          (toldAll speed [.forward 50, .drive (-100) 1, .brake]).map some := by
  obtain ⟨speed, hcode, h⟩ := told_of_calls port (by decide) rfl 15 (by decide) (by decide)
  exact ⟨speed, hcode, h [.forward 50, .drive (-100) 1, .brake]
    (by simp [InRange, SpeedInRange])⟩

end TR.Proof.Uart
