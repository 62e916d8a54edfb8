import TennisRobot.Impl.Main
import TennisRobot.Proof.Uart.Commands
import TennisRobot.Spec.Line

/-!
# What the process tells the wheels

Every `write` to the chassis is a whole frame (`Framed`), so the frames on the line are
those of the acts, one after the other (`frames_acts`): whatever is cut off behind an
act, and whatever is put there instead. A call of `Motor` is two commands, in its frames
(`told_callActs`), or nothing where the port is not open.
-/

namespace TR.Proof.Main

open TR.Impl.Main TR.Impl.Motor TR.Impl.Uart TR.Spec
open TR.Proof.Motor TR.Proof.Uart

/-! ## Frames -/

/-- A frame is read back. -/
theorem readFrame_wire (p : Packet) (rest : List UInt8) :
    readFrame (p.wire ++ rest) = some ((p.cmd, p.payload), rest) := by
  have htake : (p.payload ++ [checksum p.cmd p.len p.payload] ++ rest).take p.len.toNat =
      p.payload := by
    rw [p.toNat_len, List.append_assoc, List.take_left]
  have hdrop : (p.payload ++ [checksum p.cmd p.len p.payload] ++ rest).drop p.len.toNat =
      checksum p.cmd p.len p.payload :: rest := by
    rw [p.toNat_len, List.append_assoc, List.drop_left]
    rfl
  show readFrame (FRAME_SOF0 :: FRAME_SOF1 :: p.cmd :: p.len ::
    (p.payload ++ [checksum p.cmd p.len p.payload] ++ rest)) = _
  unfold readFrame
  dsimp only
  rw [htake, hdrop]
  exact if_pos ⟨rfl, rfl, rfl⟩

/-- Frames in a row are read back. -/
theorem frames_wire (ps : List Packet) :
    frames (ps.map Packet.wire).flatten = some (ps.map fun p => (p.cmd, p.payload)) := by
  have h := @readAll_flatten _ _ readFrame (ps.map fun p => (p.wire, (p.cmd, p.payload)))
    (fun q hq => by
      obtain ⟨p, -, rfl⟩ := List.mem_map.mp hq
      exact ⟨by simp [Packet.wire], readFrame_wire p⟩)
  rw [List.map_map, List.map_map] at h
  exact h

/-! ## Acts -/

/-- What an act writes to the chassis. -/
def chassisWrite? : Act → Option (List UInt8)
  | .chassis bytes => some bytes
  | _ => none

/-- What the process writes to the chassis. -/
def chassisBytes (acts : List Act) : List UInt8 := (acts.filterMap chassisWrite?).flatten

/-- Every `write` to the chassis is a frame. -/
def Framed (acts : List Act) : Prop := ∀ bytes, .chassis bytes ∈ acts → ∃ p : Packet, bytes = p.wire

/-- The frame that an act writes. -/
def actFrame? (act : Act) : Option (UInt8 × List UInt8) :=
  (chassisWrite? act).bind fun bytes => (readFrame bytes).map Prod.fst

/-- The frames that acts write. -/
def sent (acts : List Act) : List (UInt8 × List UInt8) := acts.filterMap actFrame?

/-- What acts tell the wheels. -/
def told (acts : List Act) : List (UInt8 × WheelCmd) :=
  (sent acts).filterMap fun f => decode f.1 f.2

@[simp] theorem sent_nil : sent [] = [] := rfl

@[simp] theorem sent_append (as bs : List Act) : sent (as ++ bs) = sent as ++ sent bs :=
  List.filterMap_append

@[simp] theorem told_nil : told [] = [] := rfl

@[simp] theorem told_append (as bs : List Act) : told (as ++ bs) = told as ++ told bs := by
  rw [told, sent_append, List.filterMap_append]
  rfl

theorem actFrame?_wire (p : Packet) : actFrame? (.chassis p.wire) = some (p.cmd, p.payload) := by
  have h := readFrame_wire p []
  rw [List.append_nil] at h
  simp only [actFrame?, chassisWrite?, Option.bind_some, h, Option.map_some]

theorem sent_wires (ps : List Packet) : sent (ps.map fun p => .chassis p.wire) =
    ps.map fun p => (p.cmd, p.payload) := by
  induction ps with
  | nil => rfl
  | cons p ps ih => rw [List.map_cons, sent, List.filterMap_cons_some (actFrame?_wire p), ← sent, ih,
      List.map_cons]

theorem told_wires (ps : List Packet) : told (ps.map fun p => .chassis p.wire) =
    ps.filterMap fun p => decode p.cmd p.payload := by
  rw [told, sent_wires, List.filterMap_map]
  rfl

theorem Framed.append {as bs : List Act} (ha : Framed as) (hb : Framed bs) : Framed (as ++ bs) :=
  fun bytes h => (List.mem_append.mp h).elim (ha bytes) (hb bytes)

theorem Framed.take {acts : List Act} (h : Framed acts) (k : Nat) : Framed (acts.take k) :=
  fun bytes hb => h bytes (List.mem_of_mem_take hb)

theorem framed_of_no_write {acts : List Act} (h : ∀ bytes, .chassis bytes ∉ acts) : Framed acts :=
  fun bytes hb => absurd hb (h bytes)

theorem framed_wires (ps : List Packet) : Framed (ps.map fun p => .chassis p.wire) := by
  intro bytes h
  obtain ⟨p, -, hp⟩ := List.mem_map.mp h
  exact ⟨p, (Act.chassis.inj hp).symm⟩

theorem sent_of_no_write {acts : List Act} (h : ∀ bytes, .chassis bytes ∉ acts) : sent acts = [] := by
  refine List.filterMap_eq_nil_iff.mpr fun act hact => ?_
  cases act with
  | chassis bytes => exact absurd hact (h bytes)
  | _ => rfl

/-- The frames on the line are those of the acts. -/
theorem frames_acts {acts : List Act} (h : Framed acts) :
    frames (chassisBytes acts) = some (sent acts) := by
  have hps : ∃ ps : List Packet, acts.filterMap chassisWrite? = ps.map Packet.wire ∧
      sent acts = ps.map fun p => (p.cmd, p.payload) := by
    induction acts with
    | nil => exact ⟨[], rfl, rfl⟩
    | cons act acts ih =>
      obtain ⟨ps, hwrites, hsent⟩ := ih fun bytes hb => h bytes (List.mem_cons_of_mem _ hb)
      cases act with
      | chassis bytes =>
        obtain ⟨p, rfl⟩ := h bytes List.mem_cons_self
        refine ⟨p :: ps, by rw [List.map_cons, ← hwrites]; rfl, ?_⟩
        rw [sent, List.filterMap_cons_some (actFrame?_wire p), ← sent, hsent, List.map_cons]
      | _ => exact ⟨ps, hwrites, hsent⟩
  obtain ⟨ps, hwrites, hsent⟩ := hps
  rw [chassisBytes, hwrites, frames_wire, hsent]

/-- What the line says after acts is what the acts tell. -/
theorem wheelCmds_acts {acts : List Act} (h : Framed acts) :
    wheelCmds (chassisBytes acts) = some (told acts) := by
  rw [wheelCmds, frames_acts h, Option.map_some]
  rfl

theorem stateOnLine_acts {acts : List Act} (h : Framed acts) (id : UInt8) :
    stateOnLine id (chassisBytes acts) = some (stateAfter id (told acts)) := by
  rw [stateOnLine, wheelCmds_acts h, Option.map_some]

/-! ## Calls -/

/-- The method of `Motor` that a call is. -/
def apiCall : MotorCall → ApiCall
  | .drive l r => .drive l r
  | .brake => .brake
  | .standby => .standby

theorem motorCall_apiCall (c : MotorCall) : (apiCall c).motorCall = c := by
  cases c <;> rfl

/-- The commands of a call of `Motor`. -/
def callCmds (c : MotorCall) : List (UInt8 × WheelCmd) :=
  [(0, (Spec.told (sentSpeed MIN_SPEED) (apiCall c)).1),
    (1, (Spec.told (sentSpeed MIN_SPEED) (apiCall c)).2)]

/-- The frames of a call tell the wheels its commands. -/
theorem decode_call (c : MotorCall) :
    ((packets 150 (c.driverCall MIN_SPEED)).filterMap fun p => decode p.cmd p.payload) =
      callCmds c := by
  have h := decode_packets MIN_SPEED (apiCall c)
  rw [motorCall_apiCall] at h
  calc ((packets 150 (c.driverCall MIN_SPEED)).filterMap fun p => decode p.cmd p.payload)
      = ((packets 150 (c.driverCall MIN_SPEED)).map fun p => decode p.cmd p.payload).filterMap id :=
        by rw [List.filterMap_map]; rfl
    _ = callCmds c := by rw [h]; rfl

/-- The `write`s of a call of the driver are all that it writes. -/
theorem flatten_writes (d : UartMotorDriver) (c : DriverCall) :
    (d.writes c).map List.flatten = d.call c := by
  have two (f1 f2 : Option (List UInt8)) :
      (do let frames ← [f1, f2].mapM id; return frames.filter (· ≠ [])).map List.flatten =
        (do let a ← f1; let b ← f2; return a ++ b : Option (List UInt8)) := by
    cases f1 with
    | none => rfl
    | some a =>
      cases f2 with
      | none => rfl
      | some b =>
        refine congrArg some (List.flatten_filter_ne_nil.trans ?_)
        show a ++ (b ++ []) = a ++ b
        rw [List.append_nil]
  cases c with
  | drive l r => exact two _ _
  | brake => exact two _ _
  | standby => exact two _ _

/-- A call of the driver writes its two frames, each at once. -/
theorem writes_eq {d : UartMotorDriver} (hfd : 0 ≤ d.fd) (c : DriverCall) :
    d.writes c = some ((packets d.speedScale c).map Packet.wire) := by
  have two (p q : Packet) : (do
      let frames ← [sendFrame d p.cmd (some p.payload) p.len,
        sendFrame d q.cmd (some q.payload) q.len].mapM id
      return frames.filter (· ≠ [])) = some ([p, q].map Packet.wire) := by
    rw [sendFrame_eq hfd, sendFrame_eq hfd]
    rfl
  cases c with
  | drive l r => exact two (speedPacket 0 _) (speedPacket 1 _)
  | brake => exact two (brakePacket 0) (brakePacket 1)
  | standby => exact two (stopPacket 0) (stopPacket 1)

/-- Nothing is written on a port that is not open. -/
theorem writes_closed {d : UartMotorDriver} (hfd : d.fd < 0) (c : DriverCall) :
    d.writes c = some [] := by
  have two (p q : Packet) : (do
      let frames ← [sendFrame d p.cmd (some p.payload) p.len,
        sendFrame d q.cmd (some q.payload) q.len].mapM id
      return frames.filter (· ≠ [])) = some [] := by
    simp only [sendFrame, if_pos hfd]
    rfl
  cases c with
  | drive l r => exact two (speedPacket 0 _) (speedPacket 1 _)
  | brake => exact two (brakePacket 0) (brakePacket 1)
  | standby => exact two (stopPacket 0) (stopPacket 1)

/-- What a call of `Motor` writes. -/
def callActs (cfg : Config) (c : MotorCall) : List Act :=
  if cfg.motorFd < 0 then []
  else (packets 150 (c.driverCall MIN_SPEED)).map fun p => .chassis p.wire

theorem motorActs_eq (cfg : Config) (c : MotorCall) :
    motorActs cfg.motor c = some (callActs cfg c) := by
  rw [motorActs, callActs]
  split
  · rw [writes_closed (d := cfg.motor) ‹_›]
    rfl
  · rw [writes_eq (d := cfg.motor) (Int.not_lt.mp ‹_›)]
    simp only [Option.bind_eq_bind, Option.bind_some, List.map_map]
    rfl

theorem framed_callActs (cfg : Config) (c : MotorCall) : Framed (callActs cfg c) := by
  rw [callActs]
  split
  · exact framed_of_no_write fun _ => List.not_mem_nil
  · exact framed_wires _

/-- A call of `Motor` tells the wheels its commands, on a port that is open. -/
theorem told_callActs (cfg : Config) (c : MotorCall) :
    told (callActs cfg c) = if cfg.motorFd < 0 then [] else callCmds c := by
  rw [callActs]
  split
  · rfl
  · rw [told_wires, decode_call]

/-- Told to stop, a wheel is off. -/
theorem stateAfter_standby (as : List (UInt8 × WheelCmd)) {w : UInt8} (hw : w = 0 ∨ w = 1) :
    stateAfter w (as ++ callCmds .standby) = .off := by
  rcases hw with rfl | rfl
  · exact stateAfter_append (c := .stop) rfl
  · exact stateAfter_append (c := .stop) rfl

end TR.Proof.Main
