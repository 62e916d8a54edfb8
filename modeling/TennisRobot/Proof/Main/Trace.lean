import TennisRobot.Framework.Failing
import TennisRobot.Proof.Game.ArmCalls
import TennisRobot.Proof.Main.Line

/-!
# The trace of the process

What `main` does is never undefined: `mainActs_eq` gives its acts, with each call of
`Motor` as its frames (`mainTrace`). Up to the camera, and after the loop's end, every
`write` to the chassis is a frame that tells the wheels nothing (`Silent`).
-/

namespace TR.Proof.Main

open TR.Impl.Main TR.Impl.Motor TR.Impl.Uart TR.Spec
open TR.Impl.Arm (ArmCall)
open TR.Impl.Game (Cmd Frame LoopState loopBody)
open TR.Impl.ViCapture (CviCall CVI_SUCCESS)
open TR.Proof.Game (armCall?)
open TR.Proof.Motor TR.Proof.Uart

/-! ## The driver's start and end -/

/-- A frame without a payload. -/
def barePacket (cmd : UInt8) : Packet where
  cmd := cmd
  payload := []
  short := by simp

/-- The frame of `cmd_config`. -/
def configPacket (ppr pwmFreq : UInt16) : Packet where
  cmd := CMD_CONFIG
  payload := putBe16 ppr ++ putBe16 pwmFreq
  short := by simp [putBe16]

/-- With `LEN` 0 nothing of a payload is sent. -/
theorem sendFrame_bare {d : UartMotorDriver} (hfd : 0 ≤ d.fd) (cmd : UInt8)
    (payload : Option (List UInt8)) : sendFrame d cmd payload 0 = some (barePacket cmd).wire := by
  rw [sendFrame, if_neg (Int.not_lt.mpr hfd)]
  cases payload <;> rfl

/-- What the constructor of the driver writes. -/
def constructTrace (cfg : Config) : List Act :=
  if cfg.motorFd < 0 then []
  else [barePacket CMD_INIT, configPacket 4680 20000].map fun p => .chassis p.wire

/-- What the destructors of the camera and of the driver do. -/
def destructTrace (cfg : Config) : List Act :=
  .closeCamera :: if cfg.motorFd < 0 then [] else [.chassis (barePacket CMD_RESET).wire]

theorem constructWrites_eq (cfg : Config) :
    cfg.motor.constructWrites.map (List.map .chassis) = some (constructTrace cfg) := by
  rw [UartMotorDriver.constructWrites, constructTrace]
  by_cases hfd : cfg.motorFd < 0
  · rw [if_pos hfd, if_pos (show cfg.motor.fd < 0 from hfd)]
    rfl
  · have hfd' : 0 ≤ cfg.motor.fd := Int.not_lt.mp hfd
    rw [if_neg hfd, if_neg (show ¬cfg.motor.fd < 0 from hfd), cmdInit, cmdConfig,
      sendFrame_bare hfd']
    have hconfig : sendFrame cfg.motor CMD_CONFIG (some (putBe16 cfg.motor.ppr ++
        putBe16 cfg.motor.pwmFreq)) 4 = some (configPacket 4680 20000).wire :=
      sendFrame_eq hfd' (configPacket 4680 20000)
    simp only [List.mapM_cons, List.mapM_nil, id, hconfig]
    rfl

theorem destructActs_eq (cfg : Config) : destructActs cfg = some (destructTrace cfg) := by
  rw [destructActs, destructTrace, UartMotorDriver.destructWrites]
  by_cases hfd : cfg.motorFd < 0
  · rw [if_pos hfd, if_neg (show ¬cfg.motor.fd ≥ 0 from Int.not_le.mpr hfd)]
    rfl
  · have hfd' : 0 ≤ cfg.motor.fd := Int.not_lt.mp hfd
    rw [if_neg hfd, if_pos hfd', sendFrame_bare hfd']
    rfl

/-! ## The trace -/

/-- What is done up to the camera. -/
def startTrace (cfg : Config) : List Act :=
  handleBoth .signalHandler ++ constructTrace cfg ++ [.setMotor] ++ armActs cfg.armFd .grabPos ++
    (cameraActs cfg.camera).1

/-- What `cleanup_and_exit` does after some acts. -/
def cleanupTrace (cfg : Config) (acts : List Act) : List Act :=
  (if .setMotor ∈ acts then callActs cfg .standby else []) ++
    (if .setCapture ∈ acts then [.closeCamera] else []) ++
    if .setModel ∈ acts then [.cleanupModel] else []

/-- What a command comes to. -/
def cmdTrace (cfg : Config) (n : Nat) : Cmd → List Act
  | .motor c => callActs cfg c
  | .pulse c _ => (List.replicate n (callActs cfg c)).flatten
  | .arm c => armActs cfg.armFd c

/-- What the loop comes to. -/
def loopTrace (cfg : Config) (s : LoopState) : List (Option Frame × Nat) → List Act
  | [] => []
  | (f, n) :: fs =>
    (loopBody cfg.stopCenterOffset s f).2.flatMap (cmdTrace cfg n) ++
      loopTrace cfg (loopBody cfg.stopCenterOffset s f).1 fs

/-- What is done behind the start. -/
def restTrace (cfg : Config) (fs : List (Option Frame × Nat)) : List Act :=
  if !(cameraActs cfg.camera).2 then destructTrace cfg
  else if !cfg.modelLoads then cleanupTrace cfg (startTrace cfg) ++ destructTrace cfg
  else .setModel :: loopTrace cfg .init fs

/-- What `main` does. -/
def mainTrace (cfg : Config) (fs : List (Option Frame × Nat)) : List Act :=
  startTrace cfg ++ restTrace cfg fs

/-- What a signal makes the process do. -/
def signalTrace (cfg : Config) (sig : Signal) (acts : List Act) : List Act :=
  match handlerOf sig acts with
  | .default => []
  | .signalHandler => cleanupTrace cfg acts
  | .platSysHandleSig => [.platErrExit]

theorem startActs_eq (cfg : Config) :
    startActs cfg = some (startTrace cfg, (cameraActs cfg.camera).2) := by
  obtain ⟨ws, hws, h⟩ := Option.map_eq_some_iff.mp (constructWrites_eq cfg)
  rw [startActs, hws, startTrace, ← h]
  rfl

theorem cleanupActs_eq (cfg : Config) (acts : List Act) :
    cleanupActs cfg acts = some (cleanupTrace cfg acts) := by
  rw [cleanupActs, cleanupTrace]
  split
  · rw [motorActs_eq]
    rfl
  · rfl

theorem cmdActs_eq (cfg : Config) (n : Nat) (c : Cmd) : cmdActs cfg n c = some (cmdTrace cfg n c) := by
  cases c with
  | motor c => exact motorActs_eq cfg c
  | pulse c us =>
    rw [cmdActs, motorActs_eq]
    rfl
  | arm c => rfl

theorem loopActs_eq (cfg : Config) (s : LoopState) (fs : List (Option Frame × Nat)) :
    loopActs cfg s fs = some (loopTrace cfg s fs) := by
  have hcmds (n : Nat) (cmds : List Cmd) :
      cmds.mapM (cmdActs cfg n) = some (cmds.map (cmdTrace cfg n)) :=
    mapM_eq_some_map fun c _ => cmdActs_eq cfg n c
  induction fs generalizing s with
  | nil => rfl
  | cons f fs ih =>
    rw [loopActs]
    dsimp only
    rw [hcmds, ih]
    rfl

/-- What `main` does is never undefined. -/
theorem mainActs_eq (cfg : Config) (fs : List (Option Frame × Nat)) :
    mainActs cfg fs = some (mainTrace cfg fs) := by
  rw [mainActs, startActs_eq, mainTrace, restTrace]
  simp only [Option.bind_eq_bind, Option.bind_some, destructActs_eq, cleanupActs_eq, loopActs_eq]
  split
  · rfl
  · split
    · rw [← List.append_assoc]
      rfl
    · exact congrArg some (List.append_cons _ _ _).symm

theorem onSignal_eq (cfg : Config) (sig : Signal) (acts : List Act) :
    onSignal cfg sig acts = some (signalTrace cfg sig acts) := by
  rw [onSignal, signalTrace]
  cases handlerOf sig acts with
  | signalHandler => exact cleanupActs_eq cfg acts
  | _ => rfl

theorem killedActs_eq (cfg : Config) (fs : List (Option Frame × Nat)) (k : Nat) (sig : Signal) :
    killedActs cfg fs k sig =
      some ((mainTrace cfg fs).take k ++ signalTrace cfg sig ((mainTrace cfg fs).take k)) := by
  rw [killedActs, mainActs_eq]
  simp only [Option.bind_eq_bind, Option.bind_some, onSignal_eq]
  rfl

/-! ## Every write is a frame -/

/-- The acts write frames that are for no wheel. -/
def Silent (acts : List Act) : Prop := Framed acts ∧ ∀ f ∈ sent acts, decode f.1 f.2 = none

theorem Silent.told {acts : List Act} (h : Silent acts) : told acts = [] :=
  List.filterMap_eq_nil_iff.mpr h.2

theorem Silent.append {as bs : List Act} (ha : Silent as) (hb : Silent bs) : Silent (as ++ bs) :=
  ⟨ha.1.append hb.1, fun f h => by
    rw [sent_append] at h
    exact (List.mem_append.mp h).elim (ha.2 f) (hb.2 f)⟩

theorem Silent.take {acts : List Act} (h : Silent acts) (k : Nat) : Silent (acts.take k) :=
  ⟨h.1.take k, fun f hf => h.2 f (((List.take_sublist k acts).filterMap _).subset hf)⟩

theorem silent_of_no_write {acts : List Act} (h : ∀ bytes, .chassis bytes ∉ acts) : Silent acts :=
  ⟨framed_of_no_write h, fun f hf => by
    rw [sent_of_no_write h] at hf
    cases hf⟩

/-- Frames that are for no wheel. -/
theorem silent_wires (ps : List Packet) (h : ∀ p ∈ ps, decode p.cmd p.payload = none) :
    Silent (ps.map fun p => .chassis p.wire) := by
  refine ⟨framed_wires ps, fun f hf => ?_⟩
  rw [sent_wires] at hf
  obtain ⟨p, hp, rfl⟩ := List.mem_map.mp hf
  exact h p hp

theorem no_write_armActs (fd : Int) (c : ArmCall) (bytes : List UInt8) :
    .chassis bytes ∉ armActs fd c := by
  simp [armActs]

theorem no_servo_callActs (cfg : Config) (c : MotorCall) (text : List Char) :
    .servo text ∉ callActs cfg c := by
  rw [callActs]
  split <;> simp

/-- Only the arm's commands are for the arm. -/
theorem no_servo_cmdTrace (cfg : Config) (n : Nat) {c : Cmd} (h : armCall? c = none)
    (text : List Char) : .servo text ∉ cmdTrace cfg n c := by
  intro ht
  cases c with
  | motor c => exact no_servo_callActs cfg c text ht
  | pulse c us =>
    obtain ⟨acts, hacts, ht⟩ := List.mem_flatten.mp ht
    exact no_servo_callActs cfg c text (List.eq_of_mem_replicate hacts ▸ ht)
  | arm c => cases h

theorem no_servo_cleanupTrace (cfg : Config) (acts : List Act) (text : List Char) :
    .servo text ∉ cleanupTrace cfg acts := by
  have := no_servo_callActs cfg .standby text
  simp only [cleanupTrace, List.mem_append]
  split_ifs <;> simp [this]

theorem no_servo_destructTrace (cfg : Config) (text : List Char) :
    .servo text ∉ destructTrace cfg := by
  rw [destructTrace]
  split <;> simp

/-- The start of the camera. -/
theorem mem_cameraActs {camera : Camera} {act : Act} (h : act ∈ (cameraActs camera).1) :
    act = .setCapture ∨ act = .closeCamera ∨ act = .platErrExit ∨
      ∃ sig hd, act = .sigaction sig hd := by
  cases camera with
  | esp32 inited => exact .inl (List.mem_singleton.mp h)
  | uvc opened => exact .inl (List.mem_singleton.mp h)
  | vi init vpss =>
    have hcalls {calls : List CviCall} (h : act ∈ viInitActs calls) :
        act = .platErrExit ∨ ∃ sig hd, act = .sigaction sig hd := by
      obtain ⟨call, -, h⟩ := List.mem_flatMap.mp h
      cases call <;> simp only [handleBoth, List.mem_cons, List.not_mem_nil, or_false] at h
      · exact .inr (h.elim (fun h => ⟨_, _, h⟩) fun h => ⟨_, _, h⟩)
      · exact .inl h
    have hinit {calls : List CviCall} (h : act ∈ .setCapture :: viInitActs calls) :
        act = .setCapture ∨ act = .closeCamera ∨ act = .platErrExit ∨
          ∃ sig hd, act = .sigaction sig hd :=
      (List.mem_cons.mp h).imp_right fun h => .inr (hcalls h)
    simp only [cameraActs] at h
    split_ifs at h
    · exact hinit h
    · exact (List.mem_append.mp h).elim hinit fun h => .inr (.inl (List.mem_singleton.mp h))
    · exact hinit h

theorem no_write_cameraActs (camera : Camera) (bytes : List UInt8) :
    .chassis bytes ∉ (cameraActs camera).1 := by
  intro h
  rcases mem_cameraActs h with h | h | h | ⟨sig, hd, h⟩ <;> cases h

theorem silent_constructTrace (cfg : Config) : Silent (constructTrace cfg) := by
  rw [constructTrace]
  split
  · exact silent_of_no_write fun _ => List.not_mem_nil
  · refine silent_wires _ fun p hp => ?_
    simp only [List.mem_cons, List.not_mem_nil, or_false] at hp
    rcases hp with rfl | rfl <;> rfl

theorem silent_destructTrace (cfg : Config) : Silent (destructTrace cfg) := by
  have hreset : Silent [.chassis (barePacket CMD_RESET).wire] :=
    silent_wires [barePacket CMD_RESET] fun p hp => by
      rw [List.mem_singleton.mp hp]
      rfl
  rw [destructTrace]
  split
  · exact silent_of_no_write fun _ => by simp
  · have hclose : Silent [.closeCamera] := silent_of_no_write fun _ => by simp
    exact hclose.append hreset

theorem silent_startTrace (cfg : Config) : Silent (startTrace cfg) := by
  have hboth : Silent (handleBoth .signalHandler) := silent_of_no_write fun _ => by simp [handleBoth]
  have hset : Silent [.setMotor] := silent_of_no_write fun _ => by simp
  exact (((hboth.append (silent_constructTrace cfg)).append hset).append
    (silent_of_no_write (no_write_armActs cfg.armFd .grabPos))).append
    (silent_of_no_write (no_write_cameraActs cfg.camera))

/-! ## The acts behind the start -/

/-- An act behind the start. -/
inductive RestAct (cfg : Config) : Act → Prop
  | call {c : MotorCall} {act : Act} (h : act ∈ callActs cfg c) : RestAct cfg act
  | arm {c : ArmCall} {act : Act} (h : act ∈ armActs cfg.armFd c) : RestAct cfg act
  | destruct {act : Act} (h : act ∈ destructTrace cfg) : RestAct cfg act
  | closeCamera : RestAct cfg .closeCamera
  | cleanupModel : RestAct cfg .cleanupModel
  | setModel : RestAct cfg .setModel

theorem restAct_of_mem_cleanupTrace {cfg : Config} {acts : List Act} {act : Act}
    (h : act ∈ cleanupTrace cfg acts) : RestAct cfg act := by
  have of_ite {p : Prop} [Decidable p] {as : List Act} (h : act ∈ if p then as else []) :
      act ∈ as := by
    split at h
    · exact h
    · cases h
  rcases List.mem_append.mp h with h | h
  · rcases List.mem_append.mp h with h | h
    · exact .call (of_ite h)
    · exact List.mem_singleton.mp (of_ite h) ▸ .closeCamera
  · exact List.mem_singleton.mp (of_ite h) ▸ .cleanupModel

theorem restAct_of_mem_cmdTrace {cfg : Config} {n : Nat} {c : Cmd} {act : Act}
    (h : act ∈ cmdTrace cfg n c) : RestAct cfg act := by
  cases c with
  | motor c => exact .call h
  | pulse c us =>
    obtain ⟨acts, hacts, h⟩ := List.mem_flatten.mp h
    exact .call (List.eq_of_mem_replicate hacts ▸ h)
  | arm c => exact .arm h

theorem restAct_of_mem_loopTrace {cfg : Config} {s : LoopState} {fs : List (Option Frame × Nat)}
    {act : Act} (h : act ∈ loopTrace cfg s fs) : RestAct cfg act := by
  induction fs generalizing s with
  | nil => cases h
  | cons f fs ih =>
    rcases List.mem_append.mp h with h | h
    · obtain ⟨c, -, h⟩ := List.mem_flatMap.mp h
      exact restAct_of_mem_cmdTrace h
    · exact ih h

theorem restAct_of_mem {cfg : Config} {fs : List (Option Frame × Nat)} {act : Act}
    (h : act ∈ restTrace cfg fs) : RestAct cfg act := by
  rw [restTrace] at h
  split at h
  · exact .destruct h
  · split at h
    · exact (List.mem_append.mp h).elim restAct_of_mem_cleanupTrace .destruct
    · rcases List.mem_cons.mp h with rfl | h
      · exact .setModel
      · exact restAct_of_mem_loopTrace h

/-- A `write` behind the start is a frame. -/
theorem RestAct.framed {cfg : Config} {bytes : List UInt8} (h : RestAct cfg (.chassis bytes)) :
    ∃ p : Packet, bytes = p.wire := by
  cases h with
  | call h => exact framed_callActs cfg _ bytes h
  | arm h => exact absurd h (no_write_armActs _ _ _)
  | destruct h => exact (silent_destructTrace cfg).1 bytes h

/-- Nothing is written on a port that is not open. -/
theorem RestAct.open {cfg : Config} {bytes : List UInt8} (h : RestAct cfg (.chassis bytes)) :
    ¬cfg.motorFd < 0 := by
  intro hfd
  cases h with
  | call h => simp [callActs, hfd] at h
  | arm h => exact no_write_armActs _ _ _ h
  | destruct h => simp [destructTrace, hfd] at h

/-- No handler is installed behind the start. -/
theorem RestAct.not_sigaction {cfg : Config} {sig : Signal} {h : Handler} :
    ¬RestAct cfg (.sigaction sig h) := by
  intro hr
  cases hr with
  | @call c _ ha =>
    rw [callActs] at ha
    split at ha <;> simp at ha
  | arm ha => simp [armActs] at ha
  | destruct ha =>
    rw [destructTrace] at ha
    split at ha <;> simp at ha

theorem framed_cleanupTrace (cfg : Config) (acts : List Act) : Framed (cleanupTrace cfg acts) :=
  fun _ h => (restAct_of_mem_cleanupTrace h).framed

/-- Every `write` to the chassis is a frame. -/
theorem framed_mainTrace (cfg : Config) (fs : List (Option Frame × Nat)) :
    Framed (mainTrace cfg fs) :=
  (silent_startTrace cfg).1.append fun _ h => (restAct_of_mem h).framed

/-- On a port that is not open nothing is told. -/
theorem told_mainTrace_closed {cfg : Config} (hfd : cfg.motorFd < 0)
    (fs : List (Option Frame × Nat)) (k : Nat) : told ((mainTrace cfg fs).take k) = [] := by
  have hrest : Silent (restTrace cfg fs) :=
    silent_of_no_write fun _ h => (restAct_of_mem h).open hfd
  exact (((silent_startTrace cfg).append hrest).take k).told

/-- A ball in front of the gripper, four times: it is grabbed. -/
def fourBalls : List (Option Frame × Nat) :=
  List.replicate 4 (some ⟨320, 320, none, some ⟨3 / 10, 440⟩⟩, 1)

end TR.Proof.Main
