import TennisRobot.Proof.Game.Drives
import TennisRobot.Proof.Main.Trace

/-!
# The line of a process, from its first frame to its last

What stands on the line to the chassis over the whole life of a process: the two frames of
the driver's constructor, then pairs of commands for the wheels, and `CMD_RESET` only where
`main` returns (`session_line`). Wherever the arm is moved in it, the last thing that each
wheel was told is to stop, if it was told anything (`arm_moves_at_rest`).
-/

namespace TR.Proof.Main

open TR.Impl.Main TR.Impl.Motor TR.Impl.Uart TR.Spec
open TR.Impl.Arm (ArmCall)
open TR.Impl.Game (Cmd Frame LoopState loopBody BRAKE_PULSE_US)
open TR.Proof.Motor TR.Proof.Uart
open TR.Proof.Game (Exit exit_of_loopBody SpeedsWithin InEnvelope inEnvelope_mapSpeed armCalls
  motorCall?)

/-! ## The arm and the wheels -/

/-- With what was told before, the wheels are off whenever the arm is moved. -/
def AtRest (before : List (UInt8 × WheelCmd)) (acts : List Act) : Prop :=
  ∀ pre text post, acts = pre ++ .servo text :: post → ∀ w : UInt8, w = 0 ∨ w = 1 →
    stateAfter w (before ++ told pre) = .off

section AtRest

variable {before : List (UInt8 × WheelCmd)} {as bs : List Act}

theorem AtRest.append (ha : AtRest before as) (hb : AtRest (before ++ told as) bs) :
    AtRest before (as ++ bs) := by
  intro pre text post he w hw
  rcases List.append_eq_append_iff.mp he with ⟨l, rfl, h'⟩ | ⟨l, rfl, h'⟩
  · rw [told_append, ← List.append_assoc]
    exact hb l text post h' w hw
  · cases l with
    | nil =>
      have h := hb [] text post h'.symm w hw
      rwa [told_nil, List.append_nil, List.append_nil] at h
    | cons act l =>
      cases (List.cons.inj h').1
      exact ha pre text l rfl w hw

theorem atRest_of_no_servo (h : ∀ text, .servo text ∉ as) : AtRest before as := by
  intro pre text post he
  exact absurd (he ▸ List.mem_append_right _ List.mem_cons_self) (h text)

/-- The wheels stay off while nothing is told. -/
theorem atRest_of_silent (hoff : ∀ w : UInt8, w = 0 ∨ w = 1 → stateAfter w before = .off)
    (h : Silent as) : AtRest before as := by
  rintro pre text post rfl w hw
  have hpre : Silent pre := by
    have := h.take pre.length
    rwa [List.take_left] at this
  rw [hpre.told, List.append_nil]
  exact hoff w hw

end AtRest

/-- Commands of which none is the arm's. -/
theorem atRest_of_no_arm (before : List (UInt8 × WheelCmd)) (cfg : Config) (n : Nat)
    {cmds : List Cmd} (h : armCalls cmds = []) : AtRest before (cmds.flatMap (cmdTrace cfg n)) := by
  refine atRest_of_no_servo fun text ht => ?_
  obtain ⟨c, hc, ht⟩ := List.mem_flatMap.mp ht
  exact no_servo_cmdTrace cfg n (List.filterMap_eq_nil_iff.mp h c hc) text ht

/-- A stop, and then the arm. -/
theorem atRest_standby {before : List (UInt8 × WheelCmd)} {cfg : Config}
    (hfd : ¬cfg.motorFd < 0) (n : Nat) (arm : List ArmCall) :
    AtRest before ((.motor .standby :: arm.map .arm).flatMap (cmdTrace cfg n)) := by
  rw [List.flatMap_cons]
  refine (atRest_of_no_servo (no_servo_callActs cfg .standby)).append (atRest_of_silent ?_ ?_)
  · intro w hw
    show stateAfter w (before ++ told (callActs cfg .standby)) = .off
    rw [told_callActs, if_neg hfd]
    exact stateAfter_standby before hw
  · refine silent_of_no_write fun bytes h => ?_
    obtain ⟨c, hc, h⟩ := List.mem_flatMap.mp h
    obtain ⟨a, -, rfl⟩ := List.mem_map.mp hc
    exact no_write_armActs _ _ _ h

/-- An exit moves the arm after a stop. -/
theorem atRest_of_exit {g : Int} {s s' : LoopState} {f : Option Frame} {out : List Cmd}
    (h : Exit g s f s' out) {cfg : Config} (hfd : ¬cfg.motorFd < 0) (n : Nat)
    (before : List (UInt8 × WheelCmd)) : AtRest before (out.flatMap (cmdTrace cfg n)) := by
  cases h with
  | deposit => exact atRest_standby hfd n [.release, .grabPos]
  | grab =>
    have hpulse : AtRest before (cmdTrace cfg n (.pulse .brake BRAKE_PULSE_US)) := by
      have h := atRest_of_no_arm before cfg n (show armCalls [.pulse .brake BRAKE_PULSE_US] = [] from rfl)
      rwa [List.flatMap_singleton] at h
    exact hpulse.append (atRest_standby hfd n [.grab])
  | _ => exact atRest_of_no_arm before cfg n rfl

theorem atRest_loopTrace {cfg : Config} (hfd : ¬cfg.motorFd < 0)
    (before : List (UInt8 × WheelCmd)) (s : LoopState) (fs : List (Option Frame × Nat)) :
    AtRest before (loopTrace cfg s fs) := by
  induction fs generalizing before s with
  | nil => exact atRest_of_no_servo fun _ => List.not_mem_nil
  | cons f fs ih =>
    exact (atRest_of_exit (exit_of_loopBody _ s f.1) hfd f.2 before).append (ih _ _)

theorem atRest_mainTrace (cfg : Config) (fs : List (Option Frame × Nat)) :
    AtRest [] (mainTrace cfg fs) := by
  have hoff : ∀ w : UInt8, w = 0 ∨ w = 1 → stateAfter w [] = .off := fun _ _ => rfl
  have hstart := silent_startTrace cfg
  by_cases hfd : cfg.motorFd < 0
  · exact atRest_of_silent hoff
      (hstart.append (silent_of_no_write fun _ h => (restAct_of_mem h).open hfd))
  · refine (atRest_of_silent hoff hstart).append ?_
    rw [restTrace]
    split
    · exact atRest_of_no_servo (no_servo_destructTrace cfg)
    · split
      · exact atRest_of_no_servo fun text h =>
          (List.mem_append.mp h).elim (no_servo_cleanupTrace cfg _ text)
            (no_servo_destructTrace cfg text)
      · have hset : AtRest (told (startTrace cfg)) [.setModel] :=
          atRest_of_no_servo fun _ => by simp
        exact hset.append (atRest_loopTrace hfd _ .init fs)

/-- Whenever a command is written to the arm, what is on the line to the chassis until then
leaves both wheels off. -/
theorem arm_moves_at_rest (cfg : Config) (fs : List (Option Frame × Nat)) :
    ∃ acts, mainActs cfg fs = some acts ∧ ∀ pre text post, acts = pre ++ .servo text :: post →
      ∀ w : UInt8, w = 0 ∨ w = 1 → stateOnLine w (chassisBytes pre) = some .off := by
  refine ⟨_, mainActs_eq cfg fs, fun pre text post he w hw => ?_⟩
  have hframed : Framed pre := by
    have h := (framed_mainTrace cfg fs).take pre.length
    rwa [he, List.take_left] at h
  rw [stateOnLine_acts hframed]
  exact congrArg some (atRest_mainTrace cfg fs pre text post he w hw)

/-! ## The frames of a life -/

/-- A pair of commands that the wheels can get. -/
inductive WheelPair : WheelCmd × WheelCmd → Prop
  | speeds {l r : Int} (hl : l = 0 ∨ 22 ≤ l.natAbs ∧ l.natAbs ≤ 30)
    (hr : r = 0 ∨ 22 ≤ r.natAbs ∧ r.natAbs ≤ 30) : WheelPair (.speed l, .speed r)
  | brake : WheelPair (.brake, .brake)
  | stop : WheelPair (.stop, .stop)

/-- The frames of a call. -/
def callFrames (c : MotorCall) : List (UInt8 × List UInt8) :=
  (packets 150 (c.driverCall MIN_SPEED)).map fun p => (p.cmd, p.payload)

theorem sent_callActs {cfg : Config} (hfd : ¬cfg.motorFd < 0) (c : MotorCall) :
    sent (callActs cfg c) = callFrames c := by
  rw [callActs, if_neg hfd, sent_wires, callFrames]

theorem sentSpeed_envelope {v : Int} (h : -7 ≤ v ∧ v ≤ 7) :
    sentSpeed MIN_SPEED v = 0 ∨ 22 ≤ (sentSpeed MIN_SPEED v).natAbs ∧
      (sentSpeed MIN_SPEED v).natAbs ≤ 30 := by
  have hv := inEnvelope_mapSpeed h
  have habs : (sentSpeed MIN_SPEED v).natAbs = (mapSpeed 15 v).natAbs * 150 / 100 := by
    rw [sentSpeed_eq (by decide) (by decide), Int.natAbs_tdiv, Int.natAbs_mul]
    rfl
  unfold InEnvelope at hv
  omega

/-- What a call tells the left and the right wheel. -/
def pairOf (c : MotorCall) : WheelCmd × WheelCmd := Spec.told (sentSpeed MIN_SPEED) (apiCall c)

/-- The commands of a call with the loop's speeds. -/
theorem wheelPair_of_call {c : MotorCall} (h : SpeedsWithin 7 c) : WheelPair (pairOf c) := by
  cases c with
  | drive l r => exact .speeds (sentSpeed_envelope h.1) (sentSpeed_envelope h.2)
  | brake => exact .brake
  | standby => exact .stop

/-- The calls of `Motor` that a command comes to. -/
def made (n : Nat) : Cmd → List MotorCall
  | .motor c => [c]
  | .pulse c _ => List.replicate n c
  | .arm _ => []

theorem mem_motorCalls_of_made {n : Nat} {cmds : List Cmd} {m : MotorCall}
    (h : m ∈ cmds.flatMap (made n)) : m ∈ cmds.filterMap motorCall? := by
  obtain ⟨c, hc, hm⟩ := List.mem_flatMap.mp h
  refine List.mem_filterMap.mpr ⟨c, hc, ?_⟩
  cases c with
  | motor c => exact congrArg some (List.mem_singleton.mp hm).symm
  | pulse c us => exact congrArg some (List.eq_of_mem_replicate hm).symm
  | arm c => cases hm

/-- The frames of a command are those of its calls. -/
theorem sent_cmdTrace {cfg : Config} (hfd : ¬cfg.motorFd < 0) (n : Nat) (c : Cmd) :
    sent (cmdTrace cfg n c) = (made n c).flatMap callFrames := by
  cases c with
  | motor c =>
    show sent (callActs cfg c) = _
    rw [sent_callActs hfd, made, List.flatMap_singleton]
  | pulse c us =>
    show sent (List.replicate n (callActs cfg c)).flatten = (List.replicate n c).flatMap callFrames
    induction n with
    | zero => rfl
    | succ n ih =>
      rw [List.replicate_succ, List.flatten_cons, sent_append, sent_callActs hfd, ih,
        List.replicate_succ, List.flatMap_cons]
  | arm c =>
    rw [cmdTrace, sent_of_no_write (no_write_armActs _ _)]
    rfl

theorem sent_cmds {cfg : Config} (hfd : ¬cfg.motorFd < 0) (n : Nat) (cmds : List Cmd) :
    sent (cmds.flatMap (cmdTrace cfg n)) = (cmds.flatMap (made n)).flatMap callFrames := by
  induction cmds with
  | nil => rfl
  | cons c cmds ih =>
    rw [List.flatMap_cons, sent_append, sent_cmdTrace hfd, ih, List.flatMap_cons,
      List.flatMap_append]

/-- Frames that are calls of `Motor`, with the loop's speeds. -/
def OfCalls (frames : List (UInt8 × List UInt8)) : Prop :=
  ∃ calls : List MotorCall, frames = calls.flatMap callFrames ∧ ∀ c ∈ calls, SpeedsWithin 7 c

theorem ofCalls_nil : OfCalls [] := ⟨[], rfl, fun _ h => nomatch h⟩

theorem OfCalls.append {as bs : List (UInt8 × List UInt8)} (ha : OfCalls as) (hb : OfCalls bs) :
    OfCalls (as ++ bs) := by
  obtain ⟨cs, rfl, hcs⟩ := ha
  obtain ⟨ds, rfl, hds⟩ := hb
  exact ⟨cs ++ ds, List.flatMap_append.symm, fun c h => (List.mem_append.mp h).elim (hcs c) (hds c)⟩

theorem ofCalls_loopTrace {cfg : Config} (hfd : ¬cfg.motorFd < 0) (s : LoopState)
    (fs : List (Option Frame × Nat)) : OfCalls (sent (loopTrace cfg s fs)) := by
  induction fs generalizing s with
  | nil => exact ofCalls_nil
  | cons f fs ih =>
    rw [loopTrace, sent_append, sent_cmds hfd]
    refine .append ⟨_, rfl, fun c hc => ?_⟩ (ih _)
    exact (exit_of_loopBody _ s f.1).speedsWithin c (mem_motorCalls_of_made hc)

theorem decode_callFrames (c : MotorCall) : (callFrames c).map (fun f => decode f.1 f.2) =
    (callCmds c).map some := by
  have h := decode_packets MIN_SPEED (apiCall c)
  rw [motorCall_apiCall] at h
  rw [callFrames, List.map_map]
  exact h

/-- The commands in the frames of calls: pairs, one command for each wheel. -/
theorem OfCalls.pairs {frames : List (UInt8 × List UInt8)} (h : OfCalls frames) :
    ∃ pairs : List (WheelCmd × WheelCmd), (∀ p ∈ pairs, WheelPair p) ∧
      frames.map (fun f => decode f.1 f.2) =
        (pairs.flatMap fun p => [(0, p.1), (1, p.2)]).map some := by
  obtain ⟨calls, rfl, hc⟩ := h
  refine ⟨calls.map pairOf, fun p hp => ?_, ?_⟩
  · obtain ⟨c, hcs, rfl⟩ := List.mem_map.mp hp
    exact wheelPair_of_call (hc c hcs)
  · rw [List.map_flatMap, List.flatMap_map, List.map_flatMap]
    exact congrArg (List.flatMap · calls) (funext decode_callFrames)

theorem sent_constructTrace {cfg : Config} (hfd : ¬cfg.motorFd < 0) :
    sent (constructTrace cfg) = [(CMD_INIT, []), (CMD_CONFIG, [0x12, 0x48, 0x4E, 0x20])] := by
  rw [constructTrace, if_neg hfd, sent_wires]
  rfl

theorem sent_startTrace {cfg : Config} (hfd : ¬cfg.motorFd < 0) :
    sent (startTrace cfg) = [(CMD_INIT, []), (CMD_CONFIG, [0x12, 0x48, 0x4E, 0x20])] := by
  have hboth : sent (handleBoth .signalHandler) = [] := rfl
  have hset : sent [.setMotor] = [] := rfl
  simp only [startTrace, sent_append, hboth, hset, sent_constructTrace hfd,
    sent_of_no_write (no_write_armActs _ _), sent_of_no_write (no_write_cameraActs _),
    List.append_nil, List.nil_append]

theorem sent_destructTrace {cfg : Config} (hfd : ¬cfg.motorFd < 0) :
    sent (destructTrace cfg) = [(CMD_RESET, [])] := by
  rw [destructTrace, if_neg hfd]
  exact sent_wires [barePacket CMD_RESET]

theorem ofCalls_cleanupTrace {cfg : Config} (hfd : ¬cfg.motorFd < 0) (acts : List Act) :
    OfCalls (sent (cleanupTrace cfg acts)) := by
  have hend : sent (if .setCapture ∈ acts then [.closeCamera] else []) = [] ∧
      sent (if .setModel ∈ acts then [.cleanupModel] else []) = [] := by
    constructor <;> split <;> rfl
  rw [cleanupTrace, sent_append, sent_append, hend.1, hend.2, List.append_nil, List.append_nil]
  split
  · refine ⟨[.standby], ?_, fun c hc => List.mem_singleton.mp hc ▸ trivial⟩
    rw [sent_callActs hfd, List.flatMap_singleton]
  · exact ofCalls_nil

/-- The frames behind the start: calls, and `CMD_RESET` where `main` returns. -/
theorem sent_restTrace {cfg : Config} (hfd : ¬cfg.motorFd < 0) (fs : List (Option Frame × Nat)) :
    ∃ body, OfCalls body ∧ sent (restTrace cfg fs) =
      body ++ if (cameraActs cfg.camera).2 ∧ cfg.modelLoads then [] else [(CMD_RESET, [])] := by
  rw [restTrace]
  cases (cameraActs cfg.camera).2 with
  | false => exact ⟨[], ofCalls_nil, by simp [sent_destructTrace hfd]⟩
  | true =>
    cases cfg.modelLoads with
    | false =>
      exact ⟨_, ofCalls_cleanupTrace hfd (startTrace cfg), by simp [sent_destructTrace hfd]⟩
    | true =>
      refine ⟨_, ofCalls_loopTrace hfd .init fs, ?_⟩
      have hset : sent (.setModel :: loopTrace cfg .init fs) = sent (loopTrace cfg .init fs) := rfl
      simpa using hset

/-- The line to the chassis has the frames of the constructor on it, with the encoder's
lines and the frequency of the pulses, then commands for one wheel and the other, at the
speeds of the loop, and `CMD_RESET` where `main` returns. At any moment it has a beginning
of these on it. -/
theorem session_line (cfg : Config) (hfd : 0 ≤ cfg.motorFd) (fs : List (Option Frame × Nat)) :
    ∃ (acts : List Act) (whole body : List (UInt8 × List UInt8))
      (pairs : List (WheelCmd × WheelCmd)),
      mainActs cfg fs = some acts ∧ frames (chassisBytes acts) = some whole ∧
      whole = [(CMD_INIT, []), (CMD_CONFIG, [0x12, 0x48, 0x4E, 0x20])] ++ body ++
        (if (cameraActs cfg.camera).2 ∧ cfg.modelLoads then [] else [(CMD_RESET, [])]) ∧
      (∀ p ∈ pairs, WheelPair p) ∧
      body.map (fun f => decode f.1 f.2) =
        (pairs.flatMap fun p => [(0, p.1), (1, p.2)]).map some ∧
      ∀ k, ∃ pre, frames (chassisBytes (acts.take k)) = some pre ∧ pre <+: whole := by
  have hfd := Int.not_lt.mpr hfd
  have hframed := framed_mainTrace cfg fs
  obtain ⟨body, hbody, hrest⟩ := sent_restTrace hfd fs
  obtain ⟨pairs, hpairs, hdecode⟩ := hbody.pairs
  refine ⟨_, _, body, pairs, mainActs_eq cfg fs, frames_acts hframed, ?_, hpairs, hdecode,
    fun k => ⟨_, frames_acts (hframed.take k), (List.take_prefix k _).filterMap _⟩⟩
  rw [mainTrace, sent_append, sent_startTrace hfd, hrest, List.append_assoc]

/-- With a ball that is grabbed: two frames at the start, and five pairs. -/
theorem session_line_esp32 : ∃ (acts : List Act) (whole body : List (UInt8 × List UInt8))
    (pairs : List (WheelCmd × WheelCmd)),
    mainActs ⟨3, -1, 120, .esp32 true, true⟩ fourBalls = some acts ∧ whole.length = 12 ∧
    frames (chassisBytes acts) = some whole ∧
    whole = [(CMD_INIT, []), (CMD_CONFIG, [0x12, 0x48, 0x4E, 0x20])] ++ body ++
      (if (cameraActs (.esp32 true)).2 ∧ true then [] else [(CMD_RESET, [])]) ∧
    (∀ p ∈ pairs, WheelPair p) ∧
    body.map (fun f => decode f.1 f.2) =
      (pairs.flatMap fun p => [(0, p.1), (1, p.2)]).map some ∧
    ∀ k, ∃ pre, frames (chassisBytes (acts.take k)) = some pre ∧ pre <+: whole := by
  obtain ⟨acts, whole, body, pairs, hacts, hwhole, hrest⟩ :=
    session_line ⟨3, -1, 120, .esp32 true, true⟩ (by decide) fourBalls
  have hlength : ((mainActs ⟨3, -1, 120, .esp32 true, true⟩ fourBalls).bind fun acts =>
      (frames (chassisBytes acts)).map List.length) = some 12 := by decide +kernel
  rw [hacts, Option.bind_some, hwhole] at hlength
  exact ⟨acts, whole, body, pairs, hacts, Option.some.inj hlength, hwhole, hrest⟩

end TR.Proof.Main
