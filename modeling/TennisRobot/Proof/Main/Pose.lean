import TennisRobot.Proof.Arm.Line
import TennisRobot.Proof.Main.Trace

/-!
# The poses of the arm, read from the line

What is written to the arm is the texts of its movements, one after the other
(`servoTexts_mainTrace`), and they are read back. At the top of every iteration the last of
them for each servo make up a pose, by the state of the game: ready, with the gripper open,
while there is no ball, and lifted, with the gripper closed, while there is one
(`pose_on_line`).
-/

namespace TR.Proof.Main

open TR.Impl.Main
open TR.Spec (rounds rounds_succ oneRound)
open TR.Impl.Arm (ArmCall ServoCmd LineCall lastPulse setAngle grabPos grab release
  sendCommand)
open TR.Impl.Game (Cmd Frame LoopState loop loopBody mainCmds)
open TR.Proof.Arm (decode pulseOf setAngle_eq snprintf_text decode_text text_stop pulseOf_bounds)
open TR.Proof.Game (armCalls armCall? inRounds_run lastPulse_append)

/-! ## Texts -/

/-- What an act writes to the arm. -/
def servoWrite? : Act → Option (List Char)
  | .servo text => some text
  | _ => none

/-- The texts that are written to the arm. -/
def servoTexts (acts : List Act) : List (List Char) := acts.filterMap servoWrite?

/-- What the process writes to the arm. -/
def servoLine (acts : List Act) : List Char := (servoTexts acts).flatten

theorem servoTexts_append (as bs : List Act) :
    servoTexts (as ++ bs) = servoTexts as ++ servoTexts bs :=
  List.filterMap_append

theorem servoTexts_of_no_servo {acts : List Act} (h : ∀ text, .servo text ∉ acts) :
    servoTexts acts = [] := by
  refine List.filterMap_eq_nil_iff.mpr fun act hact => ?_
  cases act with
  | servo text => exact absurd hact (h text)
  | _ => rfl

/-- The commands of a movement are those of `set_angle`, within a second. -/
theorem mem_servoCmds {c : ArmCall} {s : ServoCmd} (h : s ∈ c.servoCmds) :
    ∃ servoId angle, s = setAngle servoId angle ∧ 0 ≤ servoId ∧ servoId ≤ 255 := by
  cases c <;>
    simp only [ArmCall.servoCmds, grab, release, grabPos, List.mem_cons, List.not_mem_nil,
      or_false] at h <;>
    rcases h with rfl | rfl | rfl | rfl | rfl | rfl <;>
    exact ⟨_, _, rfl, by decide, by decide⟩

/-- A command of a movement has its whole text written, which is read back. -/
theorem text_of_mem_servoCmds {c : ArmCall} {s : ServoCmd} (h : s ∈ c.servoCmds) :
    snprintf 32 s.text = s.text ∧ decode s.text = some s ∧
      ∃ body, '!' ∉ body ∧ s.text = body ++ ['!'] := by
  obtain ⟨servoId, angle, rfl, h0, h1⟩ := mem_servoCmds h
  have hrange : Proof.Arm.InRange (.setAngle servoId angle 1000) := ⟨⟨h0, h1⟩, by decide, by decide⟩
  obtain ⟨hlo, -⟩ := pulseOf_bounds angle
  have hp : 0 ≤ (setAngle servoId angle).pulse := by
    rw [setAngle_eq]
    exact Int.le_trans (by decide) hlo
  exact ⟨snprintf_text hrange, decode_text h0 hp (show (0 : Int) ≤ 1000 by decide),
    text_stop h0 hp (show (0 : Int) ≤ 1000 by decide)⟩

section Open

variable {cfg : Config} (hfd : 0 ≤ cfg.armFd)

include hfd

/-- A movement of the arm, on a port that is open. -/
theorem servoTexts_armActs (c : ArmCall) :
    servoTexts (armActs cfg.armFd c) = c.servoCmds.map ServoCmd.text := by
  have hsend : ∀ s ∈ c.servoCmds,
      sendCommand cfg.armFd (snprintf 32 s.text) = s.text := fun s hs => by
    rw [sendCommand, if_neg (Int.not_lt.mpr hfd), (text_of_mem_servoCmds hs).1]
  have hne : ∀ t ∈ c.servoCmds.map ServoCmd.text, decide (t ≠ []) = true := by
    intro t ht
    obtain ⟨s, -, rfl⟩ := List.mem_map.mp ht
    simp [ServoCmd.text]
  rw [armActs, List.map_congr_left hsend, List.filter_eq_self.mpr hne, servoTexts,
    List.filterMap_map]
  exact List.filterMap_some

theorem servoTexts_cmds (n : Nat) (cmds : List Cmd) :
    servoTexts (cmds.flatMap (cmdTrace cfg n)) =
      ((armCalls cmds).flatMap ArmCall.servoCmds).map ServoCmd.text := by
  induction cmds with
  | nil => rfl
  | cons c cmds ih =>
    rw [List.flatMap_cons, servoTexts_append, ih]
    cases c with
    | motor c | pulse c us =>
      rw [servoTexts_of_no_servo (no_servo_cmdTrace cfg n rfl)]
      rfl
    | arm c =>
      rw [show cmdTrace cfg n (.arm c) = armActs cfg.armFd c from rfl, servoTexts_armActs hfd]
      show _ = ((c :: armCalls cmds).flatMap ArmCall.servoCmds).map ServoCmd.text
      rw [List.flatMap_cons, List.map_append]

theorem servoTexts_loopTrace (s : LoopState) (fs : List (Option Frame × Nat)) :
    servoTexts (loopTrace cfg s fs) = ((armCalls ((loop cfg.stopCenterOffset).outputs s
      (fs.map Prod.fst))).flatMap ArmCall.servoCmds).map ServoCmd.text := by
  induction fs generalizing s with
  | nil => rfl
  | cons f fs ih =>
    have hout : (loop cfg.stopCenterOffset).outputs s ((f :: fs).map Prod.fst) =
        (loopBody cfg.stopCenterOffset s f.1).2 ++
          (loop cfg.stopCenterOffset).outputs (loopBody cfg.stopCenterOffset s f.1).1
            (fs.map Prod.fst) := List.flatMap_cons
    rw [loopTrace, servoTexts_append, servoTexts_cmds hfd, ih, hout, armCalls, armCalls, armCalls,
      List.filterMap_append, List.flatMap_append, List.map_append]

end Open

/-! ## The pose -/

/-- The movements of the arm in a life of the process. -/
def movements (cfg : Config) (fs : List (Option Frame × Nat)) : List ArmCall :=
  if (cameraActs cfg.camera).2 ∧ cfg.modelLoads then
    armCalls (mainCmds cfg.stopCenterOffset (fs.map Prod.fst))
  else [.grabPos]

theorem servoTexts_startTrace {cfg : Config} (hfd : 0 ≤ cfg.armFd) :
    servoTexts (startTrace cfg) = grabPos.map ServoCmd.text := by
  have hboth : servoTexts (handleBoth .signalHandler) = [] := rfl
  have hset : servoTexts [.setMotor] = [] := rfl
  have hconstruct : servoTexts (constructTrace cfg) = [] := servoTexts_of_no_servo fun text => by
    rw [constructTrace]
    split <;> simp
  have hcamera : servoTexts (cameraActs cfg.camera).1 = [] := servoTexts_of_no_servo fun text h => by
    rcases mem_cameraActs h with h | h | h | ⟨sig, hd, h⟩ <;> cases h
  simp only [startTrace, servoTexts_append, hboth, hset, hconstruct, hcamera,
    servoTexts_armActs hfd, List.append_nil, List.nil_append]
  rfl

theorem servoTexts_mainTrace {cfg : Config} (hfd : 0 ≤ cfg.armFd)
    (fs : List (Option Frame × Nat)) : servoTexts (mainTrace cfg fs) =
      ((movements cfg fs).flatMap ArmCall.servoCmds).map ServoCmd.text := by
  have hdestruct : servoTexts (destructTrace cfg) = [] :=
    servoTexts_of_no_servo (no_servo_destructTrace cfg)
  have hcleanup : servoTexts (cleanupTrace cfg (startTrace cfg)) = [] :=
    servoTexts_of_no_servo (no_servo_cleanupTrace cfg _)
  rw [mainTrace, servoTexts_append, servoTexts_startTrace hfd, restTrace, movements]
  cases (cameraActs cfg.camera).2 with
  | false => simp [hdestruct, ArmCall.servoCmds]
  | true =>
    cases cfg.modelLoads with
    | false => simp [hcleanup, hdestruct, servoTexts_append, ArmCall.servoCmds]
    | true =>
      have hset : servoTexts (.setModel :: loopTrace cfg .init fs) =
          servoTexts (loopTrace cfg .init fs) := rfl
      rw [if_neg (by decide), if_neg (by decide), if_pos ⟨rfl, rfl⟩, hset,
        servoTexts_loopTrace hfd, ← List.map_append]
      rfl

/-- After a movement a servo is where the movement has put it. -/
theorem lastPulse_snoc {i p : Int} {c : ArmCall} (h : lastPulse i c.servoCmds = some p)
    (calls : List ArmCall) : lastPulse i ((calls ++ [c]).flatMap ArmCall.servoCmds) = some p := by
  rw [List.flatMap_append, List.flatMap_singleton, lastPulse_append, h]
  rfl

theorem rounds_eq_snoc (n : Nat) : ∃ calls, rounds n = calls ++ [.grabPos] := by
  cases n with
  | zero => exact ⟨[], rfl⟩
  | succ n => exact ⟨rounds n ++ [.grab, .release], by rw [rounds_succ]; simp [oneRound]⟩

/-- The last pulses of the movements: the arm up, and the gripper closed while a ball is
carried. -/
theorem lastPulse_movements (cfg : Config) (fs : List (Option Frame × Nat)) :
    let cmds := (movements cfg fs).flatMap ArmCall.servoCmds
    lastPulse 0 cmds = some (pulseOf 150) ∧ lastPulse 1 cmds = some (pulseOf 100) ∧
      lastPulse 2 cmds = some (pulseOf (if (cameraActs cfg.camera).2 ∧ cfg.modelLoads ∧
        ((loop cfg.stopCenterOffset).run .init (fs.map Prod.fst)).gameState ≠ .chaseBall
        then 50 else 110)) := by
  have hready : lastPulse 0 grabPos = some (pulseOf 150) ∧ lastPulse 1 grabPos = some (pulseOf 100) ∧
      lastPulse 2 grabPos = some (pulseOf 110) := by
    simp only [grabPos, setAngle_eq]
    exact ⟨rfl, rfl, rfl⟩
  have hheld : lastPulse 0 grab = some (pulseOf 150) ∧ lastPulse 1 grab = some (pulseOf 100) ∧
      lastPulse 2 grab = some (pulseOf 50) := by
    simp only [grab, setAngle_eq]
    exact ⟨rfl, rfl, rfl⟩
  have hpos (calls : List ArmCall) := And.intro (lastPulse_snoc (c := .grabPos) hready.1 calls)
    (And.intro (lastPulse_snoc (c := .grabPos) hready.2.1 calls)
      (lastPulse_snoc (c := .grabPos) hready.2.2 calls))
  dsimp only
  by_cases hup : (cameraActs cfg.camera).2 ∧ cfg.modelLoads
  · obtain ⟨n, hn⟩ := inRounds_run cfg.stopCenterOffset (fs.map Prod.fst)
    obtain ⟨calls, hcalls⟩ := rounds_eq_snoc n
    rw [movements, if_pos hup, hn]
    split
    · rename_i hg
      rw [if_neg fun h => h.2.2 hg, hcalls]
      exact hpos calls
    · rename_i hg
      rw [if_pos ⟨hup.1, hup.2, hg⟩]
      exact ⟨lastPulse_snoc (c := .grab) hheld.1 _, lastPulse_snoc (c := .grab) hheld.2.1 _,
        lastPulse_snoc (c := .grab) hheld.2.2 _⟩
  · rw [movements, if_neg hup, if_neg fun h => hup ⟨h.1, h.2.1⟩]
    exact hpos []

/-- What is written to the arm falls into commands of `set_angle`, at any moment. At the top
of every iteration, and where `main` returns, the last ones leave the arm up, and the gripper
closed exactly while the loop is in a state that carries a ball. -/
theorem pose_on_line (cfg : Config) (hfd : 0 ≤ cfg.armFd) (fs : List (Option Frame × Nat)) :
    ∃ acts cmds, mainActs cfg fs = some acts ∧
      (cutAfter '!' (servoLine acts)).map decode = cmds.map some ∧
      lastPulse 0 cmds = some (pulseOf 150) ∧ lastPulse 1 cmds = some (pulseOf 100) ∧
      lastPulse 2 cmds = some (pulseOf (if (cameraActs cfg.camera).2 ∧ cfg.modelLoads ∧
        ((loop cfg.stopCenterOffset).run .init (fs.map Prod.fst)).gameState ≠ .chaseBall
        then 50 else 110)) ∧
      ∀ k, ∃ pre, (cutAfter '!' (servoLine (acts.take k))).map decode = pre.map some ∧
        pre <+: cmds := by
  have htexts := servoTexts_mainTrace hfd fs
  obtain ⟨h0, h1, h2⟩ := lastPulse_movements cfg fs
  have hread {cmds : List ServoCmd} (h : cmds <+: (movements cfg fs).flatMap ArmCall.servoCmds) :
      (cutAfter '!' (cmds.map ServoCmd.text).flatten).map decode = cmds.map some := by
    have htext : ∀ s ∈ cmds, decode s.text = some s ∧
        ∃ body, '!' ∉ body ∧ s.text = body ++ ['!'] := fun s hs => by
      obtain ⟨c, -, hc⟩ := List.mem_flatMap.mp (h.subset hs)
      exact (text_of_mem_servoCmds hc).2
    rw [cutAfter_flatten '!' fun t ht => ?_, List.map_map]
    · exact List.map_congr_left fun s hs => (htext s hs).1
    · obtain ⟨s, hs, rfl⟩ := List.mem_map.mp ht
      exact (htext s hs).2
  refine ⟨_, _, mainActs_eq cfg fs, ?_, h0, h1, h2, fun k => ?_⟩
  · rw [servoLine, htexts]
    exact hread (List.prefix_refl _)
  · -- What is written until then are the first of these texts.
    have htake : servoTexts ((mainTrace cfg fs).take k) <+:
        ((movements cfg fs).flatMap ArmCall.servoCmds).map ServoCmd.text :=
      htexts ▸ (List.take_prefix k _).filterMap _
    obtain ⟨pre, hpre, he⟩ := List.prefix_map_iff.mp htake
    refine ⟨pre, ?_, hpre⟩
    rw [servoLine, he]
    exact hread hpre

/-- With a ball that is grabbed the gripper is closed. -/
theorem pose_on_line_esp32 : ∃ acts cmds,
    mainActs ⟨3, 3, 120, .esp32 true, true⟩ fourBalls = some acts ∧
    (cutAfter '!' (servoLine acts)).map decode = cmds.map some ∧
    lastPulse 0 cmds = some (pulseOf 150) ∧ lastPulse 1 cmds = some (pulseOf 100) ∧
    lastPulse 2 cmds = some (pulseOf 50) ∧
    ∀ k, ∃ pre, (cutAfter '!' (servoLine (acts.take k))).map decode = pre.map some ∧
      pre <+: cmds := by
  obtain ⟨acts, cmds, hacts, hread, hbase, harm, hgrip, hpre⟩ :=
    pose_on_line ⟨3, 3, 120, .esp32 true, true⟩ (by decide) fourBalls
  have hcarries : ((loop 120).run .init (fourBalls.map Prod.fst)).gameState ≠ .chaseBall := by
    decide +kernel
  rw [if_pos ⟨rfl, rfl, hcarries⟩] at hgrip
  exact ⟨acts, cmds, hacts, hread, hbase, harm, hgrip, hpre⟩

end TR.Proof.Main
