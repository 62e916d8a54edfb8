import TennisRobot.Proof.Game.Steering
import TennisRobot.Proof.Main.Session
import TennisRobot.Proof.Perception.Seen

/-!
# From the picture to the line

What the chassis is told in an iteration that sees a ball, by where a ball really is in the
camera's picture. The ball that the loop follows is one of those in the picture, with a
centre and a share of it that are off by what the letterboxes lose (`BallNear`). So with that
much to spare (`share`, `LiesRight`, `LiesLeft`), the frames on the line drive the wheels
towards a ball that is far, turn on the spot or stand before one that is near, and go back
from one that is too near (`sight_on_line`).
-/

namespace TR.Proof.Main

open TR.Impl.Game TR.Impl.Main TR.Impl.Motor TR.Spec
open TR.Impl.Detect (Box)
open TR.Impl.Perception (Shot observe frameSize)
open TR.Proof.Game TR.Proof.Motor TR.Proof.Perception TR.Proof.Uart

/-! ## What a ball makes the loop do -/

/-- A call that stands, or turns on the spot towards a ball beside the gripper. -/
def StandsOrTurns (stopOff : Int) (c : MotorCall) : Prop :=
  c = .brake ∨ c = .standby ∨ ∃ v, -3 ≤ v ∧ v ≤ 3 ∧ c = .drive v (-v) ∧
    (0 < stopOff → 0 < v) ∧ (stopOff ≤ 0 → v < 0)

section Exits

variable {g : Int} {s s' : LoopState} {f : Frame} {b : Ball} {out : List Cmd}
  (h : Exit g s (some f) s' out) (hi : LoopInv s) (hg : s.gameState = .chaseBall)
  (hb : f.ball = some b)

include h hi hg hb

/-- From a ball that is too near the robot goes back. -/
theorem reverse_of_tooNear (ha : AREA_REVERSE ≤ b.areaRatio) :
    out = [.motor (reverseDrive (ballOffset f b))] := by
  have hstop : AREA_STOP < AREA_REVERSE := by norm_num [AREA_STOP, AREA_REVERSE]
  cases h with
  | reverse hg' hb' => rw [Option.some.inj (hb.symm.trans hb')]
  | hold hg' hb' ht => exact absurd (hi.tracked hg' _) ht
  | grab hg' hb' ht hz | confirmStop hg' hb' ht hz | kick hg' hb' ht hz | align hg' hb' ht hz =>
    cases Option.some.inj (hb.symm.trans hb')
    exact absurd ha (not_le.mpr hz.2)
  | chase hg' hb' ht ha' =>
    cases Option.some.inj (hb.symm.trans hb')
    exact absurd (hstop.le.trans ha) (not_le.mpr ha')
  | search hg' hb' => cases hb.symm.trans hb'
  | deposit hg' | found hg' | confirmBucket hg' | turnForBucket hg' | lostBucket hg'
  | missBucket hg' | atBucket hg' | toBucket hg' => cases hg.symm.trans hg'

/-- Before a ball to stop at the robot stands, or turns on the spot. -/
theorem standsOrTurns_of_inStopZone (hz : InStopZone b) :
    ∀ c ∈ out.filterMap motorCall?, StandsOrTurns (ballOffset f b - g) c := by
  cases h with
  | hold hg' hb' ht => exact absurd (hi.tracked hg' _) ht
  | reverse hg' hb' ht ha =>
    cases Option.some.inj (hb.symm.trans hb')
    exact absurd ha (not_le.mpr hz.2)
  | chase hg' hb' ht ha =>
    cases Option.some.inj (hb.symm.trans hb')
    exact absurd hz.1 (not_le.mpr ha)
  | confirmStop => exact fun c hc => .inl (List.mem_singleton.mp hc)
  | grab =>
    intro c hc
    rcases List.mem_pair.mp hc with rfl | rfl
    · exact .inl rfl
    · exact .inr (.inl rfl)
  | kick hg' hb' ht hz ho hs hk =>
    cases Option.some.inj (hb.symm.trans hb')
    intro c hc
    rcases List.mem_pair.mp hc with rfl | rfl
    · refine .inr (.inr ⟨_, ?_, ?_, rfl, ?_, ?_⟩) <;> rw [hk] <;> unfold ALIGN_KICK_SPD <;>
        split <;> omega
    · exact .inl rfl
  | align hg' hb' ht hz ho hs hp =>
    cases Option.some.inj (hb.symm.trans hb')
    intro c hc
    rw [pivot_eq] at hp
    rw [List.mem_singleton.mp hc]
    refine .inr (.inr ⟨_, ?_, ?_, rfl, ?_, ?_⟩) <;> rw [hp] <;> split <;> omega
  | search hg' hb' => cases hb.symm.trans hb'
  | deposit hg' | found hg' | confirmBucket hg' | turnForBucket hg' | lostBucket hg'
  | missBucket hg' | atBucket hg' | toBucket hg' => cases hg.symm.trans hg'

/-- Before a ball to stop at something is told. -/
theorem exists_motor_of_inStopZone (hz : InStopZone b) : ∃ c, .motor c ∈ out := by
  cases h with
  | hold hg' hb' ht => exact absurd (hi.tracked hg' _) ht
  | reverse hg' hb' ht ha =>
    cases Option.some.inj (hb.symm.trans hb')
    exact absurd ha (not_le.mpr hz.2)
  | chase hg' hb' ht ha =>
    cases Option.some.inj (hb.symm.trans hb')
    exact absurd hz.1 (not_le.mpr ha)
  | confirmStop | align => exact ⟨_, .head _⟩
  | grab | kick => exact ⟨_, .tail _ (.head _)⟩
  | search hg' hb' => cases hb.symm.trans hb'
  | deposit hg' | found hg' | confirmBucket hg' | turnForBucket hg' | lostBucket hg'
  | missBucket hg' | atBucket hg' | toBucket hg' => cases hg.symm.trans hg'

end Exits

/-! ## Where a ball lies -/

/-- Half the width of the camera's picture. -/
def half (s : Shot) : Int := s.cols.tdiv 2

/-- The share of the picture that a box has. -/
def share (s : Shot) (b : Box) : Rat := b.w * b.h / (s.cols * s.rows : Int)

/-- What the loop's idea of this share can be off by. -/
def shareError (cfg : Impl.Perception.Config) (s : Shot) (b : Box) : Rat :=
  edgeError cfg s * (b.w + b.h + edgeError cfg s) / (s.cols * s.rows : Int)

/-- The centre of a box is more than `d` to the right of `x`, with `e` to spare and the part of a
pixel that an `int` loses. -/
def LiesRight (e x d : Rat) (b : Box) : Prop := x + d + e + 1 ≤ b.x

/-- The centre of a box is more than `d` to the left of `x`. -/
def LiesLeft (x d : Rat) (b : Box) : Prop := b.x < x - d

/-- The speeds turn the robot to the side on which a box lies. -/
def TurnsTo (e x d : Rat) (b : Box) (l r : Int) : Prop :=
  (LiesRight e x d b → r < l) ∧ (LiesLeft x d b → l < r)

section Sides

variable {e : Rat} {w h : Int} {b : Box} {ball : Ball} (hn : BallNear e w h b ball)

include hn

/-- The ball that is seen is on the side of the one in the picture. -/
theorem lt_of_liesRight {x d : Rat} (hr : LiesRight e x d b) : d < ball.cx - x := by
  unfold LiesRight at hr
  linarith [hn.lt_cx]

theorem lt_of_liesLeft {x d : Rat} (hl : LiesLeft x d b) : ball.cx - x < -d := by
  unfold LiesLeft at hl
  linarith [hn.cx_le]

/-- Wheels that turn towards what is seen turn towards what is there. -/
theorem turnsTo_of_steers {x : Int} {d : Rat} (hd : 0 ≤ d) {l r : Int}
    (h : d < |((ball.cx - x : Int) : Rat)| → Steers (ball.cx - x) l r) :
    TurnsTo e x d b (sentSpeed MIN_SPEED l) (sentSpeed MIN_SPEED r) := by
  constructor
  · intro hr
    have hlt : d < ((ball.cx - x : Int) : Rat) := by
      push_cast
      exact lt_of_liesRight hn hr
    have hpos : (0 : Rat) < ((ball.cx - x : Int) : Rat) := hd.trans_lt hlt
    exact (h (hlt.trans_le (le_abs_self _))).1 (by exact_mod_cast hpos)
  · intro hl
    have hlt : ((ball.cx - x : Int) : Rat) < -d := by
      push_cast
      exact lt_of_liesLeft hn hl
    have hneg : ((ball.cx - x : Int) : Rat) < 0 := hlt.trans_le (neg_nonpos.mpr hd)
    exact (h ((lt_neg.mp hlt).trans_le (neg_le_abs _))).2 (by exact_mod_cast hneg)

end Sides

/-! ## What the wheels are told -/

/-- The commands of an iteration, in pairs. -/
def pairsOf (n : Nat) (out : List Cmd) : List (WheelCmd × WheelCmd) :=
  (out.flatMap (made n)).map pairOf

theorem told_cmds {cfg : Config} (hfd : ¬cfg.motorFd < 0) (n : Nat) (out : List Cmd) :
    told (out.flatMap (cmdTrace cfg n)) = (pairsOf n out).flatMap fun p => [(0, p.1), (1, p.2)] := by
  have hcall (c : MotorCall) : (callFrames c).filterMap (fun f => decode f.1 f.2) = callCmds c := by
    rw [callFrames, List.filterMap_map]
    exact decode_call c
  rw [told, sent_cmds hfd, List.filterMap_flatMap, pairsOf, List.flatMap_map]
  exact congrArg (List.flatMap · (out.flatMap (made n))) (funext hcall)

theorem pairsOf_ne_nil {out : List Cmd} (h : ∃ c, .motor c ∈ out) (n : Nat) :
    pairsOf n out ≠ [] := by
  obtain ⟨c, hc⟩ := h
  have hmade : c ∈ out.flatMap (made n) :=
    List.mem_flatMap.mpr ⟨.motor c, hc, List.mem_singleton.mpr rfl⟩
  exact List.ne_nil_of_mem (List.mem_map_of_mem hmade)

/-- What the wheels are told when the robot's ball is `b`. -/
structure DrivesBy (cfg : Impl.Perception.Config) (s : Shot) (g : Int) (b : Box)
    (pairs : List (WheelCmd × WheelCmd)) : Prop where
  /-- A ball that is far is driven to. -/
  far : share s b + shareError cfg s b < AREA_STOP → ∃ l r, pairs = [(.speed l, .speed r)] ∧
    0 ≤ l ∧ 0 ≤ r ∧ 0 < l + r ∧ TurnsTo (edgeError cfg s) (half s) (max 5 (half s / 6)) b l r
  /-- Before one that is near the robot stands or turns on the spot, the gripper to the ball. -/
  near : AREA_STOP + shareError cfg s b ≤ share s b →
    share s b + shareError cfg s b < AREA_REVERSE → pairs ≠ [] ∧ ∀ p ∈ pairs,
      p = (.brake, .brake) ∨ p = (.stop, .stop) ∨ ∃ v, p = (.speed v, .speed (-v)) ∧
        TurnsTo (edgeError cfg s) (half s + g) 20 b v (-v)
  /-- From one that is too near it goes back. -/
  tooNear : AREA_REVERSE + shareError cfg s b ≤ share s b → ∃ l r,
    pairs = [(.speed l, .speed r)] ∧ l < 0 ∧ r < 0 ∧ TurnsTo (edgeError cfg s) (half s) 5 b l r

/-- Towards a ball that is far. -/
theorem chaseDrive_sent {camHalfW : Int} (hw : 1 ≤ camHalfW) {areaRatio : Rat}
    (ha : areaRatio < AREA_STOP) (offset : Int) : ∃ l r,
      chaseDrive camHalfW areaRatio offset = .drive l r ∧ 0 ≤ sentSpeed MIN_SPEED l ∧
      0 ≤ sentSpeed MIN_SPEED r ∧ 0 < sentSpeed MIN_SPEED l + sentSpeed MIN_SPEED r ∧
      (max 5 ((camHalfW : Rat) / 6) < |(offset : Rat)| → Steers offset l r) := by
  have hnear : areaRatio < AREA_NEAR := ha.trans (by norm_num [AREA_STOP, AREA_NEAR])
  have hk : K_TURN = ((6 : Int) : Rat) := by norm_num [K_TURN]
  have hspd := baseSpeed_bounds areaRatio
  have hbias := turnBias_bounds K_TURN camHalfW offset
  have hsign (v : Int) : (0 < sentSpeed MIN_SPEED v ↔ 0 < v) ∧ (sentSpeed MIN_SPEED v < 0 ↔ v < 0) :=
    ⟨sentSpeed_pos_iff (by decide) (by decide), sentSpeed_neg_iff (by decide) (by decide)⟩
  refine ⟨_, _, chaseDrive_eq camHalfW hnear offset, ?_, ?_, ?_, fun hfar => ?_⟩
  · have := (hsign (baseSpeed areaRatio + turnBias K_TURN camHalfW offset)).2
    omega
  · have := (hsign (baseSpeed areaRatio - turnBias K_TURN camHalfW offset)).2
    omega
  · have := hsign (baseSpeed areaRatio + turnBias K_TURN camHalfW offset)
    have := hsign (baseSpeed areaRatio - turnBias K_TURN camHalfW offset)
    omega
  · obtain ⟨h5, h6⟩ := max_lt_iff.mp hfar
    have h5 : CENTER_DEAD_ZONE < |offset| := by exact_mod_cast h5
    have h6 : camHalfW ≤ 6 * |offset| := by
      have h : (camHalfW : Rat) < 6 * |(offset : Rat)| := by linarith
      exact_mod_cast h.le
    rw [hk]
    exact (steers_turnBias_iff ⟨by omega, by omega⟩ hw h5).mpr h6

/-- Away from a ball that is too near. -/
theorem reverseDrive_sent (offset : Int) : ∃ l r, reverseDrive offset = .drive l r ∧
    sentSpeed MIN_SPEED l < 0 ∧ sentSpeed MIN_SPEED r < 0 ∧ (5 < |offset| → Steers offset l r) := by
  have hneg {v : Int} (h : v < 0) : sentSpeed MIN_SPEED v < 0 :=
    (sentSpeed_neg_iff (by decide) (by decide)).mpr h
  refine ⟨_, _, rfl, hneg ?_, hneg ?_, fun h => ⟨fun hpos => ?_, fun hoff => ?_⟩⟩
  · unfold REVERSE_SPEED
    split_ifs <;> omega
  · unfold REVERSE_SPEED
    split_ifs <;> omega
  · have hr : offset > CENTER_DEAD_ZONE := by
      rw [abs_of_pos hpos] at h
      exact h
    rw [if_pos hr, if_pos hr]
    decide
  · have hl : offset < -CENTER_DEAD_ZONE := by
      rw [abs_of_neg hoff] at h
      unfold CENTER_DEAD_ZONE
      omega
    have hr : ¬offset > CENTER_DEAD_ZONE := by
      unfold CENTER_DEAD_ZONE at hl ⊢
      omega
    rw [if_neg hr, if_pos hl, if_neg hr, if_pos hl]
    decide

/-- Beside the gripper. -/
theorem standsOrTurns_sent {e : Rat} {w h g x : Int} {b : Box} {ball : Ball}
    (hn : BallNear e w h b ball) {c : MotorCall} (hc : StandsOrTurns (ball.cx - x - g) c) :
    pairOf c = (.brake, .brake) ∨ pairOf c = (.stop, .stop) ∨
      ∃ v, pairOf c = (.speed v, .speed (-v)) ∧ TurnsTo e (x + g) 20 b v (-v) := by
  rcases hc with rfl | rfl | ⟨v, hlo, hhi, rfl, hpos, hneg⟩
  · exact .inl rfl
  · exact .inr (.inl rfl)
  · have hodd : sentSpeed MIN_SPEED (-v) = -sentSpeed MIN_SPEED v :=
      sentSpeed_neg (by decide) (by decide) v
    refine .inr (.inr ⟨sentSpeed MIN_SPEED v, ?_, ?_⟩)
    · rw [← hodd]
      rfl
    · rw [← hodd]
      have hx : ball.cx - (x + g) = ball.cx - x - g := by omega
      have h := turnsTo_of_steers (x := x + g) hn (show (0 : Rat) ≤ 20 by norm_num) (l := v) (r := -v)
        (fun _ => hx ▸ ⟨fun h0 => sentSpeed_lt (by omega) (by have := hpos h0; omega) (by omega),
          fun h0 => sentSpeed_lt (by omega) (by have := hneg h0.le; omega) (by omega)⟩)
      rwa [Int.cast_add] at h

theorem observe_camHalfW (cfg : Impl.Perception.Config) (s : Shot) :
    (observe cfg s).camHalfW = half s := by
  rw [observe]
  cases hc : cfg.build <;> simp only [frameSize, hc] <;> rfl

/-- An iteration that sees a ball near `b` drives by `b`. -/
theorem drivesBy_of_exit {g : Int} {st st' : LoopState} {cfg : Impl.Perception.Config} {s : Shot}
    {out : List Cmd} (h : Exit g st (some (observe cfg s)) st' out) (hi : LoopInv st)
    (hg : st.gameState = .chaseBall) (hw : 1 < s.cols) {ball : Ball}
    (hball : (observe cfg s).ball = some ball) {b : Box}
    (hn : BallNear (edgeError cfg s) s.cols s.rows b ball) (n : Nat) :
    DrivesBy cfg s g b (pairsOf n out) := by
  have hoff : ballOffset (observe cfg s) ball = ball.cx - half s := by
    rw [ballOffset, observe_camHalfW]
  have harea : |ball.areaRatio - share s b| ≤ shareError cfg s b := hn.area
  obtain ⟨hlo, hhi⟩ := abs_le.mp harea
  refine ⟨fun hfar => ?_, fun hge hlt => ?_, fun hnear => ?_⟩
  · have hhalf : 1 ≤ half s := by
      rw [half, Int.tdiv_eq_ediv_of_nonneg (by omega)]
      omega
    obtain ⟨l, r, hdrive, hl, hr, hlr, hsteers⟩ :=
      chaseDrive_sent hhalf (show ball.areaRatio < AREA_STOP by linarith) (ball.cx - half s)
    rw [h.chase_of_far hi hg hball (by linarith), observe_camHalfW, hoff, hdrive]
    exact ⟨_, _, rfl, hl, hr, hlr, turnsTo_of_steers hn (by positivity) hsteers⟩
  · have hz : InStopZone ball := ⟨by linarith, by linarith⟩
    refine ⟨pairsOf_ne_nil (exists_motor_of_inStopZone h hi hg hball hz) n, fun p hp => ?_⟩
    obtain ⟨c, hc, rfl⟩ := List.mem_map.mp hp
    have hcall := standsOrTurns_of_inStopZone h hi hg hball hz c (mem_motorCalls_of_made hc)
    rw [hoff] at hcall
    exact standsOrTurns_sent hn hcall
  · obtain ⟨l, r, hdrive, hl, hr, hsteers⟩ := reverseDrive_sent (ball.cx - half s)
    rw [reverse_of_tooNear h hi hg hball (by linarith), hoff, hdrive]
    exact ⟨_, _, rfl, hl, hr, turnsTo_of_steers hn (by norm_num) fun h => hsteers (by exact_mod_cast h)⟩

/-! ## One more frame -/

theorem loopTrace_snoc (cfg : Config) (st : LoopState) (fs : List (Option Frame × Nat))
    (f : Option Frame × Nat) : loopTrace cfg st (fs ++ [f]) = loopTrace cfg st fs ++
      (loopBody cfg.stopCenterOffset ((loop cfg.stopCenterOffset).run st (fs.map Prod.fst))
        f.1).2.flatMap (cmdTrace cfg f.2) := by
  induction fs generalizing st with
  | nil =>
    rw [List.nil_append, loopTrace, loopTrace, loopTrace, List.append_nil]
    rfl
  | cons f' fs ih =>
    rw [List.cons_append, loopTrace, ih, ← List.append_assoc]
    rfl

/-- What one more frame adds to what is done. -/
theorem mainTrace_snoc {cfg : Config} (hstart : (cameraActs cfg.camera).2 = true)
    (hload : cfg.modelLoads = true) (fs : List (Option Frame × Nat)) (f : Option Frame × Nat) :
    mainTrace cfg (fs ++ [f]) = mainTrace cfg fs ++
      (loopBody cfg.stopCenterOffset ((loop cfg.stopCenterOffset).run .init (fs.map Prod.fst))
        f.1).2.flatMap (cmdTrace cfg f.2) := by
  simp only [mainTrace, restTrace, hstart, hload, Bool.not_true, Bool.false_eq_true, if_false]
  rw [loopTrace_snoc, List.append_assoc, List.cons_append]

theorem framed_cmds (cfg : Config) (n : Nat) (out : List Cmd) :
    Framed (out.flatMap (cmdTrace cfg n)) := fun _ h => by
  obtain ⟨c, -, h⟩ := List.mem_flatMap.mp h
  exact (restAct_of_mem_cmdTrace h).framed

/-- What one more frame adds to the line: the commands of the iteration, in pairs. -/
theorem frame_on_line {cfg : Config} (hfd : 0 ≤ cfg.motorFd)
    (hstart : (cameraActs cfg.camera).2 = true) (hload : cfg.modelLoads = true)
    (fs : List (Option Frame × Nat)) (f : Frame) (n : Nat) : ∃ out,
      Exit cfg.stopCenterOffset ((loop cfg.stopCenterOffset).run .init (fs.map Prod.fst)) (some f)
        (loopBody cfg.stopCenterOffset ((loop cfg.stopCenterOffset).run .init (fs.map Prod.fst))
          (some f)).1 out ∧
      mainActs cfg (fs ++ [(some f, n)]) =
        some (mainTrace cfg fs ++ out.flatMap (cmdTrace cfg n)) ∧
      wheelCmds (chassisBytes (out.flatMap (cmdTrace cfg n))) =
        some ((pairsOf n out).flatMap fun p => [(0, p.1), (1, p.2)]) := by
  refine ⟨_, exit_of_loopBody _ _ _, ?_, ?_⟩
  · rw [mainActs_eq, mainTrace_snoc hstart hload]
  · rw [wheelCmds_acts (framed_cmds cfg n _), told_cmds (Int.not_lt.mpr hfd)]

/-- While the loop looks for balls, a picture in which all that the model finds are balls makes
the process write frames that drive the robot by one of these. -/
theorem sight_on_line (cfg : Config) (hfd : 0 ≤ cfg.motorFd)
    (hstart : (cameraActs cfg.camera).2 = true) (hload : cfg.modelLoads = true)
    (fs : List (Option Frame × Nat))
    (hg : ((loop cfg.stopCenterOffset).run .init (fs.map Prod.fst)).gameState = .chaseBall)
    (pcfg : Impl.Perception.Config) (hmW : 0 < pcfg.modelW) (hmH : 0 < pcfg.modelH) (s : Shot)
    (hw : 1 < s.cols) (hh : 0 < s.rows) (hne : s.dets ≠ []) (hpos : ∀ d ∈ s.dets, 0 < d.score)
    (hseen : ∀ d ∈ s.dets, ∃ b, Inside s.cols s.rows b ∧ d.bbox = seenBox pcfg s b) (n : Nat) :
    ∃ before acts pairs b, mainActs cfg fs = some before ∧
      mainActs cfg (fs ++ [(some (observe pcfg s), n)]) = some (before ++ acts) ∧
      wheelCmds (chassisBytes acts) = some (pairs.flatMap fun p => [(0, p.1), (1, p.2)]) ∧
      Inside s.cols s.rows b ∧ (∃ d ∈ s.dets, d.bbox = seenBox pcfg s b) ∧
      DrivesBy pcfg s cfg.stopCenterOffset b pairs := by
  obtain ⟨b, ball, hball, hb, hd, hn⟩ :=
    exists_bestBall_near hmW hmH (Int.zero_lt_one.trans hw) hh hpos hseen hne
  obtain ⟨out, hexit, hacts, htold⟩ := frame_on_line hfd hstart hload fs (observe pcfg s) n
  exact ⟨_, _, _, b, mainActs_eq cfg fs, hacts, htold, hb, hd,
    drivesBy_of_exit hexit (loopInv_run _ _) hg hw hball hn n⟩

/-- After three frames with a ball in front of the gripper. -/
theorem sight_on_line_vgaBall : ∃ before acts pairs b,
    mainActs ⟨3, -1, 120, .uvc true, true⟩ (fourBalls.take 3) = some before ∧
    mainActs ⟨3, -1, 120, .uvc true, true⟩
      (fourBalls.take 3 ++ [(some (observe (uvcConfig 320 320) seenShot), 0)]) =
      some (before ++ acts) ∧
    wheelCmds (chassisBytes acts) = some (pairs.flatMap fun p => [(0, p.1), (1, p.2)]) ∧
    Inside 640 480 b ∧ (∃ d ∈ seenShot.dets, d.bbox = seenBox (uvcConfig 320 320) seenShot b) ∧
    DrivesBy (uvcConfig 320 320) seenShot 120 b pairs :=
  sight_on_line ⟨3, -1, 120, .uvc true, true⟩ (by decide) rfl rfl (fourBalls.take 3)
    (by decide +kernel) (uvcConfig 320 320) (by decide) (by decide) seenShot (by decide) (by decide)
    (by decide) (by decide +kernel) seen_seenShot 0

end TR.Proof.Main
