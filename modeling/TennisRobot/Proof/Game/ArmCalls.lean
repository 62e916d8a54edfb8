import TennisRobot.Proof.Game.Invariant
import TennisRobot.Spec.Rounds

/-!
# The ball is held from the grab to the bucket

The arm's calls of a run are those of rounds, the last one perhaps begun
(`inRounds_run`): an exit of the loop body either leaves the arm alone and stays
on its side of `CHASE_BALL`, or grabs and leaves `CHASE_BALL`, or releases the
ball and returns there (`Exit.armCalls`). The arm only moves while the robot
stands (`Exit.standby`, `standby_run`), and while a ball is carried the gripper
is closed (`lastPulse_grab`). `arm_run` puts these together.
-/

namespace TR.Proof.Game

open TR.Impl.Game TR.Impl.Arm TR.Spec
open TR.Impl.Motor (MotorCall)

/-- The game states in which a ball is carried. -/
def Carrying (st : GameState) : Prop :=
  st = .findBucket ∨ st = .approachBucket ∨ st = .deposit

theorem carrying_iff (st : GameState) : Carrying st ↔ st ≠ .chaseBall := by
  cases st <;> simp [Carrying]

/-- The call of the arm a command is, if it is one. -/
def armCall? : Cmd → Option ArmCall
  | .arm c => some c
  | _ => none

/-- The call of the motors a command is, if it is one. -/
def motorCall? : Cmd → Option MotorCall
  | .motor c => some c
  | .pulse c _ => some c
  | .arm _ => none

/-- The arm's calls among commands. -/
def armCalls (cmds : List Cmd) : List ArmCall := cmds.filterMap armCall?

/-- The last motor command among commands. -/
def lastMotor (cmds : List Cmd) : Option MotorCall := (cmds.filterMap motorCall?).getLast?

/-- Every movement of the arm is commanded while the robot stands. -/
def ArmAtStandby (cmds : List Cmd) : Prop :=
  ∀ pre c post, cmds = pre ++ .arm c :: post → lastMotor pre = some .standby

@[simp] theorem resumed_gameState (s : LoopState) (f : Frame) (b : Ball) :
    (resumed s f b).gameState = s.gameState := by
  unfold resumed; split <;> rfl

/-! ## One exit -/

/-- What an exit does with the arm, and with the side of `CHASE_BALL` it is on. -/
theorem Exit.armCalls {g : Int} {s s' : LoopState} {f : Option Frame} {out : List Cmd}
    (h : Exit g s f s' out) :
    (Game.armCalls out = [] ∧ (s'.gameState = .chaseBall ↔ s.gameState = .chaseBall)) ∨
    (Game.armCalls out = [.grab] ∧ s.gameState = .chaseBall ∧ s'.gameState ≠ .chaseBall) ∨
    (Game.armCalls out = [.release, .grabPos] ∧ s.gameState ≠ .chaseBall ∧
      s'.gameState = .chaseBall) := by
  cases h with
  | deposit hg => exact .inr (.inr ⟨rfl, by simp [hg], rfl⟩)
  | grab hg => exact .inr (.inl ⟨rfl, hg, by simp⟩)
  | found hg | confirmBucket hg | turnForBucket hg | lostBucket hg | missBucket hg | atBucket hg
  | toBucket hg => exact .inl ⟨rfl, by simp [tick, hg]⟩
  | noFrame => exact .inl ⟨rfl, Iff.rfl⟩
  | hold hg | search hg => exact .inl ⟨rfl, Iff.rfl⟩
  | reverse hg | confirmStop hg | kick hg | align hg | chase hg =>
    exact .inl ⟨rfl, by simp [aligned, hg]⟩

/-- Motor commands that end in standby, then only movements of the arm. -/
theorem armAtStandby_append {m a : List Cmd} (hm : armCalls m = [])
    (ha : a.filterMap motorCall? = []) (h : a ≠ [] → lastMotor m = some .standby) :
    ArmAtStandby (m ++ a) := by
  intro pre c post he
  rcases List.append_eq_append_iff.mp he with ⟨l, rfl, h'⟩ | ⟨l, rfl, h'⟩
  · rw [h', List.filterMap_append, List.append_eq_nil_iff] at ha
    rw [lastMotor, List.filterMap_append, ha.1, List.append_nil]
    exact h (by simp [h'])
  · cases l with
    | nil =>
      rw [List.nil_append] at h'
      rw [List.append_nil] at h
      exact h (h' ▸ List.cons_ne_nil _ _)
    | cons d l =>
      cases (List.cons.inj h').1
      simp [armCalls, armCall?] at hm

/-- The arm only moves at standby, within an exit. -/
theorem Exit.standby {g : Int} {s s' : LoopState} {f : Option Frame} {out : List Cmd}
    (h : Exit g s f s' out) : ArmAtStandby out := by
  have none : ∀ m : List Cmd, Game.armCalls m = [] → ArmAtStandby m := fun m hm => by
    simpa using armAtStandby_append hm (a := []) rfl (absurd rfl)
  cases h with
  | deposit => exact armAtStandby_append (m := [.motor .standby]) rfl rfl fun _ => rfl
  | grab =>
    exact armAtStandby_append (m := [.pulse .brake BRAKE_PULSE_US, .motor .standby]) rfl rfl
      fun _ => rfl
  | _ => exact none _ rfl

/-! ## Runs -/

theorem ArmAtStandby.append {cmds out : List Cmd} (h : ArmAtStandby cmds) (ho : ArmAtStandby out) :
    ArmAtStandby (cmds ++ out) := by
  intro pre c post he
  rcases List.append_eq_append_iff.mp he with ⟨l, rfl, h'⟩ | ⟨l, rfl, h'⟩
  · have := ho l c post h'
    rw [lastMotor] at this ⊢
    rw [List.filterMap_append, List.getLast?_append, this, Option.some_or]
  · cases l with
    | nil => cases ho [] c post h'.symm
    | cons d l =>
      cases (List.cons.inj h').1
      exact h pre c l rfl

/-- The arm only moves at standby, in every run. -/
theorem standby_run (g : Int) (fs : List (Option Frame)) :
    ArmAtStandby ((loop g).outputs .init fs) :=
  (loop g).run_log (J := fun _ l => ArmAtStandby (l.flatMap Record.out))
    (fun pre c post h => by simp at h)
    (fun s l f h => by
      rw [List.flatMap_append, List.flatMap_singleton]
      exact h.append (exit_of_loopBody g s f).standby) fs

/-- The calls made so far are those of rounds, with a grab after them while a
ball is carried. -/
def InRounds (s : LoopState) (calls : List ArmCall) : Prop :=
  ∃ n, calls = if s.gameState = .chaseBall then rounds n else rounds n ++ [.grab]

theorem InRounds.exit {g : Int} {s s' : LoopState} {f : Option Frame} {out : List Cmd}
    {calls : List ArmCall} (h : Exit g s f s' out) (hr : InRounds s calls) :
    InRounds s' (calls ++ Game.armCalls out) := by
  obtain ⟨n, rfl⟩ := hr
  rcases h.armCalls with ⟨ho, hg⟩ | ⟨ho, hg, hg'⟩ | ⟨ho, hg, hg'⟩
  · exact ⟨n, by simp only [ho, List.append_nil, hg]⟩
  · exact ⟨n, by rw [ho, if_pos hg, if_neg hg']⟩
  · refine ⟨n + 1, ?_⟩
    rw [ho, if_neg hg, if_pos hg', rounds_succ, List.append_assoc]
    rfl

theorem inRounds_run (g : Int) (fs : List (Option Frame)) :
    InRounds ((loop g).run .init fs) (armCalls (mainCmds g fs)) := by
  refine (loop g).run_log (J := fun s l =>
    InRounds s (armCalls (.arm .grabPos :: l.flatMap Record.out))) ?_ (fun s l f h => ?_) fs
  · exact ⟨0, rfl⟩
  · rw [List.flatMap_append, List.flatMap_singleton, ← List.cons_append, armCalls,
      List.filterMap_append]
    exact h.exit (exit_of_loopBody g s f)

/-! ## The gripper -/

theorem lastPulse_append (i : Int) (as bs : List ServoCmd) :
    lastPulse i (as ++ bs) = (lastPulse i bs).or (lastPulse i as) := by
  simp only [lastPulse, List.reverse_append, List.find?_append]
  cases bs.reverse.find? _ <;> rfl

/-- After a grab the gripper is closed. -/
theorem lastPulse_grab (calls : List ArmCall) :
    lastPulse 2 ((calls ++ [ArmCall.grab]).flatMap ArmCall.servoCmds) =
      some (angleToPulse ID2_ANGLE_CLOSE) := by
  have h : (setAngle 2 ID2_ANGLE_CLOSE).pulse = angleToPulse ID2_ANGLE_CLOSE := by
    simp only [setAngle]
    rw [if_neg (by norm_num [ID2_ANGLE_CLOSE, ANGLE_MAX])]
  rw [List.flatMap_append, List.flatMap_singleton, lastPulse_append, ← h]
  rfl

/-- In every run: the arm's calls are the beginning of rounds; a ball is held
exactly in the states that carry it, and there the gripper was last commanded
to close; and the arm is only moved while the robot stands. -/
theorem arm_run (g : Int) (fs : List (Option Frame)) :
    (∃ n, armCalls (mainCmds g fs) <+: rounds n) ∧
    (Carrying ((loop g).run .init fs).gameState ↔ Holding (armCalls (mainCmds g fs))) ∧
    (Carrying ((loop g).run .init fs).gameState →
      lastPulse 2 ((armCalls (mainCmds g fs)).flatMap ArmCall.servoCmds) =
        some (angleToPulse ID2_ANGLE_CLOSE)) ∧
    ArmAtStandby ((loop g).outputs .init fs) := by
  obtain ⟨n, h⟩ := inRounds_run g fs
  rw [carrying_iff]
  split at h
  · rename_i hg
    refine ⟨⟨n, h ▸ List.prefix_rfl⟩, ?_, absurd hg, standby_run g fs⟩
    exact iff_of_false (not_not.mpr hg) (h ▸ not_holding_rounds n)
  · rename_i hg
    refine ⟨⟨n + 1, h ▸ grab_prefix n⟩, iff_of_true hg (h ▸ holding_grab n), fun _ => ?_,
      standby_run g fs⟩
    rw [h]; apply lastPulse_grab

end TR.Proof.Game
