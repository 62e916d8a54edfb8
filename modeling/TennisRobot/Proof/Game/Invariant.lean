import TennisRobot.Proof.Game.Exits

/-!
# The invariant of the loop's variables

`LoopInv` is what the counters and flags of `main` satisfy at the top of every
iteration (`loopInv_run`). It is kept by each exit of the loop body
(`LoopInv.exit`), as a whole only: that the robot is never stopped in
`CHASE_BALL` needs the confirmations to be counted from the last grab on, and
the counters of the bucket are shared between the states that use them.
`loopVariables_run` reads it off variable by variable: the handler of the stopped
state is never executed.
-/

namespace TR.Proof.Game

open TR.Impl.Game

/-- What the loop's variables satisfy between iterations. -/
structure LoopInv (s : LoopState) : Prop where
  /-- Chasing, the robot is not stopped, and the bucket's counters are reset. -/
  chase : s.gameState = .chaseBall → s.stopped = false ∧ 0 ≤ s.stopConfirmCnt ∧
    s.stopConfirmCnt < STOP_CONFIRM_CNT ∧ s.bucketLostCnt = 0
  /-- Otherwise it is stopped, with a full count. -/
  carry : s.gameState ≠ .chaseBall → s.stopped = true ∧ s.stopConfirmCnt = STOP_CONFIRM_CNT ∧
    s.alignCnt = 0
  find : s.gameState = .findBucket → 0 ≤ s.bucketConfirm ∧ s.bucketConfirm < BUCKET_CONFIRM_CNT ∧
    0 ≤ s.bucketLostCnt
  confirm : s.gameState ≠ .findBucket → s.bucketConfirm = 0
  approach : s.gameState = .approachBucket → 0 ≤ s.bucketLostCnt ∧
    s.bucketLostCnt ≤ BUCKET_LOST_FRAMES
  deposit : s.gameState = .deposit → s.bucketLostCnt = 0
  align : s.alignOffHead = s.alignCnt ∧ 0 ≤ s.alignCnt

/-! ## One lemma for each game state -/

section States

variable {s : LoopState} (ha : s.alignOffHead = s.alignCnt ∧ 0 ≤ s.alignCnt)

include ha

theorem LoopInv.of_chaseBall (hg : s.gameState = .chaseBall)
    (hc : s.stopped = false ∧ 0 ≤ s.stopConfirmCnt ∧ s.stopConfirmCnt < STOP_CONFIRM_CNT ∧
      s.bucketLostCnt = 0)
    (hb : s.bucketConfirm = 0) : LoopInv s where
  chase _ := hc
  carry h := absurd hg h
  find h := absurd (hg.symm.trans h) (by decide)
  confirm _ := hb
  approach h := absurd (hg.symm.trans h) (by decide)
  deposit h := absurd (hg.symm.trans h) (by decide)
  align := ha

variable (hc : s.stopped = true ∧ s.stopConfirmCnt = STOP_CONFIRM_CNT ∧ s.alignCnt = 0)

include hc

theorem LoopInv.of_findBucket (hg : s.gameState = .findBucket)
    (hb : 0 ≤ s.bucketConfirm ∧ s.bucketConfirm < BUCKET_CONFIRM_CNT) (hl : 0 ≤ s.bucketLostCnt) :
    LoopInv s where
  chase h := absurd (hg.symm.trans h) (by decide)
  carry _ := hc
  find _ := ⟨hb.1, hb.2, hl⟩
  confirm h := absurd hg h
  approach h := absurd (hg.symm.trans h) (by decide)
  deposit h := absurd (hg.symm.trans h) (by decide)
  align := ha

theorem LoopInv.of_approachBucket (hg : s.gameState = .approachBucket)
    (hb : s.bucketConfirm = 0) (hl : 0 ≤ s.bucketLostCnt ∧ s.bucketLostCnt ≤ BUCKET_LOST_FRAMES) :
    LoopInv s where
  chase h := absurd (hg.symm.trans h) (by decide)
  carry _ := hc
  find h := absurd (hg.symm.trans h) (by decide)
  confirm _ := hb
  approach _ := hl
  deposit h := absurd (hg.symm.trans h) (by decide)
  align := ha

theorem LoopInv.of_deposit (hg : s.gameState = .deposit) (hb : s.bucketConfirm = 0)
    (hl : s.bucketLostCnt = 0) : LoopInv s where
  chase h := absurd (hg.symm.trans h) (by decide)
  carry _ := hc
  find h := absurd (hg.symm.trans h) (by decide)
  confirm _ := hb
  approach h := absurd (hg.symm.trans h) (by decide)
  deposit _ := hl
  align := ha

end States

theorem LoopInv.init : LoopInv .init :=
  .of_chaseBall ⟨rfl, le_rfl⟩ rfl ⟨rfl, le_rfl, by decide, rfl⟩ rfl

/-- A robot that is not stopped tracks the ball in the state that notes it. -/
theorem resumed_eq {s : LoopState} (h : s.stopped = false) (f : Frame) (b : Ball) :
    resumed s f b = seen s f b := by
  simp [resumed, h]

/-- Every exit of the loop body keeps the invariant. -/
theorem LoopInv.exit {g : Int} {s s' : LoopState} {f : Option Frame} {out : List Cmd}
    (h : Exit g s f s' out) (hi : LoopInv s) : LoopInv s' := by
  have ha := hi.align
  have hconf : 0 < BUCKET_CONFIRM_CNT := by decide
  have hstop : 0 < STOP_CONFIRM_CNT := by decide
  have hlost : 0 ≤ BUCKET_LOST_FRAMES := by decide
  have hcarry {st : GameState} (hg : s.gameState = st) (hne : st ≠ .chaseBall) :=
    hi.carry (hg.symm ▸ hne)
  have hconfirm {st : GameState} (hg : s.gameState = st) (hne : st ≠ .findBucket) :=
    hi.confirm (hg.symm ▸ hne)
  cases h with
  | noFrame => exact ⟨hi.chase, hi.carry, hi.find, hi.confirm, hi.approach, hi.deposit, hi.align⟩
  | deposit hg => exact .of_chaseBall ⟨rfl, le_rfl⟩ rfl ⟨rfl, le_rfl, hstop, rfl⟩ rfl
  | found hg =>
    exact .of_approachBucket ha (hcarry hg (by decide)) rfl rfl ⟨le_rfl, hlost⟩
  | confirmBucket hg hb hlt =>
    exact .of_findBucket ha (hcarry hg (by decide)) hg ⟨Int.le_add_one (hi.find hg).1, hlt⟩ le_rfl
  | turnForBucket hg =>
    exact .of_findBucket ha (hcarry hg (by decide)) hg ⟨le_rfl, hconf⟩
      (Int.le_add_one (hi.find hg).2.2)
  | lostBucket hg =>
    exact .of_findBucket ha (hcarry hg (by decide)) rfl ⟨le_rfl, hconf⟩
      (Int.le_add_one (hi.approach hg).1)
  | missBucket hg hb hle =>
    exact .of_approachBucket ha (hcarry hg (by decide)) hg (hconfirm hg (by decide))
      ⟨Int.le_add_one (hi.approach hg).1, hle⟩
  | atBucket hg =>
    exact .of_deposit ha (hcarry hg (by decide)) rfl (hconfirm hg (by decide)) rfl
  | toBucket hg =>
    exact .of_approachBucket ha (hcarry hg (by decide)) hg (hconfirm hg (by decide))
      ⟨le_rfl, hlost⟩
  | hold hg hb ht => exact absurd (fun h => by simp [(hi.chase hg).1] at h) ht
  | reverse hg =>
    rw [resumed_eq (hi.chase hg).1]
    exact .of_chaseBall ha hg (hi.chase hg) (hconfirm hg (by decide))
  | grab hg hb ht hz ho hn =>
    obtain ⟨hs, -, hlt, -⟩ := hi.chase hg
    rw [resumed_eq hs] at hn ⊢
    -- The count was below the confirmations before, and has reached them.
    have hfull : s.stopConfirmCnt + 1 = STOP_CONFIRM_CNT := Int.le_antisymm hlt hn
    exact .of_findBucket ⟨rfl, le_rfl⟩ ⟨rfl, hfull, rfl⟩ rfl ⟨le_rfl, hconf⟩ le_rfl
  | confirmStop hg hb ht hz ho hn =>
    obtain ⟨hs, h0, -, hl⟩ := hi.chase hg
    rw [resumed_eq hs] at hn ⊢
    exact .of_chaseBall ⟨rfl, le_rfl⟩ hg ⟨hs, Int.le_add_one h0, hn, hl⟩ (hconfirm hg (by decide))
  | kick hg =>
    obtain ⟨hs, -, -, hl⟩ := hi.chase hg
    rw [resumed_eq hs]
    exact .of_chaseBall ⟨rfl, le_rfl⟩ hg ⟨hs, le_rfl, hstop, hl⟩ (hconfirm hg (by decide))
  | align hg =>
    obtain ⟨hs, -, -, hl⟩ := hi.chase hg
    rw [resumed_eq hs]
    exact .of_chaseBall ⟨congrArg (· + 1) ha.1, Int.le_add_one ha.2⟩ hg ⟨hs, le_rfl, hstop, hl⟩
      (hconfirm hg (by decide))
  | chase hg =>
    obtain ⟨hs, -, -, hl⟩ := hi.chase hg
    rw [resumed_eq hs]
    exact .of_chaseBall ⟨rfl, le_rfl⟩ hg ⟨hs, le_rfl, hstop, hl⟩ (hconfirm hg (by decide))
  | search hg => exact ⟨hi.chase, hi.carry, hi.find, hi.confirm, hi.approach, hi.deposit, hi.align⟩

theorem LoopInv.step {g : Int} {s : LoopState} (f : Option Frame) (hi : LoopInv s) :
    LoopInv ((loop g).step s f).1 :=
  hi.exit (exit_of_loopBody g s f)

/-- The invariant holds at the top of every iteration of every run. -/
theorem loopInv_run (g : Int) (fs : List (Option Frame)) : LoopInv ((loop g).run .init fs) :=
  (loop g).reachable LoopInv.init (fun _ f hi => hi.step f) fs

/-- Chasing, a detected ball is always tracked: the stopped state is never
entered there. -/
theorem LoopInv.tracked {s : LoopState} (hi : LoopInv s) (hg : s.gameState = .chaseBall) (b : Ball) :
    Tracked s b :=
  fun h => by simp [(hi.chase hg).1] at h

/-- Whether the handler of the stopped state is executed. -/
def StoppedHandled (r : Record LoopState (Option Frame) Cmd) : Prop :=
  r.pre.gameState = .chaseBall ∧ (∃ f b, r.input = some f ∧ f.ball = some b) ∧ r.pre.stopped = true

/-- The loop's variables at the top of every iteration of every run. The stopped
state belongs to the bucket's states, and its handler is never executed. -/
theorem loopVariables_run (g : Int) (fs : List (Option Frame)) :
    let s := (loop g).run .init fs
    (s.gameState = .chaseBall → s.stopped = false ∧ 0 ≤ s.stopConfirmCnt ∧
      s.stopConfirmCnt < STOP_CONFIRM_CNT ∧ s.bucketConfirm = 0 ∧ s.bucketLostCnt = 0) ∧
    (s.gameState ≠ .chaseBall → s.stopped = true ∧ s.stopConfirmCnt = STOP_CONFIRM_CNT) ∧
    (0 ≤ s.bucketConfirm ∧ s.bucketConfirm < BUCKET_CONFIRM_CNT ∧
      (s.gameState ≠ .findBucket → s.bucketConfirm = 0)) ∧
    (s.gameState = .approachBucket → 0 ≤ s.bucketLostCnt ∧ s.bucketLostCnt ≤ BUCKET_LOST_FRAMES) ∧
    (s.gameState = .deposit → s.bucketLostCnt = 0) ∧
    (s.alignCnt = s.alignOffHead ∧ 0 ≤ s.alignCnt ∧
      (s.gameState ≠ .chaseBall → s.alignCnt = 0 ∧ s.alignOffHead = 0)) ∧
    ∀ r ∈ (loop g).log .init fs, ¬ StoppedHandled r := by
  have hi := loopInv_run g fs
  dsimp only
  refine ⟨fun hg => ?_, fun hg => ?_, ⟨?_, ?_, hi.confirm⟩, hi.approach, hi.deposit,
    ⟨hi.align.1.symm, hi.align.2, fun hg => ?_⟩, fun r hr => ?_⟩
  · obtain ⟨hs, h0, hlt, hl⟩ := hi.chase hg
    exact ⟨hs, h0, hlt, hi.confirm (by simp [hg]), hl⟩
  · obtain ⟨hs, hc, -⟩ := hi.carry hg
    exact ⟨hs, hc⟩
  · by_cases hg : ((loop g).run .init fs).gameState = .findBucket
    · exact (hi.find hg).1
    · exact (hi.confirm hg).ge
  · by_cases hg : ((loop g).run .init fs).gameState = .findBucket
    · exact (hi.find hg).2.1
    · rw [hi.confirm hg]; decide
  · have h0 := (hi.carry hg).2.2
    exact ⟨h0, hi.align.1.trans h0⟩
  · refine (loop g).log_all (P := fun r => ¬ StoppedHandled r) LoopInv.init (fun _ f hi => hi.step f)
      (fun s f hi => ?_) hr
    rintro ⟨hg, -, hs⟩
    exact absurd hs (by rw [show ((loop g).record s f).pre = s from rfl, (hi.chase hg).1]; decide)

end TR.Proof.Game
