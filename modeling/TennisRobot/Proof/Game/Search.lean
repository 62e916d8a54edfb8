import TennisRobot.Proof.Game.Stall

/-!
# The search for a lost ball

Without a ball in view the loop turns to the side where it has last seen one in this
round, for `SEARCH_FRAMES` iterations, and then to and fro. It keeps the last
detection in two variables, of which `DEPOSIT` resets one. `Remembers` is what they
are kept for: they tell how long ago the last detection of the round was, and on which
side (`LastDetection`). So the turn is the one that the detections before call for
(`search_run`).
-/

namespace TR.Proof.Game

open TR.Impl.Game

/-- The offset of the ball that an iteration detects. -/
def detection (r : Iteration) : Option Int :=
  if r.pre.gameState = .chaseBall then r.input.bind fun f => f.ball.map fun b => ballOffset f b
  else none

/-- The last detection of the round is `n` iterations before the last one of `l`, at
the offset `x`. -/
def LastDetection (n : Nat) (x : Int) (l : List Iteration) : Prop :=
  ∃ r, detection r = some x ∧ Ago (fun r => detection r = none ∧ ¬Deposits r) n r l

variable {g : Int} {s s' : LoopState} {f : Option Frame} {out : List Cmd} {l : List Iteration}
  {r : Iteration} {n : Nat} {x : Int}

theorem lastDetection_nil : ¬LastDetection n x [] := fun ⟨_, _, h⟩ => ago_nil h

theorem lastDetection_of_some {y : Int} (h : detection r = some y) :
    LastDetection n x (l ++ [r]) ↔ n = 0 ∧ x = y := by
  unfold LastDetection
  refine ⟨?_, ?_⟩
  · rintro ⟨d, hd, ha⟩
    rcases ago_snoc.mp ha with ⟨hn, rfl⟩ | ⟨hr, -⟩
    · exact ⟨hn, Option.some.inj (hd.symm.trans h)⟩
    · cases hr.1.symm.trans h
  · rintro ⟨rfl, rfl⟩
    exact ⟨r, h, ago_snoc.mpr (.inl ⟨rfl, rfl⟩)⟩

theorem lastDetection_of_deposits (h : Deposits r) : ¬LastDetection n x (l ++ [r]) := by
  rintro ⟨d, hd, ha⟩
  rcases ago_snoc.mp ha with ⟨-, rfl⟩ | ⟨hr, -⟩
  · -- Nothing is detected in `DEPOSIT`.
    rw [detection, h.1] at hd
    cases hd
  · exact hr.2 h

theorem lastDetection_of_none (h : detection r = none) (hd : ¬Deposits r) :
    LastDetection n x (l ++ [r]) ↔ ∃ m, n = m + 1 ∧ LastDetection m x l := by
  unfold LastDetection
  refine ⟨?_, ?_⟩
  · rintro ⟨d, hx, ha⟩
    rcases ago_snoc.mp ha with ⟨-, rfl⟩ | ⟨-, m, hm, ha⟩
    · cases hx.symm.trans h
    · exact ⟨m, hm, d, hx, ha⟩
  · rintro ⟨m, hm, d, hx, ha⟩
    exact ⟨d, hx, ago_snoc.mpr (.inr ⟨⟨h, hd⟩, m, hm, ha⟩)⟩

/-! ## The variables -/

/-- `frame_idx`, `last_offset` and `last_seen_frame` after the iterations `l`. -/
structure Remembers (s : LoopState) (l : List Iteration) : Prop where
  frame : s.frameIdx = l.length
  le : s.lastSeenFrame ≤ s.frameIdx
  last : ∀ n x, LastDetection n x l ↔
    0 ≤ s.lastSeenFrame ∧ s.lastSeenFrame = s.frameIdx - n ∧ x = s.lastOffset

theorem Remembers.init : Remembers .init [] where
  frame := rfl
  le := by decide
  last n x := iff_of_false lastDetection_nil fun h => absurd h.1 (by decide)

section Step

variable (h : Remembers s l) (hf : s'.frameIdx = s.frameIdx + 1)

include h hf

theorem Remembers.frame_snoc : s'.frameIdx = (l ++ [r]).length := by
  rw [hf, h.frame, List.length_append]
  rfl

theorem Remembers.of_some {y : Int} (hr : detection r = some y) (ho : s'.lastOffset = y)
    (hs : s'.lastSeenFrame = s.frameIdx + 1) : Remembers s' (l ++ [r]) where
  frame := h.frame_snoc hf
  le := by rw [hs, hf]
  last n x := by
    have hpos := h.frame
    rw [lastDetection_of_some hr, ho, hs, hf]
    omega

theorem Remembers.of_deposits (hr : Deposits r) (hs : s'.lastSeenFrame = -999) :
    Remembers s' (l ++ [r]) where
  frame := h.frame_snoc hf
  le := by
    have hpos := h.frame
    rw [hs, hf]
    omega
  last n x := by
    refine iff_of_false (lastDetection_of_deposits hr) fun hx => ?_
    rw [hs] at hx
    omega

theorem Remembers.of_none (hr : detection r = none) (hd : ¬Deposits r)
    (ho : s'.lastOffset = s.lastOffset) (hs : s'.lastSeenFrame = s.lastSeenFrame) :
    Remembers s' (l ++ [r]) where
  frame := h.frame_snoc hf
  le := by
    have hle := h.le
    rw [hs, hf]
    omega
  last n x := by
    have hle := h.le
    rw [lastDetection_of_none hr hd, ho, hs, hf]
    refine ⟨?_, fun ⟨h0, hn, hx⟩ => ?_⟩
    · rintro ⟨m, rfl, hm⟩
      obtain ⟨h0, hn, hx⟩ := (h.last m x).mp hm
      exact ⟨h0, by omega, hx⟩
    · exact ⟨n - 1, by omega, (h.last _ _).mpr ⟨h0, by omega, hx⟩⟩

end Step

theorem detection_ball {f : Frame} {b : Ball} (hg : s.gameState = .chaseBall)
    (hb : f.ball = some b) : detection ⟨s, some f, out⟩ = some (ballOffset f b) := by
  simp [detection, hg, hb]

theorem detection_other (hg : s.gameState ≠ .chaseBall) : detection ⟨s, f, out⟩ = none :=
  if_neg hg

/-- Every exit keeps the variables right. -/
theorem Remembers.exit (h : Exit g s f s' out) (hi : LoopInv s) (hs : Remembers s l) :
    Remembers s' (l ++ [⟨s, f, out⟩]) := by
  cases h with
  | noFrame => exact hs.of_none rfl (by simp [detection]) (fun hd => by cases hd.2) rfl rfl
  | deposit hg => exact hs.of_deposits rfl ⟨hg, rfl⟩ rfl
  | found hg | confirmBucket hg | turnForBucket hg | lostBucket hg | missBucket hg | atBucket hg
  | toBucket hg =>
    exact hs.of_none rfl (detection_other (state_ne hg (by decide)))
      (fun hd => state_ne hg (by decide) hd.1) rfl rfl
  | hold hg hb => exact hs.of_some rfl (detection_ball hg hb) rfl rfl
  | reverse hg hb | grab hg hb | confirmStop hg hb | kick hg hb | align hg hb | chase hg hb =>
    rw [resumed_eq (hi.chase hg).1]
    exact hs.of_some rfl (detection_ball hg hb) rfl rfl
  | search hg hb =>
    exact hs.of_none rfl (by simp [detection, hb]) (fun hd => state_ne hg (by decide) hd.1) rfl rfl

/-- The variables are right before every iteration. -/
theorem remembers_run (g : Int) (fs : List (Option Frame)) :
    Remembers ((loop g).run .init fs) ((loop g).log .init fs) := by
  refine ((loop g).run_log (J := fun s l => LoopInv s ∧ Remembers s l) ⟨.init, .init⟩ ?_ fs).2
  rintro s l f ⟨hi, hs⟩
  exact ⟨hi.step f, hs.exit (exit_of_loopBody g s f) hi⟩

/-! ## The turn -/

/-- A turn on the spot, to the right or to the left. -/
def turn (toRight : Prop) [Decidable toRight] : List Cmd :=
  [.motor (if toRight then Impl.Motor.right SEARCH_PIVOT_SPD else Impl.Motor.left SEARCH_PIVOT_SPD)]

/-- `SEARCH` turns to where the ball was. -/
theorem searchBall_of_seen (h0 : 0 ≤ s.lastSeenFrame)
    (hn : s.frameIdx - s.lastSeenFrame ≤ SEARCH_FRAMES) :
    [.motor (searchBall s)] = turn (0 ≤ s.lastOffset) := by
  unfold searchBall turn
  rw [if_pos ⟨h0, hn⟩]
  dsimp only
  split <;> rfl

/-- `SCAN` changes the direction every 60 iterations. -/
theorem searchBall_of_not_seen {n : Nat} (hf : s.frameIdx = n)
    (h : ¬(0 ≤ s.lastSeenFrame ∧ s.frameIdx - s.lastSeenFrame ≤ SEARCH_FRAMES)) :
    [.motor (searchBall s)] = turn (n / 60 % 2 = 0) := by
  have hdir : ((n : Int).tdiv 60).tmod 2 = 0 ↔ n / 60 % 2 = 0 := by
    rw [Int.tdiv_eq_ediv_of_nonneg (by omega), Int.tmod_eq_emod_of_nonneg (by omega)]
    omega
  unfold searchBall turn
  rw [if_neg h, hf]
  simp only [hdir]
  split <;> rfl

/-- An iteration of `CHASE_BALL` without a ball turns to where the last ball of the
round was, if that was at most `SEARCH_FRAMES` iterations ago; otherwise it is the
number of the iteration that the direction depends on. -/
theorem search_run (g : Int) (fs : List (Option Frame)) (pre post : List Iteration) (r : Iteration)
    (h : (loop g).log .init fs = pre ++ r :: post) (f : Frame) (hf : r.input = some f)
    (hg : r.pre.gameState = .chaseBall) (hb : f.ball = none) :
    (∀ n x, LastDetection n x pre → (n : Int) + 1 ≤ SEARCH_FRAMES → r.out = turn (0 ≤ x)) ∧
    ((¬∃ n x, LastDetection n x pre ∧ (n : Int) + 1 ≤ SEARCH_FRAMES) →
      r.out = turn ((pre.length + 1) / 60 % 2 = 0)) := by
  obtain ⟨js, i, rfl, rfl⟩ := (loop g).log_eq_append_cons h
  have hs := remembers_run g js
  generalize (loop g).run .init js = s at *
  generalize (loop g).log .init js = l at *
  obtain rfl : i = some f := hf
  have hout : ((loop g).record s (some f)).out = [.motor (searchBall (tick s))] :=
    congrArg Prod.snd (loopBody_searchBall hg hb)
  rw [hout]
  refine ⟨fun n x hx hn => ?_, fun hno => ?_⟩
  · obtain ⟨h0, hseen, rfl⟩ := (hs.last n x).mp hx
    have hlost : s.frameIdx + 1 - s.lastSeenFrame ≤ SEARCH_FRAMES := by omega
    exact searchBall_of_seen (s := tick s) h0 hlost
  · have hidx : (tick s).frameIdx = ((l.length + 1 : Nat) : Int) := by
      show s.frameIdx + 1 = _
      rw [hs.frame]
      rfl
    refine searchBall_of_not_seen hidx fun ⟨h0, hlost⟩ => hno ?_
    -- The last detection would be as many iterations ago as the variable says.
    have h0 : 0 ≤ s.lastSeenFrame := h0
    have hlost : s.frameIdx + 1 - s.lastSeenFrame ≤ SEARCH_FRAMES := hlost
    have hle := hs.le
    refine ⟨(s.frameIdx - s.lastSeenFrame).toNat, s.lastOffset, (hs.last _ _).mpr ?_, ?_⟩
    · exact ⟨h0, by omega, rfl⟩
    · omega

theorem search_run_lostBall :
    let fs := [some ballBeside, none]
    let pre := (loop 120).log .init fs
    let r := (loop 120).record ((loop 120).run .init fs) (some noBall)
    (∀ n x, LastDetection n x pre → (n : Int) + 1 ≤ SEARCH_FRAMES → r.out = turn (0 ≤ x)) ∧
    ((¬∃ n x, LastDetection n x pre ∧ (n : Int) + 1 ≤ SEARCH_FRAMES) →
      r.out = turn ((pre.length + 1) / 60 % 2 = 0)) :=
  search_run 120 ([some ballBeside, none] ++ [some noBall]) _ [] _ ((loop 120).log_snoc _ _ _)
    noBall rfl (by decide +kernel) rfl

end TR.Proof.Game
