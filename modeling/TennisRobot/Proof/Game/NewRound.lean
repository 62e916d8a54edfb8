import TennisRobot.Proof.Game.Invariant

/-!
# Rounds do not leak into each other

`DEPOSIT` resets the loop's variables but two: the last offset of a ball and the
offsets of `ALIGN` keep what earlier rounds have left (`Alike`). A step reads the
first only when a ball has been seen in the round, and of the others only those
that this round's `ALIGN` has written, so that alike states issue the same and stay
alike (`Alike.step`). After `DEPOSIT` the loop is alike to one that has just been
started (`alike_depositBall`), and what it does from there on depends on nothing
but the frame index (`newRound_outputs`).
-/

namespace TR.Proof.Game

open TR.Impl.Game

/-! ## The offsets of `ALIGN` -/

/-- The first `n` slots of two buffers hold the same. -/
def SameUpTo (n : Int) (a b : Vector Int STALL_BUF) : Prop :=
  ∀ i : Nat, (i : Int) < n → i < STALL_BUF → a.toList.getD i 0 = b.toList.getD i 0

theorem SameUpTo.zero {a b : Vector Int STALL_BUF} : SameUpTo 0 a b := fun _ h _ => by omega

/-- The slot after the first `n` is written, or one of them again. -/
theorem SameUpTo.set {n : Int} (hn : 0 ≤ n) {a b : Vector Int STALL_BUF} (h : SameUpTo n a b)
    (v : Int) : SameUpTo (n + 1) (a.set! (n.tmod STALL_BUF).toNat v)
      (b.set! (n.tmod STALL_BUF).toNat v) := by
  intro i hi hlt
  have hmod : n.tmod STALL_BUF = n % STALL_BUF := Int.tmod_eq_emod_of_nonneg hn
  simp only [Vector.toList_set!, List.getD_eq_getElem?_getD, List.getElem?_set]
  by_cases he : (n.tmod STALL_BUF).toNat = i
  · simp [he]
  · have hi : (i : Int) < n := by
      unfold STALL_BUF at *
      omega
    simpa [he, List.getD_eq_getElem?_getD] using h i hi hlt

/-- The span of the offsets depends on the slots it is taken over. -/
theorem SameUpTo.stallSpan {n : Int} (hn : 1 ≤ n) {a b : Vector Int STALL_BUF}
    (h : SameUpTo n a b) : stallSpan a (min n STALL_BUF) = stallSpan b (min n STALL_BUF) := by
  have hget : ∀ i : Nat, (i : Int) < min n STALL_BUF → a.toList.getD i 0 = b.toList.getD i 0 :=
    fun i hi => h i (by omega) (by omega)
  have h0 := hget 0 (by unfold STALL_BUF; omega)
  unfold Impl.Game.stallSpan
  rw [h0, List.foldl_ext _ _ _ fun p i hi => ?_]
  have hi := List.mem_range'_1.mp hi
  rw [hget i (by omega)]

/-! ## What a round leaves behind -/

/-- A state with other leftovers. -/
def leftover (s : LoopState) (offset : Int) (buf : Vector Int STALL_BUF) : LoopState :=
  { s with lastOffset := offset, alignOffBuf := buf }

/-- Two states that differ in what is not read before it is written. -/
inductive Alike (s : LoopState) : LoopState → Prop
  | intro (offset : Int) (buf : Vector Int STALL_BUF)
    (hoffset : 0 ≤ s.lastSeenFrame → offset = s.lastOffset)
    (hbuf : SameUpTo s.alignCnt s.alignOffBuf buf) : Alike s (leftover s offset buf)

/-- The same commands, and states that are alike. -/
def SameStep (p q : LoopState × List Cmd) : Prop := p.2 = q.2 ∧ Alike p.1 q.1

variable {g : Int} {s t : LoopState}

theorem Alike.tick (h : Alike s t) : Alike (tick s) (tick t) := by
  obtain ⟨o, b, ho, hb⟩ := h
  exact ⟨o, b, ho, hb⟩

theorem Alike.depositBall (h : Alike s t) : SameStep (depositBall s) (depositBall t) := by
  obtain ⟨o, b, ho, hb⟩ := h
  exact ⟨rfl, o, b, fun h => absurd (show (0 : Int) ≤ -999 from h) (by decide), .zero⟩

theorem Alike.findBucket (h : Alike s t) (f : Frame) :
    SameStep (findBucket s f) (findBucket t f) := by
  obtain ⟨o, b, ho, hb⟩ := h
  unfold Impl.Game.findBucket
  cases f.bucket with
  | none => exact ⟨rfl, o, b, ho, hb⟩
  | some br =>
    show SameStep (if BUCKET_CONFIRM_CNT ≤ s.bucketConfirm + 1 then _ else _)
      (if BUCKET_CONFIRM_CNT ≤ s.bucketConfirm + 1 then _ else _)
    split_ifs <;> exact ⟨rfl, o, b, ho, hb⟩

theorem Alike.approachBucket (h : Alike s t) (f : Frame) :
    SameStep (approachBucket s f) (approachBucket t f) := by
  obtain ⟨o, b, ho, hb⟩ := h
  unfold Impl.Game.approachBucket
  cases f.bucket with
  | none =>
    show SameStep (if BUCKET_LOST_FRAMES < s.bucketLostCnt + 1 then _ else _)
      (if BUCKET_LOST_FRAMES < s.bucketLostCnt + 1 then _ else _)
    split_ifs <;> exact ⟨rfl, o, b, ho, hb⟩
  | some br =>
    show SameStep (if BUCKET_AREA_DEPOSIT ≤ br.areaRatio then _ else _)
      (if BUCKET_AREA_DEPOSIT ≤ br.areaRatio then _ else _)
    split_ifs <;> exact ⟨rfl, o, b, ho, hb⟩

theorem Alike.align (h : Alike s t) (hhead : s.alignOffHead = s.alignCnt) (h0 : 0 ≤ s.alignCnt)
    (camHalfW offset stopOff : Int) :
    SameStep (align s camHalfW offset stopOff) (align t camHalfW offset stopOff) := by
  obtain ⟨o, b, ho, hb⟩ := h
  have hset : SameUpTo (s.alignCnt + 1) (aligned s offset).alignOffBuf
      (aligned (leftover s o b) offset).alignOffBuf := by
    show SameUpTo _ (s.alignOffBuf.set! (s.alignOffHead.tmod STALL_BUF).toNat offset)
      (b.set! (s.alignOffHead.tmod STALL_BUF).toNat offset)
    rw [hhead]
    exact hb.set h0 offset
  have hstalled : Stalled (aligned s offset) ↔ Stalled (aligned (leftover s o b) offset) := by
    show (ALIGN_STALL_FRAMES ≤ s.alignCnt + 1 ∧
        stallSpan (aligned s offset).alignOffBuf (min (s.alignCnt + 1) STALL_BUF) < _) ↔
      (ALIGN_STALL_FRAMES ≤ s.alignCnt + 1 ∧
        stallSpan (aligned (leftover s o b) offset).alignOffBuf (min (s.alignCnt + 1) STALL_BUF) < _)
    rw [hset.stallSpan (by omega)]
  show SameStep (if Stalled (aligned s offset) then _ else _)
    (if Stalled (aligned (leftover s o b) offset) then _ else _)
  by_cases hs : Stalled (aligned s offset)
  · rw [if_pos hs, if_pos (hstalled.mp hs)]
    exact ⟨rfl, o, _, ho, .zero⟩
  · rw [if_neg hs, if_neg (mt hstalled.mpr hs)]
    exact ⟨rfl, o, _, ho, hset⟩

theorem Alike.trackBall (h : Alike s t) (hhead : s.alignOffHead = s.alignCnt) (h0 : 0 ≤ s.alignCnt)
    (camHalfW : Int) (areaRatio : Rat) (offset : Int) :
    SameStep (trackBall g s camHalfW areaRatio offset) (trackBall g t camHalfW areaRatio offset) := by
  unfold Impl.Game.trackBall
  dsimp only
  split_ifs
  · exact ⟨rfl, h⟩
  · obtain ⟨o, b, ho, hb⟩ := h
    show SameStep (if STOP_CONFIRM_CNT ≤ s.stopConfirmCnt + 1 then _ else _)
      (if STOP_CONFIRM_CNT ≤ s.stopConfirmCnt + 1 then _ else _)
    split_ifs <;> exact ⟨rfl, o, b, ho, .zero⟩
  · exact h.align hhead h0 camHalfW offset _
  · obtain ⟨o, b, ho, hb⟩ := h
    exact ⟨rfl, o, b, ho, .zero⟩

/-- A detected ball is noted before its frame is acted upon. -/
theorem Alike.chaseBall (h : Alike s t) (hhead : s.alignOffHead = s.alignCnt) (h0 : 0 ≤ s.alignCnt)
    (f : Frame) (ball : Ball) : SameStep (chaseBall g s f ball) (chaseBall g t f ball) := by
  obtain ⟨o, b, ho, hb⟩ := h
  have hnoted (stopped : Bool) (cnt : Int) :
      Alike { s with lastOffset := ballOffset f ball, lastSeenFrame := s.frameIdx,
                     stopped := stopped, stopConfirmCnt := cnt }
        { leftover s o b with lastOffset := ballOffset f ball, lastSeenFrame := s.frameIdx,
                              stopped := stopped, stopConfirmCnt := cnt } :=
    ⟨ballOffset f ball, b, fun _ => rfl, hb⟩
  unfold Impl.Game.chaseBall
  show SameStep (if s.stopped then _ else _) (if s.stopped then _ else _)
  split_ifs
  · exact (hnoted false 0).trackBall hhead h0 _ _ _
  · exact ⟨rfl, hnoted s.stopped s.stopConfirmCnt⟩
  · exact (hnoted s.stopped s.stopConfirmCnt).trackBall hhead h0 _ _ _

/-- Where no ball has been seen in the round, the last offset is not read. -/
theorem Alike.searchBall (h : Alike s t) : searchBall s = searchBall t := by
  obtain ⟨o, b, ho, hb⟩ := h
  show (if 0 ≤ s.lastSeenFrame ∧ s.frameIdx - s.lastSeenFrame ≤ SEARCH_FRAMES then _ else _) =
    (if 0 ≤ s.lastSeenFrame ∧ s.frameIdx - s.lastSeenFrame ≤ SEARCH_FRAMES then _ else _)
  by_cases hl : 0 ≤ s.lastSeenFrame ∧ s.frameIdx - s.lastSeenFrame ≤ SEARCH_FRAMES
  · rw [if_pos hl, if_pos hl, show (leftover s o b).lastOffset = s.lastOffset from ho hl.1]
  · rw [if_neg hl, if_neg hl]
    rfl

/-- Alike states issue the same, and stay alike. -/
theorem Alike.step (hi : LoopInv s) (h : Alike s t) (f : Option Frame) :
    SameStep ((loop g).step s f) ((loop g).step t f) := by
  have ht := h.tick
  have hst : t.gameState = s.gameState := by obtain ⟨o, b, ho, hb⟩ := h; rfl
  show SameStep (loopBody g s f) (loopBody g t f)
  cases f with
  | none => exact ⟨rfl, ht⟩
  | some f =>
    cases hg : s.gameState with
    | deposit =>
      rw [loopBody_deposit hg, loopBody_deposit (hst.trans hg)]
      exact ht.depositBall
    | findBucket =>
      rw [loopBody_findBucket hg, loopBody_findBucket (hst.trans hg)]
      exact ht.findBucket f
    | approachBucket =>
      rw [loopBody_approachBucket hg, loopBody_approachBucket (hst.trans hg)]
      exact ht.approachBucket f
    | chaseBall =>
      cases hb : f.ball with
      | some b =>
        rw [loopBody_chaseBall hg hb, loopBody_chaseBall (hst.trans hg) hb]
        exact ht.chaseBall hi.align.1 hi.align.2 f b
      | none =>
        rw [loopBody_searchBall hg hb, loopBody_searchBall (hst.trans hg) hb]
        exact ⟨congrArg (fun c => [Cmd.motor c]) ht.searchBall, ht⟩

/-- Alike states issue the same from there on. -/
theorem Alike.outputs (hi : LoopInv s) (h : Alike s t) (later : List (Option Frame)) :
    ((loop g).log s later).map Record.out = ((loop g).log t later).map Record.out :=
  (loop g).out_log_eq (R := fun s t => LoopInv s ∧ Alike s t)
    (fun _ _ f h => ⟨(h.2.step h.1 f).1, h.1.step f, (h.2.step h.1 f).2⟩) ⟨hi, h⟩ later

/-! ## A new round -/

/-- The loop as it is started, at a frame index. -/
def started (frameIdx : Int) : LoopState := { LoopState.init with frameIdx }

theorem loopInv_started (frameIdx : Int) : LoopInv (started frameIdx) :=
  ⟨LoopInv.init.chase, LoopInv.init.carry, LoopInv.init.find, LoopInv.init.confirm,
    LoopInv.init.approach, LoopInv.init.deposit, LoopInv.init.align⟩

/-- After `DEPOSIT` the loop is alike to one that has just been started. -/
theorem alike_depositBall (s : LoopState) : Alike (started s.frameIdx) (depositBall s).1 :=
  ⟨s.lastOffset, s.alignOffBuf, fun h => absurd (show (0 : Int) ≤ -999 from h) (by decide), .zero⟩

/-- The last iteration of a run has executed `DEPOSIT`. -/
def JustDeposited (g : Int) (fs : List (Option Frame)) : Prop :=
  ∃ fs₀ f, fs = fs₀ ++ [some f] ∧ ((loop g).run .init fs₀).gameState = .deposit

theorem alike_of_justDeposited {fs : List (Option Frame)} (h : JustDeposited g fs) :
    Alike (started ((loop g).run .init fs).frameIdx) ((loop g).run .init fs) := by
  obtain ⟨fs₀, f, rfl, hg⟩ := h
  have hs : (loop g).run .init (fs₀ ++ [some f]) =
      (depositBall (tick ((loop g).run .init fs₀))).1 := by
    rw [Machine.run_snoc]
    exact congrArg Prod.fst (loopBody_deposit hg)
  rw [hs]
  exact alike_depositBall (tick ((loop g).run .init fs₀))

/-- Two runs that have just executed `DEPOSIT`, at the same frame index, issue the
same in every later iteration, whatever came before: what a loop started at that
frame index issues. -/
theorem newRound_outputs (g : Int) (fs fs' : List (Option Frame)) (h : JustDeposited g fs)
    (h' : JustDeposited g fs')
    (hi : ((loop g).run .init fs).frameIdx = ((loop g).run .init fs').frameIdx)
    (later : List (Option Frame)) :
    ((loop g).log ((loop g).run .init fs) later).map Record.out =
        ((loop g).log ((loop g).run .init fs') later).map Record.out ∧
      ((loop g).log ((loop g).run .init fs) later).map Record.out =
        ((loop g).log { LoopState.init with frameIdx := ((loop g).run .init fs).frameIdx }
          later).map Record.out := by
  have e := (alike_of_justDeposited h).outputs (g := g) (loopInv_started _) later
  have e' := (alike_of_justDeposited h').outputs (g := g) (loopInv_started _) later
  rw [← hi] at e'
  exact ⟨e.symm.trans e', e.symm⟩

/-- A frame with a ball to stop at, for an offset of 120, and a bucket to deposit it
in. -/
def ballAndBucket (cx : Int) : Frame where
  halfW := 320
  camHalfW := 320
  bucket := some { areaRatio := 95 / 100, cx := 320, cy := 304, x := 0, y := 0, w := 640, h := 608 }
  ball := some { areaRatio := 3 / 10, cx }

/-- A round on such frames: four to grab the ball, three to find the bucket, one to
reach it and one to deposit the ball. -/
def shortRound (cx : Int) : List (Option Frame) := List.replicate 9 (some (ballAndBucket cx))

/-- A frame that is not captured, and one without a ball. -/
def noBallLater : List (Option Frame) := [none, some { ballAndBucket 0 with ball := none }]

theorem newRound_outputs_short :
    ((loop 120).log ((loop 120).run .init (shortRound 440)) noBallLater).map Record.out =
        ((loop 120).log ((loop 120).run .init (shortRound 430)) noBallLater).map Record.out ∧
      ((loop 120).log ((loop 120).run .init (shortRound 440)) noBallLater).map Record.out =
        ((loop 120).log
          { LoopState.init with frameIdx := ((loop 120).run .init (shortRound 440)).frameIdx }
          noBallLater).map Record.out :=
  newRound_outputs 120 (shortRound 440) (shortRound 430)
    ⟨List.replicate 8 (some (ballAndBucket 440)), ballAndBucket 440, rfl, by decide +kernel⟩
    ⟨List.replicate 8 (some (ballAndBucket 430)), ballAndBucket 430, rfl, by decide +kernel⟩
    (by decide +kernel) noBallLater

end TR.Proof.Game
