import TennisRobot.Impl.GameInt
import TennisRobot.Proof.Game.Drives
import TennisRobot.Proof.Motor.Overflow

/-!
# The loop in 32 bits

No counter of the loop is above the number of frames (`Tallied`), so none overflows before
`frame_idx` does, and every offset that is stored is that of some frame. For frames whose
numbers are pixels, an iteration in 32 bits is one on integers (`loopBodyInt_eq`), and so is a
run of up to `INT_MAX - 999` of them, with what `Motor` makes of its drives (`loopInt_run`).
The 999 are those of `last_seen_frame`: `frames_lost` is computed before it is known whether a
ball was ever seen.
-/

namespace TR.Proof.Game

open TR.Impl.Game TR.Impl.Motor
open TR.Proof.Motor

/-- Numbers of pixels, or of the command line. -/
def Pixels (x : Int) : Prop := -2 ^ 27 ≤ x ∧ x ≤ 2 ^ 27

/-- A frame of pixels. -/
structure FrameFits (f : Frame) : Prop where
  halfW : 1 ≤ f.halfW ∧ f.halfW ≤ 2 ^ 27
  camHalfW : 1 ≤ f.camHalfW ∧ f.camHalfW ≤ 2 ^ 27
  bucket {br : BucketResult} (h : f.bucket = some br) : Pixels br.cx
  ball {b : Ball} (h : f.ball = some b) : Pixels b.cx

/-- What an iteration sees: nothing, or a frame of pixels. -/
def InputFits (f : Option Frame) : Prop := ∀ f', f = some f' → FrameFits f'

/-- An offset, the difference of two numbers of pixels. -/
def OffsetFits (x : Int) : Prop := -2 ^ 28 ≤ x ∧ x ≤ 2 ^ 28

/-- A counter that has not counted more than the frames. -/
def CountsTo (n c : Int) : Prop := 0 ≤ c ∧ c ≤ n

/-- What the variables satisfy between iterations. -/
structure Tallied (s : LoopState) : Prop where
  lastSeenFrame : -999 ≤ s.lastSeenFrame ∧ s.lastSeenFrame ≤ s.frameIdx
  stopConfirmCnt : CountsTo s.frameIdx s.stopConfirmCnt
  alignCnt : CountsTo s.frameIdx s.alignCnt
  alignOffHead : CountsTo s.frameIdx s.alignOffHead
  bucketLostCnt : CountsTo s.frameIdx s.bucketLostCnt
  bucketConfirm : CountsTo s.frameIdx s.bucketConfirm
  offsets : ∀ x ∈ s.alignOffBuf.toList, OffsetFits x

/-! ## The counters -/

/-- What an iteration does to a counter. -/
def Moves (c c' : Int) : Prop := 0 ≤ c → 0 ≤ c' ∧ c' ≤ c + 1

theorem CountsTo.moves {n c c' : Int} (h : CountsTo n c) (hm : Moves c c') : CountsTo (n + 1) c' := by
  unfold CountsTo Moves at *
  omega

theorem Tallied.frameIdx_nonneg {s : LoopState} (hs : Tallied s) : 0 ≤ s.frameIdx :=
  hs.alignCnt.1.trans hs.alignCnt.2

/-- What an iteration does to the variables that `Tallied` is about. -/
structure Ticks (s s' : LoopState) : Prop where
  frameIdx : s'.frameIdx = s.frameIdx + 1
  lastSeenFrame : s'.lastSeenFrame = -999 ∨ s'.lastSeenFrame = s.lastSeenFrame ∨
    s'.lastSeenFrame = s.frameIdx + 1
  stopConfirmCnt : Moves s.stopConfirmCnt s'.stopConfirmCnt
  alignCnt : Moves s.alignCnt s'.alignCnt
  alignOffHead : Moves s.alignOffHead s'.alignOffHead
  bucketLostCnt : Moves s.bucketLostCnt s'.bucketLostCnt
  bucketConfirm : Moves s.bucketConfirm s'.bucketConfirm
  offsets : s'.alignOffBuf = s.alignOffBuf ∨
    ∃ i x, OffsetFits x ∧ s'.alignOffBuf = s.alignOffBuf.set! i x

theorem Tallied.ticks {s s' : LoopState} (hs : Tallied s) (h : Ticks s s') : Tallied s' where
  lastSeenFrame := by
    have h0 := hs.frameIdx_nonneg
    have hseen := hs.lastSeenFrame
    rw [h.frameIdx]
    rcases h.lastSeenFrame with h | h | h <;> rw [h] <;> omega
  stopConfirmCnt := h.frameIdx ▸ hs.stopConfirmCnt.moves h.stopConfirmCnt
  alignCnt := h.frameIdx ▸ hs.alignCnt.moves h.alignCnt
  alignOffHead := h.frameIdx ▸ hs.alignOffHead.moves h.alignOffHead
  bucketLostCnt := h.frameIdx ▸ hs.bucketLostCnt.moves h.bucketLostCnt
  bucketConfirm := h.frameIdx ▸ hs.bucketConfirm.moves h.bucketConfirm
  offsets y hy := by
    rcases h.offsets with h | ⟨i, x, hx, h⟩ <;> rw [h] at hy
    · exact hs.offsets y hy
    · rw [Vector.set!_eq_setIfInBounds, Vector.toList_setIfInBounds] at hy
      rcases List.mem_or_eq_of_mem_set hy with hy | rfl
      · exact hs.offsets y hy
      · exact hx

theorem offsetFits_ball {f : Frame} {b : Ball} (hf : FrameFits f) (hb : f.ball = some b) :
    OffsetFits (ballOffset f b) := by
  have hcx := hf.ball hb
  have hhalf := hf.camHalfW
  unfold Pixels at hcx
  unfold OffsetFits ballOffset
  omega

theorem Tallied.init : Tallied .init where
  lastSeenFrame := by decide
  stopConfirmCnt := by unfold CountsTo; decide
  alignCnt := by unfold CountsTo; decide
  alignOffHead := by unfold CountsTo; decide
  bucketLostCnt := by unfold CountsTo; decide
  bucketConfirm := by unfold CountsTo; decide
  offsets x hx := by
    have hx : x ∈ List.replicate STALL_BUF (0 : Int) := by simpa [LoopState.init] using hx
    rw [List.eq_of_mem_replicate hx]
    unfold OffsetFits
    decide

/-- Every exit of the loop body counts the frame, and nothing twice. -/
theorem Exit.ticks {g : Int} {s s' : LoopState} {f : Option Frame} {out : List Cmd}
    (h : Exit g s f s' out) (hf : InputFits f) : Ticks s s' := by
  cases h with
  | noFrame | deposit | found | confirmBucket | turnForBucket | lostBucket | missBucket | atBucket
  | toBucket | hold | search => constructor <;> simp [seen, tick, Moves] <;> omega
  | reverse | grab | confirmStop | chase =>
    unfold resumed
    split <;> constructor <;> simp [seen, tick, Moves] <;> omega
  | kick hg hb | align hg hb =>
    have hoff := offsetFits_ball (hf _ rfl) hb
    unfold resumed
    split <;> refine ⟨?_, ?_, ?_, ?_, ?_, ?_, ?_, .inr ⟨_, _, hoff, rfl⟩⟩ <;>
      simp [aligned, seen, tick, Moves] <;> omega

/-! ## One operation after another -/

/-- A number that 32 bits hold with room to spare. -/
theorem fitsInt_of_le {n : Int} (h : -2 ^ 30 ≤ n ∧ n ≤ 2 ^ 30) : FitsInt n := by
  unfold FitsInt INT_MIN INT_MAX
  omega

theorem CountsTo.fits {n c : Int} (h : CountsTo n c) (hn : n + 1 ≤ INT_MAX) : FitsInt (c + 1) := by
  unfold CountsTo at h
  unfold FitsInt INT_MIN
  omega

/-- What is converted fits if it did before. -/
theorem castInt_bounds {q : Rat} {n : Int} (h : |q| ≤ n) : -n ≤ castInt q ∧ castInt q ≤ n := by
  obtain ⟨hlo, hhi⟩ := abs_le.mp h
  rcases le_total 0 q with hq | hq
  · have hle : (castInt q : Rat) ≤ n := (castInt_le hq).trans hhi
    have hn : castInt q ≤ n := by exact_mod_cast hle
    have h0 := castInt_nonneg hq
    omega
  · have hq' : 0 ≤ -q := neg_nonneg.mpr hq
    have hle : (castInt (-q) : Rat) ≤ n := (castInt_le hq').trans (by linarith)
    have hn : castInt (-q) ≤ n := by exact_mod_cast hle
    have h0 := castInt_nonneg hq'
    rw [castInt_neg] at hn h0
    omega

theorem OffsetFits.abs {x : Int} (h : OffsetFits x) : FitsInt |x| := by
  have habs : |x| ≤ 2 ^ 28 := abs_le.mpr h
  have h0 := abs_nonneg x
  exact fitsInt_of_le (by omega)

theorem OffsetFits.sub {x y : Int} (hx : OffsetFits x) (hy : OffsetFits y) : FitsInt (x - y) := by
  unfold OffsetFits at hx hy
  exact fitsInt_of_le (by omega)

/-- The bias of a turn, for a frame that is not empty. -/
theorem biasInt_eq {k : Rat} (hk0 : 0 ≤ k) (hk : k ≤ 6) {halfW offset : Int} (hw : 1 ≤ halfW)
    (ho : OffsetFits offset) :
    biasInt k halfW offset =
      some (if |offset| ≤ CENTER_DEAD_ZONE then 0 else castInt (k * offset / halfW)) := by
  have hw1 : (1 : Rat) ≤ halfW := by exact_mod_cast hw
  have hw0 : (halfW : Rat) ≠ 0 := by linarith
  have hoff : |(offset : Rat)| ≤ 2 ^ 28 := by
    have : |offset| ≤ 2 ^ 28 := abs_le.mpr ho
    exact_mod_cast this
  have hq : |k * offset / halfW| ≤ ((6 * 2 ^ 28 : Int) : Rat) := by
    rw [abs_div, abs_mul, abs_of_nonneg hk0, abs_of_pos (zero_lt_one.trans_le hw1)]
    calc k * |(offset : Rat)| / halfW ≤ k * |(offset : Rat)| :=
          div_le_self (mul_nonneg hk0 (abs_nonneg _)) hw1
      _ ≤ 6 * 2 ^ 28 := mul_le_mul hk hoff (abs_nonneg _) (by norm_num)
      _ = ((6 * 2 ^ 28 : Int) : Rat) := by norm_num
  have hcast : FitsInt (castInt (k * offset / halfW)) := by
    obtain ⟨hlo, hhi⟩ := castInt_bounds hq
    unfold FitsInt INT_MIN INT_MAX
    omega
  unfold biasInt
  rw [checked_of_fits ho.abs, fdiv, if_pos hw0, Option.bind_eq_bind, Option.bind_some]
  unfold castIntChecked
  dsimp only
  rw [checked_of_fits hcast]
  split_ifs <;> rfl

theorem bucketDriveInt_eq {f : Frame} (hf : FrameFits f) {br : BucketResult}
    (hb : f.bucket = some br) : bucketDriveInt f br = some (bucketDrive f br) := by
  have hoff : OffsetFits (br.cx - f.halfW) := by
    have hcx := hf.bucket hb
    have hhalf := hf.halfW
    unfold Pixels at hcx
    unfold OffsetFits
    omega
  have hfit : FitsInt (br.cx - f.halfW) := by
    unfold OffsetFits at hoff
    exact fitsInt_of_le (by omega)
  unfold bucketDriveInt
  rw [checked_of_fits hfit, Option.bind_eq_bind, Option.bind_some,
    biasInt_eq (by decide) (by decide) hf.halfW.1 hoff]
  rfl

theorem chaseDriveInt_eq {camHalfW offset : Int} (hw : 1 ≤ camHalfW) (ho : OffsetFits offset)
    (areaRatio : Rat) :
    chaseDriveInt camHalfW areaRatio offset = some (chaseDrive camHalfW areaRatio offset) := by
  unfold chaseDriveInt chaseDrive
  rw [biasInt_eq (by decide) (by decide) hw ho]
  dsimp only [Option.bind_eq_bind, Option.bind_some]
  split_ifs <;> rfl

section Body

variable {s : LoopState} {f : Frame} {b : Ball}

theorem findBucketInt_eq (hc : FitsInt (s.bucketConfirm + 1)) (hl : FitsInt (s.bucketLostCnt + 1)) :
    findBucketInt s f = some (findBucket s f) := by
  unfold findBucketInt findBucket
  rw [checked_of_fits hc, checked_of_fits hl]
  cases f.bucket with
  | none => rfl
  | some br =>
    dsimp only [Option.bind_eq_bind, Option.bind_some]
    split_ifs <;> rfl

theorem approachBucketInt_eq (hf : FrameFits f) (hl : FitsInt (s.bucketLostCnt + 1)) :
    approachBucketInt s f = some (approachBucket s f) := by
  unfold approachBucketInt approachBucket
  rw [checked_of_fits hl]
  cases hb : f.bucket with
  | none =>
    dsimp only [Option.bind_eq_bind, Option.bind_some]
    split_ifs <;> rfl
  | some br =>
    dsimp only
    rw [bucketDriveInt_eq hf hb]
    split_ifs <;> rfl

theorem confirmStopInt_eq (hc : FitsInt (s.stopConfirmCnt + 1)) :
    confirmStopInt s = some (confirmStop s) := by
  unfold confirmStopInt confirmStop
  rw [checked_of_fits hc]
  dsimp only [Option.bind_eq_bind, Option.bind_some]
  split_ifs <;> rfl

theorem fitsInt_stallSpan {buf : Vector Int STALL_BUF} (h : ∀ x ∈ buf.toList, OffsetFits x)
    (check : Int) : FitsInt (stallSpan buf check) := by
  have hslot (i : Nat) : OffsetFits (buf.toList.getD i 0) := by
    rw [List.getD_eq_getElem?_getD]
    cases hi : buf.toList[i]? with
    | none => exact ⟨by decide, by decide⟩
    | some x => exact h x (List.mem_of_getElem? hi)
  unfold stallSpan
  generalize hscan : List.foldl _ _ _ = found
  have hfound : OffsetFits found.1 ∧ OffsetFits found.2 := by
    rw [← hscan]
    refine List.foldlRecOn (motive := fun m : Int × Int => OffsetFits m.1 ∧ OffsetFits m.2) _ _
      ⟨hslot 0, hslot 0⟩ fun m hm i _ => ?_
    dsimp only
    split_ifs
    exacts [⟨hslot i, hslot i⟩, ⟨hslot i, hm.2⟩, ⟨hm.1, hslot i⟩, hm]
  exact hfound.2.sub hfound.1

theorem storeOffset_eq (h : 0 ≤ s.alignOffHead) (offset : Int) : storeOffset s offset =
    some (s.alignOffBuf.set! (s.alignOffHead.tmod STALL_BUF).toNat offset) :=
  if_pos (Int.tmod_nonneg _ h)

theorem alignInt_eq (hs : Tallied s) (hn : s.frameIdx + 1 ≤ INT_MAX) {offset stopOff : Int}
    (ho : OffsetFits offset) (hstop : FitsInt |stopOff|) (camHalfW : Int) :
    alignInt s camHalfW offset stopOff = some (align s camHalfW offset stopOff) := by
  have hspan : FitsInt (stallSpan (aligned s offset).alignOffBuf
      (min (aligned s offset).alignCnt STALL_BUF)) := by
    refine fitsInt_stallSpan (fun x hx => ?_) _
    rw [aligned, Vector.set!_eq_setIfInBounds, Vector.toList_setIfInBounds] at hx
    rcases List.mem_or_eq_of_mem_set hx with hx | rfl
    · exact hs.offsets x hx
    · exact ho
  have hpivot : FitsInt (castInt (ALIGN_PIVOT_MIN + min 1 ((|stopOff| : Int) / (camHalfW : Rat)) *
      (ALIGN_PIVOT_SPD - ALIGN_PIVOT_MIN))) := by
    rw [pivot_eq]
    decide
  unfold alignInt align
  rw [checked_of_fits (hs.alignCnt.fits hn), storeOffset_eq hs.alignOffHead.1,
    checked_of_fits (hs.alignOffHead.fits hn)]
  dsimp only [Option.bind_eq_bind, Option.bind_some]
  unfold aligned at hspan
  rw [checked_of_fits hspan, checked_of_fits hstop]
  dsimp only [Option.bind_eq_bind, Option.bind_some]
  rw [checked_of_fits hpivot]
  generalize stallSpan _ _ = span
  by_cases h1 : s.alignCnt + 1 ≥ ALIGN_STALL_FRAMES
  · rw [if_pos h1]
    by_cases h2 : span < ALIGN_STALL_MOVE_PX
    · have hstalled : s.alignCnt + 1 ≥ ALIGN_STALL_FRAMES ∧ span < ALIGN_STALL_MOVE_PX := ⟨h1, h2⟩
      rw [if_pos hstalled, decide_eq_true h2]
      rfl
    · have hmoved : ¬(s.alignCnt + 1 ≥ ALIGN_STALL_FRAMES ∧ span < ALIGN_STALL_MOVE_PX) :=
        fun h => h2 h.2
      rw [if_neg hmoved, decide_eq_false h2]
      rfl
  · have hfew : ¬(s.alignCnt + 1 ≥ ALIGN_STALL_FRAMES ∧ span < ALIGN_STALL_MOVE_PX) :=
      fun h => h1 h.1
    rw [if_neg h1, if_neg hfew]
    rfl

/-- A ball that is tracked, when `g_stop_center_offset` is a number of pixels. -/
theorem trackBallInt_eq {g : Int} (hg : Pixels g) (hs : Tallied s) (hn : s.frameIdx + 1 ≤ INT_MAX)
    {camHalfW offset : Int} (hw : 1 ≤ camHalfW) (ho : OffsetFits offset) (areaRatio : Rat) :
    trackBallInt g s camHalfW areaRatio offset =
      some (trackBall g s camHalfW areaRatio offset) := by
  have hstop : -2 ^ 29 ≤ offset - g ∧ offset - g ≤ 2 ^ 29 := by
    unfold Pixels at hg
    unfold OffsetFits at ho
    omega
  have hdist : FitsInt |offset - g| := by
    have h0 := abs_nonneg (offset - g)
    have hle := abs_le.mpr hstop
    exact fitsInt_of_le (by omega)
  unfold trackBallInt trackBall
  rw [checked_of_fits (fitsInt_of_le (n := offset - g) (by omega))]
  dsimp only [Option.bind_eq_bind, Option.bind_some]
  rw [checked_of_fits hdist, chaseDriveInt_eq hw ho]
  dsimp only [Option.bind_some]
  rw [confirmStopInt_eq (hs.stopConfirmCnt.fits hn), alignInt_eq hs hn ho hdist]
  by_cases hr : areaRatio ≥ AREA_REVERSE
  · rw [if_pos hr, if_pos hr]
  · rw [if_neg hr, if_neg hr]
    by_cases ha : areaRatio ≥ AREA_STOP
    · rw [if_pos ha]
      by_cases hz : |offset - g| ≤ STOP_CENTER_ZONE
      · rw [if_pos hz, if_pos ⟨ha, hz⟩]
      · rw [if_neg hz, if_neg fun h => hz h.2, if_pos ⟨ha, not_le.mp hz⟩]
    · rw [if_neg ha, if_neg fun h => ha h.1, if_neg fun h => ha h.1]
      rfl

theorem chaseBallInt_eq {g : Int} (hg : Pixels g) (hs : Tallied s) (hn : s.frameIdx + 1 ≤ INT_MAX)
    (hf : FrameFits f) (hb : f.ball = some b) :
    chaseBallInt g s f b = some (chaseBall g s f b) := by
  have hoff : OffsetFits (b.cx - f.camHalfW) := offsetFits_ball hf hb
  have hfit : FitsInt (b.cx - f.camHalfW) := by
    unfold OffsetFits at hoff
    exact fitsInt_of_le (by omega)
  have hold : -999 ≤ s.frameIdx := by
    have h0 := hs.frameIdx_nonneg
    omega
  have hseen (x : Int) : Tallied { s with lastOffset := x, lastSeenFrame := s.frameIdx } :=
    ⟨⟨hold, le_rfl⟩, hs.stopConfirmCnt, hs.alignCnt, hs.alignOffHead, hs.bucketLostCnt,
      hs.bucketConfirm, hs.offsets⟩
  have hresumed (x : Int) : Tallied { s with
      lastOffset := x, lastSeenFrame := s.frameIdx, stopped := false, stopConfirmCnt := 0 } :=
    ⟨(hseen x).lastSeenFrame, ⟨le_rfl, hs.frameIdx_nonneg⟩, hs.alignCnt, hs.alignOffHead,
      hs.bucketLostCnt, hs.bucketConfirm, hs.offsets⟩
  unfold chaseBallInt chaseBall
  rw [checked_of_fits hfit]
  dsimp only [Option.bind_eq_bind, Option.bind_some]
  rw [trackBallInt_eq hg (hseen _) hn hf.camHalfW.1 hoff,
    trackBallInt_eq hg (hresumed _) hn hf.camHalfW.1 hoff]
  split_ifs <;> rfl

theorem searchBallInt_eq (hs : Tallied s) (hn : s.frameIdx + 999 ≤ INT_MAX) :
    searchBallInt s = some (searchBall s) := by
  have hlost : FitsInt (s.frameIdx - s.lastSeenFrame) := by
    have hseen := hs.lastSeenFrame
    unfold FitsInt INT_MIN
    omega
  unfold searchBallInt
  rw [checked_of_fits hlost]
  rfl

/-! ## The loop body in each state -/

section LoopBody

variable {g : Int} (hidx : FitsInt (s.frameIdx + 1))

include hidx

theorem loopBodyInt_deposit (hg : s.gameState = .deposit) :
    loopBodyInt g s (some f) = some (depositBall (tick s)) := by
  simp only [loopBodyInt, checked_of_fits hidx, Option.bind_eq_bind, Option.bind_some,
    Option.pure_def, hg, tick]

theorem loopBodyInt_findBucket (hg : s.gameState = .findBucket) :
    loopBodyInt g s (some f) = findBucketInt (tick s) f := by
  simp only [loopBodyInt, checked_of_fits hidx, Option.bind_eq_bind, Option.bind_some, hg, tick]

theorem loopBodyInt_approachBucket (hg : s.gameState = .approachBucket) :
    loopBodyInt g s (some f) = approachBucketInt (tick s) f := by
  simp only [loopBodyInt, checked_of_fits hidx, Option.bind_eq_bind, Option.bind_some, hg, tick]

theorem loopBodyInt_chaseBall (hg : s.gameState = .chaseBall) (hb : f.ball = some b) :
    loopBodyInt g s (some f) = chaseBallInt g (tick s) f b := by
  simp only [loopBodyInt, checked_of_fits hidx, Option.bind_eq_bind, Option.bind_some, hg, hb, tick]

theorem loopBodyInt_searchBall (hg : s.gameState = .chaseBall) (hb : f.ball = none) :
    loopBodyInt g s (some f) =
      (searchBallInt (tick s)).map fun drive => (tick s, [.motor drive]) := by
  simp only [loopBodyInt, checked_of_fits hidx, Option.bind_eq_bind, Option.bind_some,
    Option.pure_def, Option.map_eq_bind, hg, hb, tick]
  rfl

end LoopBody

/-- An iteration in 32 bits. -/
theorem loopBodyInt_eq {g : Int} (hg : Pixels g) {s : LoopState} {f : Option Frame}
    (hs : Tallied s) (hf : InputFits f) (hn : s.frameIdx + 1 ≤ INT_MAX - 999) :
    loopBodyInt g s f = some (loopBody g s f) := by
  have ht : Tallied (tick s) := hs.ticks (Exit.noFrame (g := g).ticks (fun _ h => nomatch h))
  have hn' : (tick s).frameIdx + 999 ≤ INT_MAX := by
    show s.frameIdx + 1 + 999 ≤ INT_MAX
    omega
  have hn1 : (tick s).frameIdx + 1 ≤ INT_MAX := by omega
  have hidx : FitsInt (s.frameIdx + 1) := by
    have h0 := hs.frameIdx_nonneg
    unfold FitsInt INT_MIN
    omega
  cases f with
  | none =>
    unfold loopBodyInt
    rw [checked_of_fits hidx]
    rfl
  | some f =>
    have hff := hf f rfl
    cases hg' : s.gameState with
    | deposit => rw [loopBody_deposit hg', loopBodyInt_deposit hidx hg']
    | findBucket =>
      rw [loopBody_findBucket hg', loopBodyInt_findBucket hidx hg',
        findBucketInt_eq (ht.bucketConfirm.fits hn1) (ht.bucketLostCnt.fits hn1)]
    | approachBucket =>
      rw [loopBody_approachBucket hg', loopBodyInt_approachBucket hidx hg',
        approachBucketInt_eq hff (ht.bucketLostCnt.fits hn1)]
    | chaseBall =>
      cases hb : f.ball with
      | some b =>
        rw [loopBody_chaseBall hg' hb, loopBodyInt_chaseBall hidx hg' hb,
          chaseBallInt_eq hg ht hn1 hff hb]
      | none =>
        rw [loopBody_searchBall hg' hb, loopBodyInt_searchBall hidx hg' hb,
          searchBallInt_eq ht hn', Option.map_some]

end Body

/-! ## Runs -/

/-- The loop in 32 bits is the loop until `frame_idx` comes near `INT_MAX`. -/
theorem clocked_loopInt {g : Int} (hg : Pixels g) :
    Clocked (loopInt g) (loop g) Tallied InputFits LoopState.frameIdx (INT_MAX - 999) where
  inv_step hi hs := hs.ticks ((exit_of_loopBody g _ _).ticks hi)
  clock_step hi _ := ((exit_of_loopBody g _ _).ticks hi).frameIdx
  step hi hs h := loopBodyInt_eq hg hs hi h

/-- What `Motor` makes of a call in 32 bits, with `set_min_speed(15)`. -/
def driverCallInt : MotorCall → Option DriverCall
  | .drive leftSpeed rightSpeed => driveInt 15 leftSpeed rightSpeed
  | .brake => some .brake
  | .standby => some .standby

theorem driverCallInt_eq {c : MotorCall} (hc : SpeedsWithin 7 c) :
    driverCallInt c = some (c.driverCall 15) := by
  have hspeed {v : Int} (hv : -7 ≤ v ∧ v ≤ 7) : mapSpeedInt 15 v = some (mapSpeed 15 v) := by
    have hfit : FitsInt v := fitsInt_of_le (by omega)
    refine (mapSpeedInt_eq_some_iff (by decide) (by decide) hfit).mpr ⟨⟨?_, ?_⟩, rfl⟩
    · unfold INT_MIN
      omega
    · unfold INT_MAX
      omega
  cases c with
  | drive l r => exact driveInt_eq_some_iff.mpr ⟨hspeed hc.1, hspeed hc.2⟩
  | brake => rfl
  | standby => rfl

/-- A run in 32 bits is the run on integers, and so is what its drives come to, for up to
`INT_MAX - 999` iterations. -/
theorem loopInt_run {g : Int} (hg : Pixels g) (fs : List (Option Frame))
    (hfs : ∀ f ∈ fs, InputFits f) (hn : (fs.length : Int) ≤ INT_MAX - 999) :
    (loopInt g).run .init fs = some ((loop g).run .init fs, (loop g).outputs .init fs) ∧
      (((loop g).outputs .init fs).filterMap motorCall?).mapM driverCallInt =
        some (driverCalls ((loop g).outputs .init fs)) := by
  refine ⟨(clocked_loopInt hg).run .init fs hfs ?_, ?_⟩
  · show (0 : Int) + fs.length ≤ INT_MAX - 999
    omega
  · exact mapM_eq_some_map fun c hc => driverCallInt_eq (speedsWithin_run g fs c hc)

/-- A ball to the right, then none. -/
def twoFrames : List (Option Frame) :=
  [some ⟨320, 320, none, some ⟨1 / 10, 400⟩⟩, some ⟨320, 320, none, none⟩]

theorem loopInt_run_two :
    (loopInt 120).run .init twoFrames =
        some ((loop 120).run .init twoFrames, (loop 120).outputs .init twoFrames) ∧
      (((loop 120).outputs .init twoFrames).filterMap motorCall?).mapM driverCallInt =
        some (driverCalls ((loop 120).outputs .init twoFrames)) := by
  refine loopInt_run ⟨by decide, by decide⟩ twoFrames (fun f hf f' h => ?_) (by decide)
  rcases List.mem_pair.mp hf with rfl | rfl <;> cases h
  · refine ⟨by decide, by decide, (fun h => nomatch h), fun h => ?_⟩
    cases h
    exact ⟨by decide, by decide⟩
  · exact ⟨by decide, by decide, (fun h => nomatch h), (fun h => nomatch h)⟩

/-- Until a ball has been seen, `frames_lost` overflows 999 frames before `frame_idx`. -/
example : loopBodyInt 120 { LoopState.init with frameIdx := INT_MAX - 999 }
    (some ⟨320, 320, none, none⟩) = none := by decide

end TR.Proof.Game
