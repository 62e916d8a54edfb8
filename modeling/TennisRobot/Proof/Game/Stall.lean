import TennisRobot.Framework.Ring
import TennisRobot.Proof.Game.StopConfirm

/-!
# The stall test

While the robot turns towards a ball beside the gripper, the loop writes the ball's
offsets to a ring buffer, and kicks when they have hardly moved. The buffer is never
cleared: a reset only puts its head and the count back to zero. `Sampled` is what
keeps the test right: the buffer holds the offsets since the last reset (`samples`),
and the count is their number. So the slots that are compared hold the last of these
and nothing older, before and after the buffer wraps (`Sampled.compared_aligned`), and
the kick is the one that they call for (`kicks_iff`).
-/

namespace TR.Proof.Game

open TR.Impl.Game

/-! ## Events -/

/-- What `CHASE_BALL` does with a ball. -/
inductive BallCase
  | reverse
  | stop
  | align
  | chase
deriving DecidableEq

def ballCase (g : Int) (f : Frame) (b : Ball) : BallCase :=
  if AREA_REVERSE ≤ b.areaRatio then .reverse
  else if AREA_STOP ≤ b.areaRatio then
    if |ballOffset f b - g| ≤ STOP_CENTER_ZONE then .stop else .align
  else .chase

/-- The case of an iteration of `CHASE_BALL` with a ball, and the ball's offset. -/
def caseOf (g : Int) (r : Iteration) : Option (BallCase × Int) :=
  if r.pre.gameState = .chaseBall then
    (r.input.bind fun f => f.ball.map fun b => (ballCase g f b, ballOffset f b))
  else none

/-- The offset of an `ALIGN` frame. -/
def alignOffset (g : Int) (r : Iteration) : Option Int :=
  match caseOf g r with
  | some (.align, offset) => some offset
  | _ => none

/-- An iteration kicks. -/
def Kicks (r : Iteration) : Prop := ∃ kick, .pulse (.drive kick (-kick)) ALIGN_KICK_US ∈ r.out

/-- A frame of `DEPOSIT`. -/
def Deposits (r : Iteration) : Prop := r.pre.gameState = .deposit ∧ r.input.isSome

/-- What the samples are reset by: a confirming `STOP` frame, one that is chased, a
kick, and `DEPOSIT`. -/
def Resets (g : Int) (r : Iteration) : Prop :=
  (caseOf g r).map Prod.fst = some .stop ∨ (caseOf g r).map Prod.fst = some .chase ∨ Kicks r ∨
    Deposits r

open Classical in
/-- The offsets of the `ALIGN` frames since the last reset. -/
noncomputable def samples (g : Int) (l : List Iteration) : List Int :=
  (sinceLast (Resets g) l).filterMap (alignOffset g)

variable {g : Int} {s s' : LoopState} {f : Option Frame} {out : List Cmd} {l : List Iteration}

theorem samples_of_resets {r : Iteration} (h : Resets g r) : samples g (l ++ [r]) = [] := by
  rw [samples, sinceLast_snoc, if_pos h, List.filterMap_nil]

theorem samples_of_not_resets {r : Iteration} (h : ¬Resets g r) :
    samples g (l ++ [r]) = samples g l ++ (alignOffset g r).toList := by
  rw [samples, sinceLast_snoc, if_neg h, List.filterMap_append]
  cases ha : alignOffset g r <;> simp [samples, ha]

theorem caseOf_ball {f : Frame} {b : Ball} (hg : s.gameState = .chaseBall) (hb : f.ball = some b) :
    caseOf g ⟨s, some f, out⟩ = some (ballCase g f b, ballOffset f b) := by
  simp [caseOf, hg, hb]

theorem caseOf_noBall {f : Frame} (hb : f.ball = none) : caseOf g ⟨s, some f, out⟩ = none := by
  simp [caseOf, hb]

theorem caseOf_other (hg : s.gameState ≠ .chaseBall) : caseOf g ⟨s, f, out⟩ = none :=
  if_neg hg

/-! ## The buffer -/

/-- The ring buffer and its count are those of the samples. -/
structure Sampled (g : Int) (s : LoopState) (l : List Iteration) : Prop where
  ring : RingHolds STALL_BUF s.alignOffBuf.toList (samples g l)
  count : s.alignCnt = (samples g l).length

theorem Sampled.of_resets (hr : Resets g ⟨s, f, out⟩) (hc : s'.alignCnt = 0) :
    Sampled g s' (l ++ [⟨s, f, out⟩]) := by
  refine ⟨?_, ?_⟩ <;> rw [samples_of_resets hr]
  · exact .nil s'.alignOffBuf.length_toList
  · exact hc

/-- An iteration in another case, without a kick and not in `DEPOSIT`, is no reset. -/
theorem not_resets {r : Iteration} (hc : ∀ p, caseOf g r = some p → p.1 ≠ .stop ∧ p.1 ≠ .chase)
    (hk : ¬Kicks r) (hd : ¬Deposits r) : ¬Resets g r := by
  rintro (h | h | h | h)
  · obtain ⟨p, hp, hs⟩ := Option.map_eq_some_iff.mp h
    exact (hc p hp).1 hs
  · obtain ⟨p, hp, hs⟩ := Option.map_eq_some_iff.mp h
    exact (hc p hp).2 hs
  · exact hk h
  · exact hd h

/-- An iteration without an `ALIGN` frame or a reset. -/
theorem Sampled.of_other (h : Sampled g s l)
    (hc : ∀ p, caseOf g ⟨s, f, out⟩ = some p → p.1 = .reverse) (hk : ¬Kicks ⟨s, f, out⟩)
    (hd : ¬Deposits ⟨s, f, out⟩) (hbuf : s'.alignOffBuf = s.alignOffBuf)
    (hcnt : s'.alignCnt = s.alignCnt) : Sampled g s' (l ++ [⟨s, f, out⟩]) := by
  have hr : ¬Resets g ⟨s, f, out⟩ := not_resets (fun p hp => by simp [hc p hp]) hk hd
  have ho : alignOffset g ⟨s, f, out⟩ = none := by
    unfold alignOffset
    split
    · rename_i x hx
      exact absurd (hc _ hx) (by simp)
    · rfl
  have he : samples g (l ++ [⟨s, f, out⟩]) = samples g l := by
    rw [samples_of_not_resets hr, ho]
    exact List.append_nil _
  refine ⟨?_, ?_⟩ <;> rw [he]
  · rw [hbuf]
    exact h.ring
  · rw [hcnt]
    exact h.count

/-- The slots that the stall test compares. -/
def compared (s : LoopState) : List Int :=
  s.alignOffBuf.toList.take (min s.alignCnt STALL_BUF).toNat

section Aligned

variable (h : Sampled g s l) (x : Int)

include h

theorem Sampled.count_aligned :
    (aligned s x).alignCnt = ((samples g l ++ [x]).length : Int) := by
  show s.alignCnt + 1 = _
  rw [h.count, List.length_append]
  rfl

variable (ha : s.alignOffHead = s.alignCnt)

include ha

/-- A write of `ALIGN` is one of the ring. -/
theorem Sampled.ring_aligned :
    RingHolds STALL_BUF (aligned s x).alignOffBuf.toList (samples g l ++ [x]) := by
  have hhead : (s.alignOffHead.tmod STALL_BUF).toNat = (samples g l).length % STALL_BUF := by
    rw [ha, h.count]
    exact congrArg Int.toNat (Int.ofNat_tmod ..)
  unfold aligned
  rw [hhead, Vector.toList_set!]
  exact h.ring.push (by decide) x

theorem Sampled.compared_aligned : (compared (aligned s x)).Perm
    ((samples g l ++ [x]).drop ((samples g l ++ [x]).length - STALL_BUF)) := by
  have hmin : (min (aligned s x).alignCnt STALL_BUF).toNat =
      min (samples g l ++ [x]).length STALL_BUF := by
    rw [h.count_aligned x]
    omega
  rw [compared, hmin]
  exact (h.ring_aligned x ha).take_perm (by decide)

end Aligned

/-! ## The scan -/

/-- The scan finds how far the slots are apart. -/
theorem stallSpan_eq (buf : Vector Int STALL_BUF) {check : Int} (h1 : 1 ≤ check)
    (hn : check ≤ STALL_BUF) : stallSpan buf check = spread (buf.toList.take check.toNat) := by
  have hlen : buf.toList.length = STALL_BUF := buf.length_toList
  obtain ⟨a, l, hl⟩ : ∃ a l, buf.toList = a :: l :=
    List.exists_cons_of_length_pos (by rw [hlen]; decide)
  obtain ⟨n, hc⟩ : ∃ n, check.toNat = n + 1 := ⟨check.toNat - 1, by omega⟩
  have hmap := map_range'_getD buf.toList 1 n (by omega)
  have hscan := foldl_extremes ((List.range' 1 n).map fun k => buf.toList.getD k 0) a a
  rw [List.foldl_map] at hscan
  rw [hl, List.drop_succ_cons, List.drop_zero] at hmap
  rw [hl] at hscan
  unfold stallSpan
  rw [hl, hc, List.take_succ_cons, spread_cons, ← hmap, Nat.add_sub_cancel]
  exact congrArg (fun p : Int × Int => p.2 - p.1) hscan

/-! ## A step -/

theorem ballCase_reverse {f : Frame} {b : Ball} (h : AREA_REVERSE ≤ b.areaRatio) :
    ballCase g f b = .reverse :=
  if_pos h

theorem ballCase_stop {f : Frame} {b : Ball} (hz : InStopZone b)
    (ho : |ballOffset f b - g| ≤ STOP_CENTER_ZONE) : ballCase g f b = .stop := by
  rw [ballCase, if_neg (not_le.mpr hz.2), if_pos hz.1, if_pos ho]

theorem ballCase_align {f : Frame} {b : Ball} (hz : InStopZone b)
    (ho : STOP_CENTER_ZONE < |ballOffset f b - g|) : ballCase g f b = .align := by
  rw [ballCase, if_neg (not_le.mpr hz.2), if_pos hz.1, if_neg (not_le.mpr ho)]

theorem ballCase_chase {f : Frame} {b : Ball} (h : b.areaRatio < AREA_STOP) :
    ballCase g f b = .chase := by
  have hr : b.areaRatio < AREA_REVERSE := h.trans (by decide +kernel)
  rw [ballCase, if_neg (not_le.mpr hr), if_neg (not_le.mpr h)]

theorem not_kicks_motor {c : Impl.Motor.MotorCall} : ¬Kicks ⟨s, f, [.motor c]⟩ := by
  rintro ⟨kick, hk⟩
  cases List.mem_singleton.mp hk

/-- A frame of one of the bucket's states but `DEPOSIT` is no event. -/
theorem Sampled.of_bucket (h : Sampled g s l) (hg : s.gameState ≠ .chaseBall)
    (hg' : s.gameState ≠ .deposit) (hk : ¬Kicks ⟨s, f, out⟩)
    (hbuf : s'.alignOffBuf = s.alignOffBuf) (hcnt : s'.alignCnt = s.alignCnt) :
    Sampled g s' (l ++ [⟨s, f, out⟩]) := by
  refine h.of_other (fun p hp => ?_) hk (fun hd => hg' hd.1) hbuf hcnt
  rw [caseOf_other hg] at hp
  cases hp

/-- The other states, of the one that an exit names. -/
theorem state_ne {st st' : GameState} (hg : s.gameState = st) (h : st ≠ st') :
    s.gameState ≠ st' :=
  hg ▸ h

/-- Every exit keeps the buffer right. -/
theorem Sampled.exit (h : Exit g s f s' out) (hi : LoopInv s) (hs : Sampled g s l) :
    Sampled g s' (l ++ [⟨s, f, out⟩]) := by
  cases h with
  | noFrame =>
    refine hs.of_other (fun p hp => ?_) (fun ⟨_, hk⟩ => by cases hk) (fun hd => by cases hd.2) rfl rfl
    simp [caseOf] at hp
  | deposit hg => exact .of_resets (.inr (.inr (.inr ⟨hg, rfl⟩))) rfl
  | found hg | lostBucket hg =>
    exact hs.of_bucket (state_ne hg (by decide)) (state_ne hg (by decide)) (fun ⟨_, hk⟩ => by cases hk) rfl rfl
  | confirmBucket hg | turnForBucket hg | missBucket hg | toBucket hg =>
    exact hs.of_bucket (state_ne hg (by decide)) (state_ne hg (by decide)) not_kicks_motor rfl rfl
  | atBucket hg =>
    exact hs.of_bucket (state_ne hg (by decide)) (state_ne hg (by decide)) (by simp [Kicks]) rfl rfl
  | hold hg hb ht => exact absurd (hi.tracked hg _) ht
  | reverse hg hb ht ha =>
    rw [resumed_eq (hi.chase hg).1]
    refine hs.of_other (fun p hp => ?_) not_kicks_motor (fun hd => ?_) rfl rfl
    · rw [caseOf_ball hg hb, ballCase_reverse ha] at hp
      exact (Option.some.inj hp) ▸ rfl
    · exact state_ne hg (by decide) hd.1
  | grab hg hb ht hz ho | confirmStop hg hb ht hz ho =>
    exact .of_resets (.inl (by rw [caseOf_ball hg hb, ballCase_stop hz ho]; rfl)) rfl
  | kick hg hb ht hz ho => exact .of_resets (.inr (.inr (.inl ⟨_, List.mem_cons_self⟩))) rfl
  | @align f b pivot hg hb ht hz ho =>
    have hc : caseOf g ⟨s, some f, [.motor (.drive pivot (-pivot))]⟩ =
        some (.align, ballOffset f b) := by rw [caseOf_ball hg hb, ballCase_align hz ho]
    have hr := not_resets (fun p hp => by rw [hc] at hp; cases hp; simp) not_kicks_motor
      (fun hd => state_ne hg (by decide) hd.1)
    rw [resumed_eq (hi.chase hg).1]
    have hseen : Sampled g (seen s f b) l := ⟨hs.ring, hs.count⟩
    refine ⟨?_, ?_⟩ <;> rw [samples_of_not_resets hr, alignOffset, hc]
    · exact hseen.ring_aligned _ hi.align.1
    · exact hseen.count_aligned _
  | chase hg hb ht ha =>
    exact .of_resets (.inr (.inl (by rw [caseOf_ball hg hb, ballCase_chase ha]; rfl))) rfl
  | search hg hb =>
    refine hs.of_other (fun p hp => ?_) not_kicks_motor (fun hd => state_ne hg (by decide) hd.1) rfl rfl
    rw [caseOf_noBall hb] at hp
    cases hp

/-- The buffer is right before every iteration. -/
theorem sampled_run (g : Int) (fs : List (Option Frame)) :
    LoopInv ((loop g).run .init fs) ∧ Sampled g ((loop g).run .init fs) ((loop g).log .init fs) := by
  refine (loop g).run_log (J := fun s l => LoopInv s ∧ Sampled g s l) ⟨.init, ?_, rfl⟩ ?_ fs
  · exact .nil (by decide)
  · rintro s l f ⟨hi, hs⟩
    exact ⟨hi.step f, hs.exit (exit_of_loopBody g s f) hi⟩

/-! ## The kick -/

theorem alignOffset_eq_some {r : Iteration} {x : Int} (h : alignOffset g r = some x) :
    r.pre.gameState = .chaseBall ∧ ∃ f b, r.input = some f ∧ f.ball = some b ∧
      ballCase g f b = .align ∧ ballOffset f b = x := by
  unfold alignOffset at h
  split at h
  · rename_i y hc
    obtain rfl := Option.some.inj h
    unfold caseOf at hc
    split at hc
    · obtain ⟨f, hf, hc⟩ := Option.bind_eq_some_iff.mp hc
      obtain ⟨b, hb, hc⟩ := Option.map_eq_some_iff.mp hc
      obtain ⟨hc, ho⟩ := Prod.mk.inj hc
      exact ⟨‹_›, f, b, hf, hb, hc, ho⟩
    · cases hc
  · cases h

/-- An `ALIGN` frame kicks when the test finds a stall. -/
theorem kicks_iff_stalled {f : Frame} {b : Ball} (h : Exit g s (some f) s' out) (hi : LoopInv s)
    (hg : s.gameState = .chaseBall) (hb : f.ball = some b) (hc : ballCase g f b = .align) :
    Kicks ⟨s, some f, out⟩ ↔ Stalled (aligned s (ballOffset f b)) := by
  have hsame {b' : Ball} (hb' : f.ball = some b') : b' = b := Option.some.inj (hb'.symm.trans hb)
  cases h with
  | deposit hg' | found hg' | lostBucket hg' | confirmBucket hg' | turnForBucket hg'
  | missBucket hg' | atBucket hg' | toBucket hg' => cases hg'.symm.trans hg
  | hold _ hb' ht => exact absurd (hi.tracked hg _) ht
  | reverse _ hb' ht ha =>
    obtain rfl := hsame hb'
    cases (ballCase_reverse ha).symm.trans hc
  | grab _ hb' ht hz ho | confirmStop _ hb' ht hz ho =>
    obtain rfl := hsame hb'
    cases (ballCase_stop hz ho).symm.trans hc
  | kick _ hb' ht hz ho hs =>
    obtain rfl := hsame hb'
    rw [resumed_eq (hi.chase hg).1] at hs
    exact ⟨fun _ => hs, fun _ => ⟨_, List.mem_cons_self⟩⟩
  | align _ hb' ht hz ho hs =>
    obtain rfl := hsame hb'
    rw [resumed_eq (hi.chase hg).1] at hs
    exact ⟨fun hk => absurd hk not_kicks_motor, fun h => absurd h hs⟩
  | chase _ hb' ht ha =>
    obtain rfl := hsame hb'
    cases (ballCase_chase ha).symm.trans hc
  | search _ hb' => cases hb'.symm.trans hb

/-- What the stall test says of the samples, the offset `x` of this frame included. -/
theorem stalled_iff (hi : LoopInv s) (hs : Sampled g s l) (x : Int) :
    Stalled (aligned s x) ↔ ALIGN_STALL_FRAMES ≤ ((samples g l ++ [x]).length : Int) ∧
      spread ((samples g l ++ [x]).drop ((samples g l ++ [x]).length - STALL_BUF)) <
        ALIGN_STALL_MOVE_PX := by
  have hcnt := hs.count_aligned x
  have hpos : 1 ≤ (aligned s x).alignCnt := by
    rw [hcnt, List.length_append, List.length_singleton]
    omega
  unfold Stalled
  rw [stallSpan_eq _ (le_min hpos (by decide)) (min_le_right _ _),
    ← spread_perm (hs.compared_aligned x hi.align.1), ← hcnt]
  rfl

/-- At every `ALIGN` frame, the slots that are compared hold the last of the offsets
since the last reset; and the frame kicks exactly when there are enough of these and
they are close together. -/
theorem kicks_iff (g : Int) (fs : List (Option Frame)) (pre post : List Iteration) (r : Iteration)
    (h : (loop g).log .init fs = pre ++ r :: post) (x : Int) (hx : alignOffset g r = some x) :
    let xs := samples g pre ++ [x]
    (compared (aligned r.pre x)).Perm (xs.drop (xs.length - STALL_BUF)) ∧
    (Kicks r ↔ ALIGN_STALL_FRAMES ≤ (xs.length : Int) ∧
      spread (xs.drop (xs.length - STALL_BUF)) < ALIGN_STALL_MOVE_PX) := by
  obtain ⟨js, i, rfl, rfl⟩ := (loop g).log_eq_append_cons h
  obtain ⟨hi, hs⟩ := sampled_run g js
  refine ⟨hs.compared_aligned x hi.align.1, ?_⟩
  obtain ⟨hg, f, b, rfl, hb, hc, rfl⟩ := alignOffset_eq_some hx
  exact (kicks_iff_stalled (exit_of_loopBody g _ _) hi hg hb hc).trans (stalled_iff hi hs _)

/-- A frame with a ball beside the gripper, for an offset of 120. -/
def ballBeside : Frame :=
  { halfW := 320, camHalfW := 320, bucket := none, ball := some { areaRatio := 3 / 10, cx := 500 } }

theorem kicks_iff_twentyFrames :
    let fs := List.replicate 19 (some ballBeside)
    let r := (loop 120).record ((loop 120).run .init fs) (some ballBeside)
    let xs := samples 120 ((loop 120).log .init fs) ++ [180]
    (compared (aligned r.pre 180)).Perm (xs.drop (xs.length - STALL_BUF)) ∧
    (Kicks r ↔ ALIGN_STALL_FRAMES ≤ (xs.length : Int) ∧
      spread (xs.drop (xs.length - STALL_BUF)) < ALIGN_STALL_MOVE_PX) :=
  kicks_iff 120 (List.replicate 19 (some ballBeside) ++ [some ballBeside]) _ [] _
    ((loop 120).log_snoc _ _ _) 180 (by decide +kernel)

end TR.Proof.Game
