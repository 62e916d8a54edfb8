import TennisRobot.Proof.Game.ArmCalls
import TennisRobot.Proof.Game.StopConfirm

/-!
# The way to the bucket

The two counters of the bucket's states are lengths of runs (`BucketCounted`, kept by
each exit): `bucketConfirm` is how many of the last captured frames were processed in
`FIND_BUCKET` with the bucket in view, and `bucketLostCnt` how many in
`APPROACH_BUCKET` without it. This makes the conditions of the transitions exact
(`bucket_run`).
-/

namespace TR.Proof.Game

open TR.Impl.Game TR.Impl.Arm

/-! ## Events -/

/-- The bucket an iteration sees. -/
def bucketSeen (r : Iteration) : Option BucketResult := r.input.bind Frame.bucket

/-- A frame of `FIND_BUCKET` with the bucket in view. -/
def FindSeen (r : Iteration) : Prop := r.pre.gameState = .findBucket ∧ (bucketSeen r).isSome

/-- A frame of `APPROACH_BUCKET` without the bucket. -/
def ApproachMissed (r : Iteration) : Prop :=
  r.pre.gameState = .approachBucket ∧ bucketSeen r = none

instance : DecidablePred FindSeen := fun _ => inferInstanceAs (Decidable (_ ∧ _))

instance : DecidablePred ApproachMissed := fun _ => inferInstanceAs (Decidable (_ ∧ _))

/-- An iteration enters a game state. -/
def Enters (g : Int) (st : GameState) (r : Iteration) : Prop :=
  r.pre.gameState ≠ st ∧ (loopBody g r.pre r.input).1.gameState = st

/-! ## The counters -/

/-- What the variables of the bucket's states say of the iterations so far. -/
structure BucketCounted (g : Int) (s : LoopState) (l : List Iteration) : Prop where
  confirm : s.gameState = .findBucket → s.bucketConfirm = lastRun FindSeen (captured l)
  /-- While the bucket is being confirmed, the robot stands. -/
  standby : s.gameState = .findBucket → 0 < s.bucketConfirm →
    lastMotor (l.flatMap Record.out) = some .standby
  lost : s.gameState = .approachBucket → s.bucketLostCnt = lastRun ApproachMissed (captured l)
  deposit : s.gameState = .deposit ↔ ∃ r, (captured l).getLast? = some r ∧ Enters g .deposit r

variable {g : Int} {s : LoopState} {f : Option Frame} {l : List Iteration}

theorem lastMotor_snoc (l : List Iteration) (r : Iteration) :
    lastMotor ((l ++ [r]).flatMap Record.out) =
      (lastMotor r.out).or (lastMotor (l.flatMap Record.out)) := by
  rw [List.flatMap_append, List.flatMap_singleton, lastMotor, List.filterMap_append,
    List.getLast?_append]
  rfl

theorem BucketCounted.init : BucketCounted g .init [] where
  confirm h := by cases h
  standby h := by cases h
  lost h := by cases h
  deposit := by simp [LoopState.init, captured]

/-- What is to be shown of an iteration that captured a frame. -/
theorem BucketCounted.of_captured {s' : LoopState} {r : Iteration} {f : Frame}
    (hr : r.input = some f)
    (hconfirm : s'.gameState = .findBucket → s'.bucketConfirm =
      if FindSeen r then lastRun FindSeen (captured l) + 1 else 0)
    (hstandby : s'.gameState = .findBucket → 0 < s'.bucketConfirm → lastMotor r.out = some .standby)
    (hlost : s'.gameState = .approachBucket → s'.bucketLostCnt =
      if ApproachMissed r then lastRun ApproachMissed (captured l) + 1 else 0)
    (hdeposit : s'.gameState = .deposit ↔ Enters g .deposit r) : BucketCounted g s' (l ++ [r]) where
  confirm hg := by
    rw [captured_snoc_some l hr, lastRun_snoc, hconfirm hg]
  standby hg hpos := by rw [lastMotor_snoc, hstandby hg hpos, Option.some_or]
  lost hg := by
    rw [captured_snoc_some l hr, lastRun_snoc, hlost hg]
  deposit := by
    rw [captured_snoc_some l hr, hdeposit]
    simp

/-- Every exit keeps the counters right. -/
theorem BucketCounted.exit {s' : LoopState} {out : List Cmd} (h : Exit g s f s' out)
    (hs' : (loopBody g s f).1 = s') (hc : BucketCounted g s l) :
    BucketCounted g s' (l ++ [⟨s, f, out⟩]) := by
  have enters : Enters g .deposit ⟨s, f, out⟩ ↔ s.gameState ≠ .deposit ∧ s'.gameState = .deposit := by
    rw [← hs']
    rfl
  cases h with
  | noFrame =>
    have hcap : captured (l ++ [⟨s, none, []⟩]) = captured l := by simp [captured]
    refine ⟨fun hg => ?_, fun hg hpos => ?_, fun hg => ?_, ?_⟩
    · rw [hcap]; exact hc.confirm hg
    · rw [lastMotor_snoc]; exact hc.standby hg hpos
    · rw [hcap]; exact hc.lost hg
    · rw [hcap]; exact hc.deposit
  | deposit hg => exact .of_captured rfl (by simp) (by simp) (by simp) (by simp [enters])
  | found hg =>
    exact .of_captured rfl (by simp) (by simp) (by simp [ApproachMissed, hg]) (by simp [enters])
  | confirmBucket hg hb =>
    refine .of_captured rfl (fun _ => ?_) (fun _ _ => rfl) (by simp [tick, hg])
      (by simp [enters, tick, hg])
    rw [if_pos ⟨hg, by simp [bucketSeen, hb]⟩]
    show s.bucketConfirm + 1 = (lastRun FindSeen (captured l) : Int) + 1
    rw [hc.confirm hg]
  | turnForBucket hg hb =>
    refine .of_captured rfl (fun _ => ?_) (by simp) (by simp [tick, hg])
      (by simp [enters, tick, hg])
    rw [if_neg (by simp [FindSeen, bucketSeen, hb])]
    rfl
  | lostBucket hg =>
    exact .of_captured rfl (by simp [FindSeen, hg]) (by simp) (by simp) (by simp [enters])
  | missBucket hg hb =>
    refine .of_captured rfl (by simp [tick, hg]) (by simp [tick, hg]) (fun _ => ?_)
      (by simp [enters, tick, hg])
    rw [if_pos ⟨hg, by simp [bucketSeen, hb]⟩]
    show s.bucketLostCnt + 1 = (lastRun ApproachMissed (captured l) : Int) + 1
    rw [hc.lost hg]
  | atBucket hg => exact .of_captured rfl (by simp) (by simp) (by simp) (by simp [enters, hg])
  | toBucket hg hb =>
    refine .of_captured rfl (by simp [tick, hg]) (by simp [tick, hg]) (fun _ => ?_)
      (by simp [enters, tick, hg])
    rw [if_neg (by simp [ApproachMissed, bucketSeen, hb])]
    rfl
  | grab hg =>
    exact .of_captured rfl (by simp [FindSeen, hg]) (by simp) (by simp) (by simp [enters])
  | search hg =>
    exact .of_captured rfl (by simp [tick, hg]) (by simp [tick, hg]) (by simp [tick, hg])
      (by rw [enters]; simp [tick, hg])
  | hold hg | reverse hg | confirmStop hg | kick hg | align hg | chase hg =>
    exact .of_captured rfl (by simp [aligned, seen, tick, hg]) (by simp [aligned, seen, tick, hg])
      (by simp [aligned, seen, tick, hg]) (by simp [enters, aligned, seen, tick, hg])

theorem bucketCounted_run (g : Int) (fs : List (Option Frame)) :
    LoopInv ((loop g).run .init fs) ∧
      BucketCounted g ((loop g).run .init fs) ((loop g).log .init fs) :=
  (loop g).run_log (J := fun s l => LoopInv s ∧ BucketCounted g s l) ⟨.init, .init⟩
    (fun s _ f h => ⟨h.1.step f, h.2.exit (exit_of_loopBody g s f) rfl⟩) fs

/-! ## The transitions of one iteration -/

section Transitions

variable {s' : LoopState} {out : List Cmd} (h : Exit g s f s' out)

include h

theorem Exit.approachBucket_iff : s.gameState ≠ .approachBucket ∧ s'.gameState = .approachBucket ↔
    FindSeen ⟨s, f, out⟩ ∧ BUCKET_CONFIRM_CNT ≤ s.bucketConfirm + 1 := by
  cases h with
  | noFrame => simp [tick, FindSeen, bucketSeen]
  | found hg hb hle => exact iff_of_true ⟨by simp [hg], rfl⟩ ⟨⟨hg, by simp [bucketSeen, hb]⟩, hle⟩
  | confirmBucket hg hb hlt =>
    refine iff_of_false (fun h => ?_) fun h => absurd h.2 (not_le.mpr hlt)
    cases hg.symm.trans h.2
  | turnForBucket hg hb => simp [tick, FindSeen, bucketSeen, hg, hb]
  | deposit hg | lostBucket hg | missBucket hg | atBucket hg | toBucket hg | hold hg | reverse hg
  | grab hg | confirmStop hg | kick hg | align hg | chase hg | search hg =>
    simp [FindSeen, aligned, seen, tick, hg]

/-- The bucket is approached without a command. -/
theorem Exit.out_of_approachBucket (hne : s.gameState ≠ .approachBucket)
    (hs' : s'.gameState = .approachBucket) : out = [] := by
  cases h with
  | noFrame => rfl
  | found => rfl
  | deposit | lostBucket | atBucket | grab => cases hs'
  | missBucket hg | toBucket hg => exact absurd hg hne
  | confirmBucket hg | turnForBucket hg | hold hg | reverse hg | confirmStop hg | kick hg
  | align hg | chase hg | search hg =>
    simp [aligned, seen, tick, hg] at hs'

theorem Exit.findBucket_iff : s.gameState = .approachBucket ∧ s'.gameState = .findBucket ↔
    f.isSome ∧ ApproachMissed ⟨s, f, out⟩ ∧ BUCKET_LOST_FRAMES < s.bucketLostCnt + 1 := by
  cases h with
  | noFrame => simp +contextual [tick]
  | lostBucket hg hb hlt => exact iff_of_true ⟨hg, rfl⟩ ⟨rfl, ⟨hg, by simp [bucketSeen, hb]⟩, hlt⟩
  | missBucket hg hb hle =>
    refine iff_of_false (fun h => ?_) fun h => absurd h.2.2 (not_lt.mpr hle)
    cases hg.symm.trans h.2
  | atBucket hg hb => simp [ApproachMissed, bucketSeen, hg, hb]
  | toBucket hg hb => simp [tick, ApproachMissed, bucketSeen, hg, hb]
  | deposit hg | found hg | confirmBucket hg | turnForBucket hg | hold hg | reverse hg
  | grab hg | confirmStop hg | kick hg | align hg | chase hg | search hg =>
    simp [ApproachMissed, hg]

theorem Exit.enters_deposit_iff : s.gameState ≠ .deposit ∧ s'.gameState = .deposit ↔
    s.gameState = .approachBucket ∧
      ∃ br, bucketSeen ⟨s, f, out⟩ = some br ∧ BUCKET_AREA_DEPOSIT ≤ br.areaRatio := by
  cases h with
  | noFrame => simp [tick, bucketSeen]
  | atBucket hg hb ha => simp [bucketSeen, hg, hb, ha]
  | toBucket hg hb ha => simp [tick, bucketSeen, hg, hb, ha]
  | lostBucket hg hb | missBucket hg hb => simp [tick, bucketSeen, hg, hb]
  | deposit hg | found hg | confirmBucket hg | turnForBucket hg | hold hg | reverse hg
  | grab hg | confirmStop hg | kick hg | align hg | chase hg | search hg =>
    simp [aligned, seen, tick, hg]

theorem Exit.release_iff : .arm .release ∈ out ↔ f.isSome ∧ s.gameState = .deposit := by
  cases h with
  | noFrame => simp
  | deposit hg => simp [hg]
  | found hg | confirmBucket hg | turnForBucket hg | lostBucket hg | missBucket hg | atBucket hg
  | toBucket hg | hold hg | reverse hg | grab hg | confirmStop hg | kick hg | align hg | chase hg
  | search hg => simp [hg]

end Transitions

/-! ## Runs -/

/-- A frame with an event completes a run of `n`, for a counter of the events that has
not reached `n`. -/
theorem lastRun_eq_iff (P : Iteration → Prop) [DecidablePred P] {r : Iteration} {n c : Int}
    (hn : 0 < n) (hr : r.input.isSome) (hlt : P r → c < n)
    (hc : P r → c = lastRun P (captured l)) :
    lastRun P (captured (l ++ [r])) = n ↔ P r ∧ n ≤ c + 1 := by
  obtain ⟨f, hf⟩ := Option.isSome_iff_exists.mp hr
  rw [captured_snoc_some l hf, lastRun_snoc]
  by_cases hp : P r
  · have := hlt hp
    have := hc hp
    simp only [hp, if_true, true_and]
    omega
  · simp only [hp, if_false, false_and, iff_false]
    omega

section Iteration

variable (hi : LoopInv s) (hc : BucketCounted g s l) (f : Option Frame)

include hi hc

theorem BucketCounted.approachBucket_iff : Enters g .approachBucket ((loop g).record s f) ↔
    f.isSome ∧ lastRun FindSeen (captured (l ++ [(loop g).record s f])) = BUCKET_CONFIRM_CNT := by
  have hexit := (exit_of_loopBody g s f).approachBucket_iff
  refine hexit.trans ⟨fun h => ?_, fun h => ?_⟩
  · have hf : f.isSome := Option.isSome_of_isSome_bind h.1.2
    exact ⟨hf, (lastRun_eq_iff FindSeen (by decide) hf (fun hp => (hi.find hp.1).2.1)
      fun hp => hc.confirm hp.1).mpr h⟩
  · exact (lastRun_eq_iff FindSeen (by decide) h.1 (fun hp => (hi.find hp.1).2.1)
      fun hp => hc.confirm hp.1).mp h.2

theorem BucketCounted.findBucket_iff :
    s.gameState = .approachBucket ∧ Enters g .findBucket ((loop g).record s f) ↔
      f.isSome ∧
        lastRun ApproachMissed (captured (l ++ [(loop g).record s f])) = BUCKET_LOST_FRAMES + 1 := by
  have hexit := (exit_of_loopBody g s f).findBucket_iff
  have hne : s.gameState = .approachBucket ∧ Enters g .findBucket ((loop g).record s f) ↔
      s.gameState = .approachBucket ∧ (loopBody g s f).1.gameState = .findBucket := by
    refine and_congr_right fun hg => and_iff_right ?_
    show s.gameState ≠ .findBucket
    rw [hg]
    decide
  refine hne.trans (hexit.trans (and_congr_right fun hf => ?_))
  refine Iff.symm (lastRun_eq_iff ApproachMissed (by decide) hf (fun hp => ?_) fun hp => hc.lost hp.1)
  have := (hi.approach hp.1).2
  omega

end Iteration

/-- The last frame before the bucket is approached is one that confirms it. -/
theorem BucketCounted.standby_of_enters (hc : BucketCounted g s l) (f : Option Frame)
    (h : Enters g .approachBucket ((loop g).record s f)) :
    lastMotor ((l ++ [(loop g).record s f]).flatMap Record.out) = some .standby := by
  have hexit := exit_of_loopBody g s f
  obtain ⟨hf, hle⟩ := hexit.approachBucket_iff.mp h
  have hpos : 0 < s.bucketConfirm := by
    unfold BUCKET_CONFIRM_CNT at hle
    omega
  have hout : ((loop g).record s f).out = [] := hexit.out_of_approachBucket h.1 h.2
  rw [lastMotor_snoc, hout]
  exact hc.standby hf.1 hpos

/-- When an iteration `r`, after the iterations `pre`, goes from one of the bucket's
states to another, counting captured frames. -/
structure BucketRules (g : Int) (pre : List Iteration) (r : Iteration) : Prop where
  /-- `APPROACH_BUCKET` is entered on the third frame in a row with the bucket in view. -/
  approach : Enters g .approachBucket r ↔ r.input.isSome ∧
    lastRun FindSeen (captured (pre ++ [r])) = BUCKET_CONFIRM_CNT
  standby : Enters g .approachBucket r → lastMotor ((pre ++ [r]).flatMap Record.out) = some .standby
  /-- It falls back on the frame after `BUCKET_LOST_FRAMES` in a row without the
  bucket. -/
  find : r.pre.gameState = .approachBucket ∧ Enters g .findBucket r ↔ r.input.isSome ∧
    lastRun ApproachMissed (captured (pre ++ [r])) = BUCKET_LOST_FRAMES + 1
  /-- `DEPOSIT` is entered on a frame with the bucket near. -/
  deposit : Enters g .deposit r ↔ r.pre.gameState = .approachBucket ∧
    ∃ br, bucketSeen r = some br ∧ BUCKET_AREA_DEPOSIT ≤ br.areaRatio
  /-- The ball is released on the next frame. -/
  release : .arm .release ∈ r.out ↔ r.input.isSome ∧
    ∃ q, (captured pre).getLast? = some q ∧ Enters g .deposit q

/-- Every iteration of every run keeps to the rules. -/
theorem bucket_run (g : Int) (fs : List (Option Frame)) (pre post : List Iteration) (r : Iteration)
    (h : (loop g).log .init fs = pre ++ r :: post) : BucketRules g pre r := by
  obtain ⟨fs', f, rfl, rfl⟩ := (loop g).log_eq_append_cons h
  obtain ⟨hi, hc⟩ := bucketCounted_run g fs'
  refine ⟨hc.approachBucket_iff hi f, hc.standby_of_enters f, hc.findBucket_iff hi f,
    (exit_of_loopBody g _ f).enters_deposit_iff, ?_⟩
  rw [← hc.deposit]
  exact (exit_of_loopBody g _ f).release_iff

/-- A frame with a ball in front of the gripper, and with the bucket. -/
def ballAndFarBucket : Frame where
  halfW := 320
  camHalfW := 320
  bucket := some { areaRatio := 1 / 10, cx := 320, cy := 320, x := 240, y := 240, w := 160, h := 160 }
  ball := ballInFront.ball

/-- Six such frames. -/
def sixFrames : List (Option Frame) := List.replicate 6 (some ballAndFarBucket)

/-- With the seventh the bucket is approached. -/
theorem bucket_run_seventh :
    BucketRules 120 ((loop 120).log .init sixFrames)
        ((loop 120).record ((loop 120).run .init sixFrames) (some ballAndFarBucket)) ∧
      Enters 120 .approachBucket
        ((loop 120).record ((loop 120).run .init sixFrames) (some ballAndFarBucket)) := by
  refine ⟨bucket_run 120 (sixFrames ++ [some ballAndFarBucket]) _ [] _
    ((loop 120).log_snoc _ _ _), ?_⟩
  unfold Enters
  decide +kernel

end TR.Proof.Game
