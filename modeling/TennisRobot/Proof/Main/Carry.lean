import TennisRobot.Proof.Main.Sight

/-!
# From the contours to the line

What the chassis is told in an iteration of the robot that carries a ball, by the red contours
of its frame. The bucket is the largest contour, if that is large enough
(`detectBucketBgr_cases`). Without one the robot turns on the spot, or stands; with one it
stands until it is sure of it, drives ahead towards its middle, and brakes and stops before
it (`carry_on_line`).
-/

namespace TR.Proof.Main

open TR.Impl.Game TR.Impl.Main TR.Impl.Motor TR.Spec
open TR.Impl.Perception (Contour Shot observe frameSize bestContour detectBucketBgr
  BUCKET_MIN_AREA)
open TR.Proof.Game TR.Proof.Motor TR.Proof.Perception

/-! ## The bucket in a frame -/

/-- The loop over the contours keeps a largest one, of those that have an area. -/
theorem bestContour_cases (cs : List Contour) :
    (bestContour cs = (none, 0) ∧ ∀ c ∈ cs, c.area ≤ 0) ∨
      ∃ c ∈ cs, bestContour cs = (some c, c.area) ∧ 0 < c.area ∧ ∀ c' ∈ cs, c'.area ≤ c.area := by
  induction cs using List.reverseRecOn with
  | nil => exact .inl ⟨rfl, fun _ h => nomatch h⟩
  | append_singleton cs a ih =>
    have hstep : bestContour (cs ++ [a]) =
        if a.area > (bestContour cs).2 then (some a, a.area) else bestContour cs := by
      rw [bestContour, List.foldl_append]
      rfl
    have hlast {P : Contour → Prop} (h : ∀ c ∈ cs, P c) (ha : P a) : ∀ c ∈ cs ++ [a], P c :=
      fun c hc => (List.mem_append.mp hc).elim (h c) fun hc => List.mem_singleton.mp hc ▸ ha
    have hlarger (h0 : 0 < a.area) (h : ∀ c ∈ cs, c.area ≤ a.area) :
        ∃ c ∈ cs ++ [a], (some a, a.area) = (some c, c.area) ∧ 0 < c.area ∧
          ∀ c' ∈ cs ++ [a], c'.area ≤ c.area :=
      ⟨a, List.mem_append_right _ (List.mem_singleton_self a), rfl, h0, hlast h le_rfl⟩
    rw [hstep]
    rcases ih with ⟨hnone, hle⟩ | ⟨c, hc, hbest, h0, hle⟩
    · rw [hnone]
      by_cases ha : a.area > 0
      · rw [if_pos ha]
        exact .inr (hlarger ha fun c hc => (hle c hc).trans ha.le)
      · rw [if_neg ha]
        exact .inl ⟨rfl, hlast hle (not_lt.mp ha)⟩
    · rw [hbest]
      by_cases ha : a.area > c.area
      · rw [if_pos ha]
        exact .inr (hlarger (h0.trans ha) fun c' hc' => (hle c' hc').trans ha.le)
      · rw [if_neg ha]
        exact .inr ⟨c, List.mem_append_left _ hc, rfl, h0, hlast hle (not_lt.mp ha)⟩

/-- The bucket is a largest contour, with its area and the middle of its rectangle. -/
def IsBucket (cols rows : Int) (contours : List Contour) (c : Contour) (br : BucketResult) : Prop :=
  c ∈ contours ∧ (∀ c' ∈ contours, c'.area ≤ c.area) ∧
    br.areaRatio = c.area / (cols * rows : Int) ∧ br.cx = c.rect.x + c.rect.width.tdiv 2

/-- A bucket is found where a contour is large enough. -/
theorem detectBucketBgr_cases (cols rows : Int) (contours : List Contour) {minArea : Int}
    (hmin : 0 < minArea) :
    (detectBucketBgr cols rows contours minArea = none ∧ ∀ c ∈ contours, c.area < minArea) ∨
    ∃ c br, detectBucketBgr cols rows contours minArea = some br ∧ (minArea : Rat) ≤ c.area ∧
      IsBucket cols rows contours c br := by
  unfold detectBucketBgr
  rcases bestContour_cases contours with ⟨hbest, hle⟩ | ⟨c, hc, hbest, h0, hle⟩
  · rw [hbest]
    exact .inl ⟨rfl, fun c hc => (hle c hc).trans_lt (by exact_mod_cast hmin)⟩
  · rw [hbest]
    dsimp only
    by_cases ha : c.area < minArea
    · rw [if_pos ha]
      exact .inl ⟨rfl, fun c' hc' => (hle c' hc').trans_lt ha⟩
    · rw [if_neg ha]
      exact .inr ⟨c, _, rfl, not_lt.mp ha, hc, hle, rfl, rfl⟩

/-! ## What the wheels are told -/

/-- What an iteration tells the wheels of a robot that carries a ball. -/
structure CarriesBy (state : GameState) (cols rows : Int) (contours : List Contour) (n : Nat)
    (pairs : List (WheelCmd × WheelCmd)) : Prop where
  /-- While it lets the ball go the robot stands. -/
  deposit : state = .deposit → pairs = [(.stop, .stop)]
  /-- Without a bucket it looks for one, or waits for the one it has lost. -/
  unseen : (∀ c ∈ contours, c.area < BUCKET_MIN_AREA) →
    (state = .findBucket → ∃ v, 0 < v ∧ pairs = [(.speed v, .speed (-v))]) ∧
    (state = .approachBucket → pairs = [] ∨ pairs = [(.stop, .stop)])
  /-- With one it makes sure of it, and then drives to it. -/
  seen : (∃ c ∈ contours, (BUCKET_MIN_AREA : Rat) ≤ c.area) →
    (state = .findBucket → pairs = [] ∨ pairs = [(.stop, .stop)]) ∧
    (state = .approachBucket → ∃ c br, IsBucket cols rows contours c br ∧
      (BUCKET_AREA_DEPOSIT ≤ br.areaRatio →
        pairs = List.replicate n (.brake, .brake) ++ [(.stop, .stop)]) ∧
      (br.areaRatio < BUCKET_AREA_DEPOSIT → ∃ l r, pairs = [(.speed l, .speed r)] ∧ 0 < l + r ∧
        (5 < |br.cx - cols.tdiv 2| → cols.tdiv 2 ≤ 5 * |br.cx - cols.tdiv 2| →
          (cols.tdiv 2 < br.cx → r < l) ∧ (br.cx < cols.tdiv 2 → l < r))))

/-- Towards a bucket that is not near yet the robot goes ahead. -/
theorem bucketDrive_sent (f : Frame) (br : BucketResult) (hw : 1 ≤ f.halfW) : ∃ l r,
    bucketDrive f br = .drive l r ∧ 0 < sentSpeed MIN_SPEED l + sentSpeed MIN_SPEED r ∧
      (5 < |br.cx - f.halfW| → f.halfW ≤ 5 * |br.cx - f.halfW| → Steers (br.cx - f.halfW) l r) := by
  have hk : BUCKET_K_TURN = ((5 : Int) : Rat) := by norm_num [BUCKET_K_TURN]
  have hspd := bucketSpeed_bounds br
  have hbias := turnBias_bounds BUCKET_K_TURN f.halfW (br.cx - f.halfW)
  refine ⟨_, _, bucketDrive_eq f br, ?_, fun h5 hturn => ?_⟩
  · -- The wheel that goes ahead is faster than the other one goes back.
    generalize turnBias BUCKET_K_TURN f.halfW (br.cx - f.halfW) = bias at hbias ⊢
    have hlt : sentSpeed MIN_SPEED (-(bucketSpeed br - bias)) < sentSpeed MIN_SPEED (bucketSpeed br + bias) :=
      sentSpeed_lt (by omega) (by omega) (by omega)
    have hodd : sentSpeed MIN_SPEED (-(bucketSpeed br - bias)) =
        -sentSpeed MIN_SPEED (bucketSpeed br - bias) := sentSpeed_neg (by decide) (by decide) _
    omega
  · rw [hk]
    exact (steers_turnBias_iff hspd hw h5).mpr hturn

section Exits

variable {g : Int} {st st' : LoopState} {f : Frame} {out : List Cmd} (h : Exit g st (some f) st' out)

include h

theorem out_of_deposit (hs : st.gameState = .deposit) :
    out = [.motor .standby, .arm .release, .arm .grabPos] := by
  cases h with
  | deposit => rfl
  | found hg' | confirmBucket hg' | turnForBucket hg' | lostBucket hg' | missBucket hg'
  | atBucket hg' | toBucket hg' | hold hg' | reverse hg' | grab hg' | confirmStop hg' | kick hg'
  | align hg' | chase hg' | search hg' => cases hs.symm.trans hg'

theorem out_of_findBucket (hs : st.gameState = .findBucket) :
    (f.bucket = none → out = [.motor (.drive BUCKET_SEARCH_SPD (-BUCKET_SEARCH_SPD))]) ∧
    ((∃ br, f.bucket = some br) → out = [] ∨ out = [.motor .standby]) := by
  cases h with
  | found hg' hb' =>
    exact ⟨fun hb => (by cases hb.symm.trans hb'), fun _ => .inl rfl⟩
  | confirmBucket hg' hb' =>
    exact ⟨fun hb => (by cases hb.symm.trans hb'), fun _ => .inr rfl⟩
  | turnForBucket hg' hb' =>
    exact ⟨fun _ => rfl, fun ⟨br, hb⟩ => by cases hb.symm.trans hb'⟩
  | deposit hg' | lostBucket hg' | missBucket hg' | atBucket hg' | toBucket hg' | hold hg'
  | reverse hg' | grab hg' | confirmStop hg' | kick hg' | align hg' | chase hg'
  | search hg' => cases hs.symm.trans hg'

theorem out_of_approachBucket (hs : st.gameState = .approachBucket) :
    (f.bucket = none → out = [] ∨ out = [.motor .standby]) ∧
    ∀ br, f.bucket = some br → out = if BUCKET_AREA_DEPOSIT ≤ br.areaRatio
      then [.pulse .brake BRAKE_PULSE_US, .motor .standby] else [.motor (bucketDrive f br)] := by
  cases h with
  | lostBucket hg' hb' =>
    exact ⟨fun _ => .inl rfl, fun br hb => by cases hb.symm.trans hb'⟩
  | missBucket hg' hb' =>
    exact ⟨fun _ => .inr rfl, fun br hb => by cases hb.symm.trans hb'⟩
  | atBucket hg' hb' ha =>
    refine ⟨fun hb => (by cases hb.symm.trans hb'), fun br hb => ?_⟩
    cases Option.some.inj (hb.symm.trans hb')
    rw [if_pos ha]
  | toBucket hg' hb' ha =>
    refine ⟨fun hb => (by cases hb.symm.trans hb'), fun br hb => ?_⟩
    cases Option.some.inj (hb.symm.trans hb')
    rw [if_neg (not_le.mpr ha)]
  | deposit hg' | found hg' | confirmBucket hg' | turnForBucket hg' | hold hg' | reverse hg'
  | grab hg' | confirmStop hg' | kick hg' | align hg' | chase hg' | search hg' =>
    cases hs.symm.trans hg'

end Exits

/-- An iteration of a robot that carries a ball goes by the bucket. -/
theorem carriesBy_of_exit {g : Int} {st st' : LoopState} {cfg : Impl.Perception.Config} {s : Shot}
    {out : List Cmd} (h : Exit g st (some (observe cfg s)) st' out)
    (hw : 1 < (frameSize cfg s).1) (n : Nat) :
    CarriesBy st.gameState (frameSize cfg s).1 (frameSize cfg s).2 s.contours n (pairsOf n out) := by
  have hhalf : (observe cfg s).halfW = (frameSize cfg s).1.tdiv 2 := by rw [observe]
  have hcases := detectBucketBgr_cases (frameSize cfg s).1 (frameSize cfg s).2 s.contours
    (show (0 : Int) < BUCKET_MIN_AREA by decide)
  have hbucket : (observe cfg s).bucket = detectBucketBgr (frameSize cfg s).1 (frameSize cfg s).2
      s.contours BUCKET_MIN_AREA := by rw [observe]
  rw [← hbucket] at hcases
  refine ⟨fun hs => ?_, fun hall => ?_, fun hlarge => ?_⟩
  · rw [out_of_deposit h hs]
    rfl
  · have hnone : (observe cfg s).bucket = none := by
      rcases hcases with ⟨hnone, -⟩ | ⟨c, br, -, ha, hc, -⟩
      · exact hnone
      · exact absurd (hall c hc) (not_lt.mpr ha)
    refine ⟨fun hs => ⟨sentSpeed MIN_SPEED BUCKET_SEARCH_SPD, by decide, ?_⟩, fun hs => ?_⟩
    · rw [(out_of_findBucket h hs).1 hnone]
      rfl
    · rcases (out_of_approachBucket h hs).1 hnone with rfl | rfl
      · exact .inl rfl
      · exact .inr rfl
  · obtain ⟨c, hc, ha⟩ := hlarge
    obtain ⟨c', br, hsome, -, hbr⟩ := hcases.resolve_left fun hnone =>
      absurd (hnone.2 c hc) (not_lt.mpr ha)
    refine ⟨fun hs => ?_, fun hs => ⟨c', br, hbr, fun hnear => ?_, fun hfar => ?_⟩⟩
    · rcases (out_of_findBucket h hs).2 ⟨br, hsome⟩ with rfl | rfl
      · exact .inl rfl
      · exact .inr rfl
    · rw [(out_of_approachBucket h hs).2 br hsome, if_pos hnear]
      show (List.replicate n MotorCall.brake ++ [MotorCall.standby]).map pairOf = _
      rw [List.map_append, List.map_replicate]
      rfl
    · obtain ⟨l, r, hdrive, hahead, hsteers⟩ := bucketDrive_sent (observe cfg s) br (by
        rw [hhalf, Int.tdiv_eq_ediv_of_nonneg (by omega)]
        omega)
      rw [(out_of_approachBucket h hs).2 br hsome, if_neg (not_le.mpr hfar), hdrive]
      refine ⟨_, _, rfl, hahead, fun h5 hturn => ?_⟩
      rw [hhalf] at hsteers
      exact ⟨fun hr => (hsteers h5 hturn).1 (by omega), fun hl => (hsteers h5 hturn).2 (by omega)⟩

/-- While the robot carries a ball, a frame makes the process write frames that go by the red
contours in it. -/
theorem carry_on_line (cfg : Config) (hfd : 0 ≤ cfg.motorFd)
    (hstart : (cameraActs cfg.camera).2 = true) (hload : cfg.modelLoads = true)
    (fs : List (Option Frame × Nat)) (pcfg : Impl.Perception.Config) (s : Shot) (hw : 1 < s.cols)
    (n : Nat) : ∃ before acts pairs, mainActs cfg fs = some before ∧
      mainActs cfg (fs ++ [(some (observe pcfg s), n)]) = some (before ++ acts) ∧
      wheelCmds (chassisBytes acts) = some (pairs.flatMap fun p => [(0, p.1), (1, p.2)]) ∧
      CarriesBy ((loop cfg.stopCenterOffset).run .init (fs.map Prod.fst)).gameState
        (frameSize pcfg s).1 (frameSize pcfg s).2 s.contours n pairs := by
  have hframe : 1 < (frameSize pcfg s).1 := by
    unfold frameSize
    cases pcfg.build with
    | uvc => exact (by decide : (1 : Int) < Impl.Perception.FRAME_WIDTH)
    | esp32 | vi => exact hw
  obtain ⟨out, hexit, hacts, htold⟩ := frame_on_line hfd hstart hload fs (observe pcfg s) n
  exact ⟨_, _, _, mainActs_eq cfg fs, hacts, htold, carriesBy_of_exit hexit hframe n⟩

/-- A picture with a bucket in it. -/
def bucketShot : Shot := ⟨640, 480, [⟨2000, ⟨300, 200, 50, 50⟩⟩, ⟨900, ⟨0, 0, 30, 30⟩⟩], []⟩

theorem carry_on_line_bucketShot : ∃ before acts pairs,
    mainActs ⟨3, -1, 120, .uvc true, true⟩ fourBalls = some before ∧
    mainActs ⟨3, -1, 120, .uvc true, true⟩
      (fourBalls ++ [(some (observe (uvcConfig 640 640) bucketShot), 1)]) = some (before ++ acts) ∧
    wheelCmds (chassisBytes acts) = some (pairs.flatMap fun p => [(0, p.1), (1, p.2)]) ∧
    CarriesBy ((loop 120).run .init (fourBalls.map Prod.fst)).gameState 640 640 bucketShot.contours
      1 pairs :=
  carry_on_line ⟨3, -1, 120, .uvc true, true⟩ (by decide) rfl rfl fourBalls (uvcConfig 640 640)
    bucketShot (by decide) 1

-- The robot carries the ball then, and looks for the bucket.
example : ((loop 120).run .init (fourBalls.map Prod.fst)).gameState = .findBucket := by
  decide +kernel

end TR.Proof.Main
