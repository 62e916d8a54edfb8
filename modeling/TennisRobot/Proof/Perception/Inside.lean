import TennisRobot.Proof.Perception.Calibration

/-!
# Boxes in the padding

`Letterbox.undo` clamps the near edges of a box to zero and the far ones to the
size of the picture, and no edge both ways. So a side turns over exactly where it
lies in the padding (`clamped_le_iff`), and a box stays in the picture when it
meets it on both axes (`inside_undo`). Two letterboxes, one after the other, are
no different from one (`inside_undo_undo`), but for a camera whose letterbox is
skipped (`inside_undo_skip`). `stays_iff` says this of the boxes and of the area
that an iteration reads off the largest one.
-/

namespace TR.Proof.Perception

open TR.Impl.Detect TR.Impl.Perception

/-! ## A side -/

/-- A side from `lo` to `hi` meets the `size` pixels of a picture that lie, scaled,
after the padding. -/
def Meets (scale pad size lo hi : Rat) : Prop := pad ≤ hi ∧ lo ≤ pad + size * scale

section Side

variable {scale pad size lo hi : Rat} (hs : 0 < scale)

include hs

theorem back_nonneg (x : Rat) : 0 ≤ (x - pad) / scale ↔ pad ≤ x := by
  rw [le_div_iff₀ hs, zero_mul, sub_nonneg]

theorem back_le (x : Rat) : (x - pad) / scale ≤ size ↔ x ≤ pad + size * scale := by
  rw [div_le_iff₀ hs, sub_le_iff_le_add']

/-- A side stays a side unless it lies in the padding. -/
theorem clamped_le_iff (hsize : 0 ≤ size) (hle : lo ≤ hi) :
    max 0 ((lo - pad) / scale) ≤ min size ((hi - pad) / scale) ↔ Meets scale pad size lo hi := by
  have hback : (lo - pad) / scale ≤ (hi - pad) / scale :=
    div_le_div_of_nonneg_right (sub_le_sub_right hle pad) hs.le
  rw [max_le_iff, le_min_iff, le_min_iff, back_nonneg hs, back_le hs, Meets]
  exact ⟨fun ⟨⟨_, h⟩, h', _⟩ => ⟨h, h'⟩, fun ⟨h, h'⟩ => ⟨⟨hsize, h⟩, h', hback⟩⟩

/-- Two letterboxes are taken back as one. -/
theorem back_back {scale' pad' : Rat} (hs' : 0 < scale') (x : Rat) :
    ((x - pad') / scale' - pad) / scale = (x - (pad' + scale' * pad)) / (scale * scale') := by
  have := hs.ne'
  have := hs'.ne'
  field_simp
  ring

end Side

section Fits

variable {src out n pad : Int} {scale : Rat} (h : Fits src out scale n pad) {lo hi : Rat}

include h

/-- A side that meets the picture in the frame meets the frame. -/
theorem Fits.meets_frame {scale' pad' : Rat} (hs' : 0 < scale')
    (hm : Meets (scale * scale') (pad' + scale' * pad) src lo hi) : Meets scale' pad' out lo hi := by
  refine ⟨?_, ?_⟩
  · have := mul_nonneg hs'.le h.cast_pad_nonneg
    linarith [hm.1]
  · have hend : (pad + src * scale) * scale' ≤ out * scale' :=
      mul_le_mul_of_nonneg_right (by linarith [h.le_sub_pad]) hs'.le
    calc lo ≤ pad' + scale' * pad + src * (scale * scale') := hm.2
      _ = pad' + (pad + src * scale) * scale' := by ring
      _ ≤ pad' + out * scale' := by linarith

end Fits

/-- A side ends in a picture of `size` pixels, or the frame has no more. -/
def Ends (scale pad size out hi : Rat) : Prop := size = out ∨ hi ≤ pad + size * scale

/-- A side that is clamped to the frame lies in a picture that is no larger. -/
theorem clamped_skip_iff {scale size out lo hi : Rat} (pad : Rat) (hs : 0 < scale)
    (hsize : 0 ≤ size) (hout : size ≤ out) (hle : lo ≤ hi) :
    max 0 ((lo - pad) / scale) ≤ min out ((hi - pad) / scale) ∧
        min out ((hi - pad) / scale) ≤ size ↔
      Meets scale pad size lo hi ∧ Ends scale pad size out hi := by
  rw [clamped_le_iff hs (hsize.trans hout) hle]
  constructor
  · rintro ⟨hm, hr⟩
    have hlo : (lo - pad) / scale ≤ size :=
      (le_max_right ..).trans (((clamped_le_iff hs (hsize.trans hout) hle).mpr hm).trans hr)
    refine ⟨⟨hm.1, (back_le hs lo).mp hlo⟩, ?_⟩
    rcases min_le_iff.mp hr with h | h
    · exact .inl (le_antisymm hout h)
    · exact .inr ((back_le hs hi).mp h)
  · rintro ⟨hm, he⟩
    have hgrow : size * scale ≤ out * scale := mul_le_mul_of_nonneg_right hout hs.le
    refine ⟨⟨hm.1, by linarith [hm.2]⟩, min_le_iff.mpr ?_⟩
    rcases he with h | h
    · exact .inl h.ge
    · exact .inr ((back_le hs hi).mpr h)

/-! ## A box -/

/-- A box of no negative size. -/
def Upright (b : Box) : Prop := 0 ≤ b.w ∧ 0 ≤ b.h

theorem Upright.left_le {b : Box} (hb : Upright b) : b.left ≤ b.right := by
  rw [Box.left, Box.right]
  linarith [hb.1]

theorem Upright.top_le {b : Box} (hb : Upright b) : b.top ≤ b.bottom := by
  rw [Box.top, Box.bottom]
  linarith [hb.2]

/-- A box meets a picture of `w` times `h` on both axes. -/
def MeetsBoth (scale padX padY : Rat) (w h : Int) (b : Box) : Prop :=
  Meets scale padX w b.left b.right ∧ Meets scale padY h b.top b.bottom

/-- The clamps keep the outer edges of a box in the picture. -/
theorem inside_of_clamped {lb : Letterbox} {w h : Int} {b : Box} :
    Inside w h (lb.undo w h b) ↔
      (lb.undo w h b).left ≤ (lb.undo w h b).right ∧ (lb.undo w h b).top ≤ (lb.undo w h b).bottom := by
  refine ⟨fun hin => ⟨hin.leftRight, hin.topBottom⟩, fun ⟨hx, hy⟩ => ⟨?_, hx, ?_, ?_, hy, ?_⟩⟩
  · rw [left_undo]; apply le_max_left
  · rw [right_undo]; apply min_le_left
  · rw [top_undo]; apply le_max_left
  · rw [bottom_undo]; apply min_le_left

section Boxes

variable {w h outW outH : Int} {cam lb : Letterbox} (hs : 0 < lb.scale) {b : Box} (hb : Upright b)

include hs hb

/-- The way back from a letterbox keeps a box in the picture exactly when the box
meets it. -/
theorem inside_undo (hw : 0 < w) (hh : 0 < h) :
    Inside w h (lb.undo w h b) ↔ MeetsBoth lb.scale lb.padX lb.padY w h b := by
  have hw' : (0 : Rat) ≤ w := by exact_mod_cast hw.le
  have hh' : (0 : Rat) ≤ h := by exact_mod_cast hh.le
  rw [inside_of_clamped, left_undo, right_undo, top_undo, bottom_undo,
    clamped_le_iff hs hw' hb.left_le, clamped_le_iff hs hh' hb.top_le, MeetsBoth]

variable (fits : FitsBoth w h outW outH cam)

include fits

/-- The way back from two letterboxes: a box stays in both pictures exactly when it
meets the inner one. -/
theorem inside_undo_undo (hW : 0 < outW) (hH : 0 < outH) :
    Inside outW outH (lb.undo outW outH b) ∧ Inside w h (cam.undo w h (lb.undo outW outH b)) ↔
      MeetsBoth (cam.scale * lb.scale) (lb.padX + lb.scale * cam.padX)
        (lb.padY + lb.scale * cam.padY) w h b := by
  have hc := fits.x.scale_pos
  have hinner : Inside w h (cam.undo w h (lb.undo outW outH b)) ↔
      MeetsBoth (cam.scale * lb.scale) (lb.padX + lb.scale * cam.padX)
        (lb.padY + lb.scale * cam.padY) w h b := by
    rw [inside_of_clamped]
    simp only [left_undo, right_undo, top_undo, bottom_undo]
    rw [max_back hc fits.x.cast_pad_nonneg, max_back hc fits.y.cast_pad_nonneg,
      min_back hc fits.x.le_sub_pad, min_back hc fits.y.le_sub_pad]
    simp only [back_back hc hs]
    rw [clamped_le_iff (mul_pos hc hs) fits.x.cast_src_pos.le hb.left_le,
      clamped_le_iff (mul_pos hc hs) fits.y.cast_src_pos.le hb.top_le, MeetsBoth]
  rw [hinner, and_iff_right_iff_imp, inside_undo hs hb hW hH]
  exact fun hm => ⟨fits.x.meets_frame hs hm.1, fits.y.meets_frame hs hm.2⟩

/-- Where the letterbox of the camera is skipped, a box can end in the pixel that the
frame has more. -/
theorem inside_undo_skip (hc : cam.scale = 1) :
    Inside outW outH (lb.undo outW outH b) ∧ Inside w h (lb.undo outW outH b) ↔
      MeetsBoth lb.scale lb.padX lb.padY w h b ∧
        Ends lb.scale lb.padX w outW b.right ∧ Ends lb.scale lb.padY h outH b.bottom := by
  have hwW := fits.x.le_out
  have hhH := fits.y.le_out
  rw [hc, mul_one] at hwW hhH
  have hx := clamped_skip_iff lb.padX hs fits.x.cast_src_pos.le hwW hb.left_le
  have hy := clamped_skip_iff lb.padY hs fits.y.cast_src_pos.le hhH hb.top_le
  rw [← left_undo lb outW outH, ← right_undo lb outW outH] at hx
  rw [← top_undo lb outW outH, ← bottom_undo lb outW outH] at hy
  have hinner : Inside outW outH (lb.undo outW outH b) ∧ Inside w h (lb.undo outW outH b) ↔
      ((lb.undo outW outH b).left ≤ (lb.undo outW outH b).right ∧
          (lb.undo outW outH b).right ≤ w) ∧
        (lb.undo outW outH b).top ≤ (lb.undo outW outH b).bottom ∧
          (lb.undo outW outH b).bottom ≤ h := by
    refine ⟨fun ⟨_, hin⟩ => ⟨⟨hin.leftRight, hin.right⟩, hin.topBottom, hin.bottom⟩,
      fun ⟨⟨hlr, hr⟩, htb, hbot⟩ => ?_⟩
    have hout := inside_of_clamped.mpr ⟨hlr, htb⟩
    exact ⟨hout, hout.left, hlr, hr, hout.top, htb, hbot⟩
  rw [hinner, hx, hy, MeetsBoth, and_and_and_comm]

end Boxes

/-! ## A picture -/

/-- The boxes that a picture of `w` times `h` can take back from the frame: those that
meet it in the input of the model, and that end in it where no letterbox is undone. -/
def MeetsCamera (cam lb : Letterbox) (w h : Int) (b : Box) : Prop :=
  MeetsBoth (cam.scale * lb.scale) (lb.padX + lb.scale * cam.padX)
      (lb.padY + lb.scale * cam.padY) w h b ∧
    (cam.scale = 1 ∧ cam.padX = 0 ∧ cam.padY = 0 →
      Ends lb.scale lb.padX w FRAME_WIDTH b.right ∧ Ends lb.scale lb.padY h FRAME_HEIGHT b.bottom)

/-- The letterbox of the frame in the input of the model, as `correctYoloBoxes` finds it. -/
def frameToModel (cfg : Config) (s : Shot) : Letterbox :=
  .of (frameSize cfg s).1 (frameSize cfg s).2 cfg.modelW cfg.modelH

/-- Where a box of the model's input has to be. -/
def MeetsPicture (cfg : Config) (s : Shot) (b : Box) : Prop :=
  match cfg.build with
  | .uvc => MeetsCamera (uvcGrabBgr s.cols s.rows) (frameToModel cfg s) s.cols s.rows b
  | _ => MeetsBoth (frameToModel cfg s).scale (frameToModel cfg s).padX (frameToModel cfg s).padY
      s.cols s.rows b

/-- No box of `dets` leaves the frame or the camera's picture. -/
structure Stays (cfg : Config) (s : Shot) (dets : List Detection) : Prop where
  frame : ∀ d ∈ correctYoloBoxes dets dets.length (frameSize cfg s).2 (frameSize cfg s).1
    cfg.modelH cfg.modelW, Inside (frameSize cfg s).1 (frameSize cfg s).2 d.bbox
  camera : ∀ d ∈ cameraBoxes cfg s dets dets.length, Inside s.cols s.rows d.bbox

/-- `correctYoloBoxes`, for any two sizes. -/
theorem correctYoloBoxes_inside {imgW imgH inputW inputH : Int} (hw : 0 < imgW) (hh : 0 < imgH)
    (hW : 0 < inputW) (hH : 0 < inputH) {dets : List Detection} (hup : ∀ d ∈ dets, Upright d.bbox) :
    (∀ d ∈ correctYoloBoxes dets dets.length imgH imgW inputH inputW, Inside imgW imgH d.bbox) ↔
      ∀ d ∈ dets, MeetsBoth (Letterbox.of imgW imgH inputW inputH).scale
        (Letterbox.of imgW imgH inputW inputH).padX (Letterbox.of imgW imgH inputW inputH).padY
        imgW imgH d.bbox := by
  have fits := fits_of hw hh hW hH
  rw [correctYoloBoxes, mapBoxes_length, List.forall_mem_map]
  exact forall₂_congr fun d hd => inside_undo fits.x.scale_pos (hup d hd) hw hh

/-- One box of the UVC build. -/
theorem uvc_inside {cfg : Config} (hmW : 0 < cfg.modelW) (hmH : 0 < cfg.modelH) {s : Shot}
    (hw : 0 < s.cols) (hh : 0 < s.rows) {b : Box} (hb : Upright b) :
    Inside FRAME_WIDTH FRAME_HEIGHT ((Letterbox.of FRAME_WIDTH FRAME_HEIGHT cfg.modelW
          cfg.modelH).undo FRAME_WIDTH FRAME_HEIGHT b) ∧ Inside s.cols s.rows (cameraBox cfg s b) ↔
      MeetsCamera (uvcGrabBgr s.cols s.rows)
        (.of FRAME_WIDTH FRAME_HEIGHT cfg.modelW cfg.modelH) s.cols s.rows b := by
  have hlb := (fits_of (w := FRAME_WIDTH) (h := FRAME_HEIGHT) (by decide) (by decide) hmW
    hmH).x.scale_pos
  have fits := fits_uvcGrabBgr hw hh
  rw [cameraBox, undoCameraBox, MeetsCamera]
  split_ifs with hne
  · have hskip : ¬((uvcGrabBgr s.cols s.rows).scale = 1 ∧ (uvcGrabBgr s.cols s.rows).padX = 0 ∧
        (uvcGrabBgr s.cols s.rows).padY = 0) := by
      rintro ⟨h1, h2, h3⟩
      exact hne.elim (absurd h1) fun h => h.elim (absurd h2) (absurd h3)
    rw [inside_undo_undo hlb hb fits (by decide) (by decide), and_iff_left fun h => absurd h hskip]
  · have hskip := not_or.mp hne
    rw [not_or, not_not, not_not, not_not] at hskip
    obtain ⟨h1, h2, h3⟩ := hskip
    rw [inside_undo_skip hlb hb fits h1, h1, h2, h3]
    simp only [one_mul, Int.cast_zero, mul_zero, add_zero, forall_const, and_self]

/-- A list of detections stays in the pictures when each box meets the camera's. -/
theorem stays_dets {cfg : Config} (hmW : 0 < cfg.modelW) (hmH : 0 < cfg.modelH) {s : Shot}
    (hw : 0 < s.cols) (hh : 0 < s.rows) {dets : List Detection}
    (hup : ∀ d ∈ dets, Upright d.bbox) :
    Stays cfg s dets ↔ ∀ d ∈ dets, MeetsPicture cfg s d.bbox := by
  have hstays : Stays cfg s dets ↔ _ ∧ _ := ⟨fun ⟨hf, hc⟩ => ⟨hf, hc⟩, fun ⟨hf, hc⟩ => ⟨hf, hc⟩⟩
  rw [hstays]
  cases hc : cfg.build with
  | uvc =>
    simp only [frameSize, frameToModel, MeetsPicture, hc, cameraBoxes_uvc hc, correctYoloBoxes,
      mapBoxes_length, List.forall_mem_map, ← forall₂_and]
    exact forall₂_congr fun d hd => uvc_inside hmW hmH hw hh (hup d hd)
  | esp32 | vi =>
    simp only [frameSize, frameToModel, MeetsPicture, hc, cameraBoxes, and_self]
    exact correctYoloBoxes_inside hw hh hmW hmH hup

/-! ## The area -/

/-- A box in a picture is no larger than the picture. -/
theorem Inside.area {w h : Int} {b : Box} (hw : 0 < w) (hh : 0 < h) (hb : Inside w h b) :
    0 ≤ b.w * b.h / (w * h : Int) ∧ b.w * b.h / (w * h : Int) ≤ 1 := by
  have hbw : b.w = b.right - b.left := by rw [Box.right, Box.left]; ring
  have hbh : b.h = b.bottom - b.top := by rw [Box.bottom, Box.top]; ring
  have hw0 : 0 ≤ b.w := by linarith [hb.leftRight]
  have hh0 : 0 ≤ b.h := by linarith [hb.topBottom]
  have hw1 : b.w ≤ w := by linarith [hb.left, hb.right]
  have hh1 : b.h ≤ h := by linarith [hb.top, hb.bottom]
  have hpos : (0 : Rat) < (w * h : Int) := by exact_mod_cast mul_pos hw hh
  refine ⟨div_nonneg (mul_nonneg hw0 hh0) hpos.le, ?_⟩
  rw [div_le_one hpos, Int.cast_mul]
  exact mul_le_mul hw1 hh1 hh0 (hw0.trans hw1)

/-- The largest detection is one of them. -/
theorem bestBall_mem {dets : List Detection} {d : Detection} (h : bestBall dets = some d) :
    d ∈ dets := by
  cases dets with
  | nil => cases h
  | cons d0 dets =>
    rw [bestBall, Option.some.injEq] at h
    rw [← h]
    refine List.foldlRecOn (motive := fun best => best ∈ d0 :: dets) dets _ List.mem_cons_self ?_
    intro best hbest d' hd'
    split_ifs
    · exact List.mem_cons_of_mem _ hd'
    · exact hbest

/-- The area that an iteration reads is that of a detection in the camera's picture. -/
theorem observe_ball {cfg : Config} {s : Shot} {ball : TR.Impl.Game.Ball}
    (h : (observe cfg s).ball = some ball) :
    ∃ d ∈ findBalls cfg s, ball.areaRatio = d.bbox.w * d.bbox.h / (s.cols * s.rows : Int) := by
  have hball : (observe cfg s).ball = (bestBall (findBalls cfg s)).map fun d =>
      { areaRatio := d.bbox.w * d.bbox.h / (s.cols * s.rows : Int), cx := castInt d.bbox.x } := by
    rw [observe]
    cases hc : cfg.build <;> simp only [frameSize, hc]
  rw [hball, Option.map_eq_some_iff] at h
  obtain ⟨d, hd, rfl⟩ := h
  exact ⟨d, bestBall_mem hd, rfl⟩

/-- What `NMS` leaves of the detections of a picture. -/
def survivors (cfg : Config) (s : Shot) : List Detection :=
  (nms cfg.std s.dets s.dets.length (45 / 100)).1

/-- The area of the ball is a part of the picture. -/
def AreaStays (cfg : Config) (s : Shot) : Prop :=
  ∀ ball, (observe cfg s).ball = some ball → 0 ≤ ball.areaRatio ∧ ball.areaRatio ≤ 1

/-- The boxes that `correctYoloBoxes` writes stay in the image, and those of a picture in
the camera's picture as well, exactly when each meets the picture; and then the area of
the ball is a part of it. -/
theorem stays_iff (cfg : Config) (hmW : 0 < cfg.modelW) (hmH : 0 < cfg.modelH) (s : Shot)
    (hw : 0 < s.cols) (hh : 0 < s.rows) :
    (∀ imgW imgH, 0 < imgW → 0 < imgH → ∀ dets, (∀ d ∈ dets, Upright d.bbox) →
      ((∀ d ∈ correctYoloBoxes dets dets.length imgH imgW cfg.modelH cfg.modelW,
          Inside imgW imgH d.bbox) ↔
        ∀ d ∈ dets, MeetsBoth (Letterbox.of imgW imgH cfg.modelW cfg.modelH).scale
          (Letterbox.of imgW imgH cfg.modelW cfg.modelH).padX
          (Letterbox.of imgW imgH cfg.modelW cfg.modelH).padY imgW imgH d.bbox)) ∧
    (∀ dets, (∀ d ∈ dets, Upright d.bbox) →
      (Stays cfg s dets ↔ ∀ d ∈ dets, MeetsPicture cfg s d.bbox)) ∧
    ((∀ d ∈ s.dets, 0 < d.score) → (∀ d ∈ s.dets, Upright d.bbox) →
      (Stays cfg s (survivors cfg s) ∧ AreaStays cfg s ↔
        ∀ d ∈ survivors cfg s, MeetsPicture cfg s d.bbox)) := by
  refine ⟨fun imgW imgH hiw hih dets => correctYoloBoxes_inside hiw hih hmW hmH,
    fun dets => stays_dets hmW hmH hw hh, fun hpos hup => ?_⟩
  have hsurv : ∀ d ∈ survivors cfg s, Upright d.bbox :=
    fun d hd => hup d (Detect.mem_of_mem_nms cfg.std hpos _ hd)
  rw [← stays_dets hmW hmH hw hh hsurv, and_iff_left_iff_imp]
  intro hstays ball hball
  obtain ⟨d, hd, harea⟩ := observe_ball hball
  rw [findBalls_eq cfg hpos] at hd
  rw [harea]
  exact (hstays.camera d hd).area hw hh

/-- A picture of 640 times 480 with a ball in the middle. -/
def pictureBall : Detection := ⟨⟨320, 320, 64, 64⟩, 0, 9 / 10, 0⟩
def pictureShot : Shot := ⟨640, 480, [], [pictureBall]⟩

theorem stays_iff_pictureBall :
    Stays (uvcConfig 640 640) pictureShot (survivors (uvcConfig 640 640) pictureShot) ∧
      AreaStays (uvcConfig 640 640) pictureShot := by
  refine ((stays_iff (uvcConfig 640 640) (by decide) (by decide) pictureShot (by decide)
    (by decide)).2.2 (by decide +kernel) (by unfold Upright; decide +kernel)).mpr fun d hd => ?_
  rw [survivors, show pictureShot.dets = [pictureBall] from rfl,
    nms_singleton _ (by decide +kernel), List.mem_singleton] at hd
  rw [hd]
  show MeetsCamera (uvcGrabBgr 640 480) (.of 640 640 640 640) 640 480 pictureBall.bbox
  simp only [MeetsCamera, MeetsBoth, Meets, Ends]
  decide +kernel

/-- The same picture with a ball in the padding above it. -/
def paddingBall : Detection := ⟨⟨320, 40, 64, 64⟩, 0, 9 / 10, 0⟩
def paddingShot : Shot := ⟨640, 480, [], [paddingBall]⟩

/-- Its height comes out as minus eight pixels, and its area is negative. -/
theorem leaves_padding :
    Upright paddingBall.bbox ∧
      (¬∀ d ∈ correctYoloBoxes [paddingBall] 1 480 640 640 640, Inside 640 480 d.bbox) ∧
      ¬AreaStays (uvcConfig 640 640) paddingShot := by
  refine ⟨by unfold Upright; decide +kernel, fun h => ?_, fun h => ?_⟩
  · have hbox : correctYoloBoxes [paddingBall] 1 480 640 640 640 =
        [{ paddingBall with bbox := ⟨320, -4, 64, -8⟩ }] := by decide +kernel
    rw [hbox, List.forall_mem_singleton] at h
    exact absurd h.topBottom (by decide +kernel)
  · have hball : (observe (uvcConfig 640 640) paddingShot).ball = some ⟨-1 / 600, 320⟩ := by
      decide +kernel
    exact absurd (h _ hball).1 (by decide +kernel)

end TR.Proof.Perception
