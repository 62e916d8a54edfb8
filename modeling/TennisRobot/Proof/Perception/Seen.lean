import TennisRobot.Proof.Perception.Largest

/-!
# The ball that is seen

A ball of the camera's picture is drawn into the input of the model, found there, and taken
back. In every build each edge comes back a little too near the corner of the picture
(`short_toCamera`), by no more than `edgeError`; so the centre and the area that the loop
decides by are close to those of a ball in the picture (`observe_near`).
-/

namespace TR.Proof.Perception

open TR.Impl.Detect TR.Impl.Perception
open TR.Impl.Game (Ball)

/-- Where the model sees a box of the camera's picture. -/
def seenBox (cfg : Config) (s : Shot) (b : Box) : Box :=
  match cfg.build with
  | .uvc => modelBox cfg s b
  | _ => place (modelLetterbox s.cols s.rows cfg.modelW cfg.modelH) s.cols s.rows b

/-- What an edge can lose on its way: a pixel of each picture that is scaled, in pixels of the
camera. -/
def edgeError (cfg : Config) (s : Shot) : Rat :=
  match cfg.build with
  | .uvc => (1 + 1 / (frameToModel cfg s).scale) / (uvcGrabBgr s.cols s.rows).scale
  | _ => 1 / (frameToModel cfg s).scale

/-- A box in a picture is upright. -/
theorem Inside.upright {w h : Int} {b : Box} (hb : Inside w h b) : Upright b :=
  ⟨by rw [← Detect.right_sub_left b]; linarith [hb.leftRight],
    by rw [← Detect.bottom_sub_top b]; linarith [hb.topBottom]⟩

section Way

variable {cfg : Config} (hmW : 0 < cfg.modelW) (hmH : 0 < cfg.modelH) {s : Shot} (hw : 0 < s.cols)
  (hh : 0 < s.rows) {b : Box} (hb : Inside s.cols s.rows b)

include hmW hmH hw hh hb

/-- What the model sees of a box is upright. -/
theorem upright_seenBox : Upright (seenBox cfg s b) := by
  have hframe := inside_place (fits_uvcGrabBgr hw hh) hb
  unfold seenBox modelBox
  cases cfg.build with
  | uvc =>
    rw [modelLetterbox_eq (by decide) (by decide)]
    exact (inside_place (fits_of (by decide) (by decide) hmW hmH) hframe).upright
  | esp32 | vi =>
    simp only [modelLetterbox_eq hw hh]
    exact (inside_place (fits_of hw hh hmW hmH) hb).upright

/-- Through both letterboxes of the UVC build. -/
theorem short_cameraBox {lb : Letterbox}
    (hlb : lb = .of FRAME_WIDTH FRAME_HEIGHT cfg.modelW cfg.modelH) :
    ShortBox ((1 + 1 / lb.scale) / (uvcGrabBgr s.cols s.rows).scale) b
      (cameraBox cfg s (modelBox cfg s b)) := by
  have fits1 := fits_uvcGrabBgr hw hh
  have fits2 : FitsBoth FRAME_WIDTH FRAME_HEIGHT cfg.modelW cfg.modelH lb := by
    rw [hlb]
    exact fits_of (by decide) (by decide) hmW hmH
  have hm := short_undo fits2 (inside_place fits1 hb) (ShortBox.refl _)
  rw [add_zero] at hm
  rw [cameraBox, modelBox, undoCameraBox, modelLetterbox_eq (by decide) (by decide), ← hlb]
  split_ifs with hne
  · exact short_undo fits1 hb hm
  · push Not at hne
    exact short_skip fits1 hb hm hne.1 hne.2.1 hne.2.2

theorem short_toCamera : ShortBox (edgeError cfg s) b (toCamera cfg s (seenBox cfg s b)) := by
  unfold edgeError toCamera seenBox
  cases hc : cfg.build with
  | uvc => exact short_cameraBox hmW hmH hw hh hb (by rw [frameToModel, frameSize, hc])
  | esp32 | vi =>
    have hlb : frameToModel cfg s = .of s.cols s.rows cfg.modelW cfg.modelH := by
      rw [frameToModel, frameSize, hc]
    have h := short_undo (fits_of hw hh hmW hmH) hb (ShortBox.refl _)
    rw [add_zero] at h
    simp only [modelLetterbox_eq hw hh, hlb]
    exact h

end Way

/-! ## The ball -/

/-- A ball that is near a box of a picture of `w` times `h`: its edges come short by `e`. -/
structure BallNear (e : Rat) (w h : Int) (b : Box) (ball : Ball) : Prop where
  cx_le : (ball.cx : Rat) ≤ b.x
  lt_cx : b.x - e - 1 < ball.cx
  area : |ball.areaRatio - b.w * b.h / (w * h : Int)| ≤ e * (b.w + b.h + e) / (w * h : Int)

/-- What becomes of the centre. -/
theorem ShortBox.centre {e : Rat} {b b' : Box} (h : ShortBox e b b') : Short e b.x b'.x := by
  have hl := h.left
  have hr := h.right
  unfold Box.left at hl
  unfold Box.right at hr
  exact ⟨by linarith [hl.lower, hr.lower], by linarith [hl.upper, hr.upper]⟩

/-- What becomes of the area. -/
theorem ShortBox.area {e : Rat} {b b' : Box} (h : ShortBox e b b') (hw : 0 ≤ b.w) (hh : 0 ≤ b.h) :
    |b'.w * b'.h - b.w * b.h| ≤ e * (b.w + b.h + e) := by
  obtain ⟨hl, hr, ht, hm⟩ := h
  unfold Box.left at hl
  unfold Box.right at hr
  unfold Box.top at ht
  unfold Box.bottom at hm
  have he : 0 ≤ e := by linarith [hl.lower, hl.upper]
  have hdw : |b'.w - b.w| ≤ e :=
    abs_le.mpr ⟨by linarith [hl.upper, hr.lower], by linarith [hl.lower, hr.upper]⟩
  have hdh : |b'.h - b.h| ≤ e :=
    abs_le.mpr ⟨by linarith [ht.upper, hm.lower], by linarith [ht.lower, hm.upper]⟩
  calc |b'.w * b'.h - b.w * b.h|
      = |(b'.w - b.w) * b.h + b.w * (b'.h - b.h) + (b'.w - b.w) * (b'.h - b.h)| := by
        congr 1
        ring
    _ ≤ |b'.w - b.w| * b.h + b.w * |b'.h - b.h| + |b'.w - b.w| * |b'.h - b.h| := by
        refine (abs_add_three _ _ _).trans_eq ?_
        rw [abs_mul, abs_mul, abs_mul, abs_of_nonneg hh, abs_of_nonneg hw]
    _ ≤ e * b.h + b.w * e + e * e := by gcongr
    _ = e * (b.w + b.h + e) := by ring

/-- What becomes of the centre as an `int`. -/
theorem Short.truncate {e x x' : Rat} (h : Short e x x') (hx : 0 ≤ x) :
    (castInt x' : Rat) ≤ x ∧ x - e - 1 < castInt x' := by
  rcases le_total 0 x' with h0 | h0
  · have hle := castInt_le h0
    have hlt := lt_castInt_add_one h0
    exact ⟨hle.trans h.upper, by linarith [h.lower]⟩
  · -- A centre outside the picture is moved towards it.
    have h0' : 0 ≤ -x' := neg_nonneg.mpr h0
    have hle := castInt_le h0'
    have hge : (0 : Rat) ≤ castInt (-x') := by exact_mod_cast castInt_nonneg h0'
    rw [castInt_neg, Int.cast_neg] at hle hge
    exact ⟨by linarith, by linarith [h.lower]⟩

theorem ShortBox.ballNear {e : Rat} {w h : Int} {b b' : Box} (hw : 0 < w) (hh : 0 < h)
    (hb : Inside w h b) (hs : ShortBox e b b') :
    BallNear e w h b ⟨boxArea b' / (w * h : Int), castInt b'.x⟩ := by
  have hup := hb.upright
  have hx : 0 ≤ b.x := by
    have hleft := hb.left
    unfold Box.left at hleft
    linarith [hup.1]
  obtain ⟨hle, hlt⟩ := hs.centre.truncate hx
  refine ⟨hle, hlt, ?_⟩
  have hsize : (0 : Rat) < (w * h : Int) := by exact_mod_cast mul_pos hw hh
  rw [← sub_div, abs_div, abs_of_pos hsize]
  exact div_le_div_of_nonneg_right (hs.area hup.1 hup.2) hsize.le

section Seen

variable {cfg : Config} (hmW : 0 < cfg.modelW) (hmH : 0 < cfg.modelH) {s : Shot} (hw : 0 < s.cols)
  (hh : 0 < s.rows) (hpos : ∀ d ∈ s.dets, 0 < d.score)
  (hseen : ∀ d ∈ s.dets, ∃ b, Inside s.cols s.rows b ∧ d.bbox = seenBox cfg s b)

include hmW hmH hw hh hpos hseen

/-- The largest detection is near one of the balls. -/
theorem bestBall_near {best : Detection} (hbest : bestBall (findBalls cfg s) = some best) :
    ∃ b, Inside s.cols s.rows b ∧ (∃ d ∈ s.dets, d.bbox = seenBox cfg s b) ∧
      BallNear (edgeError cfg s) s.cols s.rows b
        ⟨boxArea best.bbox / (s.cols * s.rows : Int), castInt best.bbox.x⟩ := by
  have hmem := bestBall_mem hbest
  rw [findBalls_map cfg hpos] at hmem
  obtain ⟨d, hd, rfl⟩ := List.mem_map.mp hmem
  have hd := Detect.mem_of_mem_nms cfg.std hpos _ hd
  obtain ⟨b, hb, hbox⟩ := hseen d hd
  have hshort := short_toCamera hmW hmH hw hh hb
  rw [← hbox] at hshort
  exact ⟨b, hb, ⟨d, hd, hbox⟩, hshort.ballNear hw hh hb⟩

/-- Where there is a detection, there is a largest one. -/
theorem exists_bestBall_near (hne : s.dets ≠ []) : ∃ b ball, (observe cfg s).ball = some ball ∧
    Inside s.cols s.rows b ∧ (∃ d ∈ s.dets, d.bbox = seenBox cfg s b) ∧
      BallNear (edgeError cfg s) s.cols s.rows b ball := by
  obtain ⟨d, hd⟩ := List.exists_mem_of_ne_nil _ hne
  obtain ⟨b, hb, hbox⟩ := hseen d hd
  have hup : Upright d.bbox := hbox ▸ upright_seenBox hmW hmH hw hh hb
  obtain ⟨e, he, -⟩ : ∃ e ∈ survivors cfg s, 45 / 100 * boxArea d.bbox ≤ boxArea e.bbox :=
    exists_survivor cfg.std hpos (by norm_num) (by norm_num) hd (mul_nonneg hup.1 hup.2)
  have hfound : findBalls cfg s ≠ [] := by
    rw [findBalls_map cfg hpos]
    exact List.ne_nil_of_mem (List.mem_map_of_mem he)
  obtain ⟨best, hbest⟩ := exists_bestBall hfound
  obtain ⟨b, hb, hd, hnear⟩ := bestBall_near hmW hmH hw hh hpos hseen hbest
  exact ⟨b, _, by rw [observe_bestBall, hbest]; rfl, hb, hd, hnear⟩

end Seen

/-- When all that the model finds are balls of the picture, the ball that the loop sees is one
of them, but for `edgeError`. -/
theorem observe_near (cfg : Config) (hmW : 0 < cfg.modelW) (hmH : 0 < cfg.modelH) (s : Shot)
    (hw : 0 < s.cols) (hh : 0 < s.rows) (hpos : ∀ d ∈ s.dets, 0 < d.score)
    (hseen : ∀ d ∈ s.dets, ∃ b, Inside s.cols s.rows b ∧ d.bbox = seenBox cfg s b)
    {ball : Ball} (hball : (observe cfg s).ball = some ball) :
    ∃ b, Inside s.cols s.rows b ∧ (∃ d ∈ s.dets, d.bbox = seenBox cfg s b) ∧
      BallNear (edgeError cfg s) s.cols s.rows b ball := by
  rw [observe_bestBall, Option.map_eq_some_iff] at hball
  obtain ⟨best, hbest, rfl⟩ := hball
  exact bestBall_near hmW hmH hw hh hpos hseen hbest

/-- The picture with one ball, as a model of half the size sees it. -/
def seenShot : Shot :=
  { vgaShot with
    dets := [{ vgaBall with bbox := seenBox (uvcConfig 320 320) vgaShot vgaBall.bbox }] }

theorem seen_seenShot (d : Detection) (hd : d ∈ seenShot.dets) :
    ∃ b, Inside seenShot.cols seenShot.rows b ∧ d.bbox = seenBox (uvcConfig 320 320) seenShot b := by
  refine ⟨vgaBall.bbox, ?_, ?_⟩
  · refine ⟨?_, ?_, ?_, ?_, ?_, ?_⟩ <;> decide +kernel
  · rw [List.mem_singleton.mp hd]
    rfl

theorem observe_near_vgaBall : ∃ ball, (observe (uvcConfig 320 320) seenShot).ball = some ball ∧
    ∃ b, Inside 640 480 b ∧
      (∃ d ∈ seenShot.dets, d.bbox = seenBox (uvcConfig 320 320) seenShot b) ∧
      BallNear (edgeError (uvcConfig 320 320) seenShot) 640 480 b ball := by
  have hsome : (observe (uvcConfig 320 320) seenShot).ball.isSome = true := by decide +kernel
  obtain ⟨ball, hball⟩ := Option.isSome_iff_exists.mp hsome
  exact ⟨ball, hball, observe_near (uvcConfig 320 320) (by decide) (by decide) seenShot (by decide)
    (by decide) (by decide +kernel) seen_seenShot hball⟩

end TR.Proof.Perception
