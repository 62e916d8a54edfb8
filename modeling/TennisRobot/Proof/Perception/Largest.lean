import TennisRobot.Proof.Detect.Decode
import TennisRobot.Proof.Detect.Iou
import TennisRobot.Proof.Perception.Inside

/-!
# The largest ball

The loop follows the largest detection that `NMS` leaves, but `NMS` keeps the better one of
two that overlap, not the larger one. What is suppressed has less than `1 / thresh` times the
area of what suppresses it (`area_of_gt`). The way back from the letterboxes divides every area
by the same square (`area_toCamera`), so the ball that is followed has at least 45 hundredths of
the area of any detection (`followed_dets`), and of any box that the model puts out with a score
above one half (`followed_ball`).
-/

namespace TR.Proof.Perception

open TR.Impl.Detect TR.Impl.Perception
open TR.Impl.Game (Ball)

/-- The area of a box. -/
def boxArea (b : Box) : Rat := b.w * b.h

/-! ## Suppressed areas -/

section Overlap

open TR.Proof.Detect

/-- Of two boxes that overlap by more than `t`, neither has more than `1 / t` times the area of
the other. -/
theorem area_of_gt {a b : Box} {t : Rat} (ht : 0 ≤ t) (h : (calIou a b).gt t = true) :
    t * boxArea b ≤ boxArea a := by
  obtain ⟨hz, hn⟩ := calIou_cases a b
  by_cases hu : unionTerm a b = 0
  · rw [calIou_eq, hz hu, hu] at h
    simp [fdiv, FloatQuot.gt] at h
  · rw [calIou_eq, fdiv, if_pos hu] at h
    have hlt : t < interTerm a b / unionTerm a b := of_decide_eq_true h
    have hq : 0 < interTerm a b / unionTerm a b := ht.trans_lt hlt
    have hi : 0 < interTerm a b := by
      refine (interTerm_nonneg a b).lt_of_ne fun h0 => ?_
      rw [← h0, zero_div] at hq
      exact lt_irrefl _ hq
    have hpos := hi.trans_le (le_unionTerm hi)
    have ha := le_area_of_interTerm_pos hi
    have hb : boxArea b ≤ unionTerm a b := by
      unfold boxArea unionTerm
      linarith
    calc t * boxArea b ≤ t * unionTerm a b := mul_le_mul_of_nonneg_left hb ht
      _ ≤ interTerm a b := ((lt_div_iff₀ hpos).mp hlt).le
      _ ≤ boxArea a := ha

/-- For each detection `NMS` leaves one that is not much smaller. -/
theorem exists_survivor (std : StdSort) {dets : List Detection} (hpos : ∀ d ∈ dets, 0 < d.score)
    {thresh : Rat} (h0 : 0 ≤ thresh) (h1 : thresh ≤ 1) {d : Detection} (hd : d ∈ dets)
    (harea : 0 ≤ boxArea d.bbox) :
    ∃ e ∈ (nms std dets dets.length thresh).1, thresh * boxArea d.bbox ≤ boxArea e.bbox := by
  obtain ⟨gone, hperm, hgone⟩ := greedy_removed (R := fun _ _ => True) (overlaps thresh)
    (std.sort dets) (List.pairwise_of_forall fun _ _ => trivial)
  rw [nms_fst std hpos]
  rcases List.mem_append.mp ((hperm.trans (std.perm dets)).mem_iff.mpr hd) with hd | hd
  · exact ⟨d, hd, mul_le_of_le_one_left harea h1⟩
  · obtain ⟨e, he, hk, -⟩ := hgone d hd
    exact ⟨e, he, area_of_gt h0 (overlaps_iff.mp hk).2.2⟩

end Overlap

/-! ## The way back -/

/-- A side from `lo` to `hi` lies in the `size` pixels of a picture that lie, scaled, after the
padding. -/
def Lies (scale pad size lo hi : Rat) : Prop := pad ≤ lo ∧ hi ≤ pad + size * scale

/-- A box lies in a picture of `w` times `h`. -/
def LiesBoth (scale padX padY : Rat) (w h : Int) (b : Box) : Prop :=
  Lies scale padX w b.left b.right ∧ Lies scale padY h b.top b.bottom

/-- The way back from a letterbox, without the clamps. -/
def back (lb : Letterbox) (b : Box) : Box :=
  .ofEdges ((b.left - lb.padX) / lb.scale) ((b.top - lb.padY) / lb.scale)
    ((b.right - lb.padX) / lb.scale) ((b.bottom - lb.padY) / lb.scale)

theorem boxArea_back (lb : Letterbox) (b : Box) :
    boxArea (back lb b) = boxArea b / lb.scale ^ 2 := by
  unfold boxArea back Box.ofEdges Box.left Box.right Box.top Box.bottom
  ring

/-- A box that lies in the picture is not clamped. -/
theorem undo_eq_back {lb : Letterbox} (hs : 0 < lb.scale) {w h : Int} {b : Box}
    (hb : LiesBoth lb.scale lb.padX lb.padY w h b) : lb.undo w h b = back lb b := by
  obtain ⟨hx, hy⟩ := hb
  rw [box_ext, left_undo, right_undo, top_undo, bottom_undo, back, left_ofEdges, right_ofEdges,
    top_ofEdges, bottom_ofEdges]
  exact ⟨⟨max_eq_right ((back_nonneg hs _).mpr hx.1), min_eq_right ((back_le hs _).mpr hx.2)⟩,
    max_eq_right ((back_nonneg hs _).mpr hy.1), min_eq_right ((back_le hs _).mpr hy.2)⟩

section Fits

variable {src out n pad : Int} {scale : Rat} (fits : Fits src out scale n pad)
  {scale' pad' lo hi : Rat} (hs : 0 < scale')
  (h : Lies (scale * scale') (pad' + scale' * pad) src lo hi)

include fits hs h

/-- A side that lies in the picture in the frame lies in the frame. -/
theorem Fits.lies_frame : Lies scale' pad' out lo hi := by
  have hpad := mul_nonneg hs.le fits.cast_pad_nonneg
  have hend : (pad + src * scale) * scale' ≤ out * scale' :=
    mul_le_mul_of_nonneg_right (by linarith [fits.le_sub_pad]) hs.le
  refine ⟨by linarith [h.1], h.2.trans ?_⟩
  calc pad' + scale' * pad + src * (scale * scale') = pad' + (pad + src * scale) * scale' := by ring
    _ ≤ pad' + out * scale' := by linarith

end Fits

/-- A side that lies in the picture lies there when it has come back to the frame. -/
theorem Lies.back {scale pad size scale' pad' lo hi : Rat} (hs : 0 < scale')
    (h : Lies (scale * scale') (pad' + scale' * pad) size lo hi) :
    Lies scale pad size ((lo - pad') / scale') ((hi - pad') / scale') := by
  refine ⟨?_, ?_⟩
  · rw [le_div_iff₀ hs]
    linarith [h.1]
  · rw [div_le_iff₀ hs]
    linarith [h.2]

/-- What one pixel of the camera's picture is in the input of the model. -/
def modelScale (cfg : Config) (s : Shot) : Rat :=
  match cfg.build with
  | .uvc => (uvcGrabBgr s.cols s.rows).scale * (frameToModel cfg s).scale
  | _ => (frameToModel cfg s).scale

/-- A box of the model's input lies in the camera's picture. -/
def LiesInPicture (cfg : Config) (s : Shot) (b : Box) : Prop :=
  match cfg.build with
  | .uvc =>
    let cam := uvcGrabBgr s.cols s.rows
    let lb := frameToModel cfg s
    LiesBoth (cam.scale * lb.scale) (lb.padX + lb.scale * cam.padX) (lb.padY + lb.scale * cam.padY)
      s.cols s.rows b
  | _ => LiesBoth (frameToModel cfg s).scale (frameToModel cfg s).padX (frameToModel cfg s).padY
      s.cols s.rows b

/-- `cameraBoxes`, box by box. -/
def toCamera (cfg : Config) (s : Shot) (b : Box) : Box :=
  match cfg.build with
  | .uvc => cameraBox cfg s b
  | _ => (frameToModel cfg s).undo s.cols s.rows b

theorem cameraBoxes_eq (cfg : Config) (s : Shot) (dets : List Detection) :
    cameraBoxes cfg s dets dets.length =
      dets.map fun d => { d with bbox := toCamera cfg s d.bbox } := by
  unfold toCamera frameToModel
  cases hc : cfg.build with
  | uvc => exact cameraBoxes_uvc hc s dets
  | esp32 | vi =>
    simp only [cameraBoxes, frameSize, hc, correctYoloBoxes, mapBoxes_length]

/-- The way back of the UVC build, through both letterboxes. -/
theorem area_cameraBox {cfg : Config} (hmW : 0 < cfg.modelW) (hmH : 0 < cfg.modelH) {s : Shot}
    (hw : 0 < s.cols) (hh : 0 < s.rows) {b : Box} {lb : Letterbox}
    (hlb : lb = .of FRAME_WIDTH FRAME_HEIGHT cfg.modelW cfg.modelH)
    (hb : LiesBoth ((uvcGrabBgr s.cols s.rows).scale * lb.scale)
      (lb.padX + lb.scale * (uvcGrabBgr s.cols s.rows).padX)
      (lb.padY + lb.scale * (uvcGrabBgr s.cols s.rows).padY) s.cols s.rows b) :
    boxArea (cameraBox cfg s b) =
      boxArea b / ((uvcGrabBgr s.cols s.rows).scale * lb.scale) ^ 2 := by
  have fits := fits_uvcGrabBgr hw hh
  have hs : 0 < lb.scale := by
    rw [hlb]
    exact (fits_of (by decide) (by decide) hmW hmH).x.scale_pos
  have hframe : LiesBoth lb.scale lb.padX lb.padY FRAME_WIDTH FRAME_HEIGHT b :=
    ⟨fits.x.lies_frame hs hb.1, fits.y.lies_frame hs hb.2⟩
  have hback : LiesBoth (uvcGrabBgr s.cols s.rows).scale (uvcGrabBgr s.cols s.rows).padX
      (uvcGrabBgr s.cols s.rows).padY s.cols s.rows (back lb b) := by
    unfold LiesBoth back
    rw [left_ofEdges, right_ofEdges, top_ofEdges, bottom_ofEdges]
    exact ⟨hb.1.back hs, hb.2.back hs⟩
  have hboth : boxArea (back (uvcGrabBgr s.cols s.rows) (back lb b)) =
      boxArea b / ((uvcGrabBgr s.cols s.rows).scale * lb.scale) ^ 2 := by
    rw [boxArea_back, boxArea_back, div_div]
    ring
  rw [cameraBox, ← hlb, undo_eq_back hs hframe, undoCameraBox]
  split_ifs with hne
  · rw [undo_eq_back fits.x.scale_pos hback, hboth]
  · have hone := not_not.mp (not_or.mp hne).1
    rw [boxArea_back, hone, one_mul]

/-- On its way back a box that lies in the picture is divided by the scale. -/
theorem area_toCamera {cfg : Config} (hmW : 0 < cfg.modelW) (hmH : 0 < cfg.modelH) {s : Shot}
    (hw : 0 < s.cols) (hh : 0 < s.rows) {b : Box} (hb : LiesInPicture cfg s b) :
    boxArea (toCamera cfg s b) = boxArea b / modelScale cfg s ^ 2 := by
  unfold toCamera modelScale
  unfold LiesInPicture at hb
  cases hc : cfg.build with
  | uvc =>
    simp only [hc] at hb ⊢
    refine area_cameraBox hmW hmH hw hh ?_ hb
    rw [frameToModel, frameSize, hc]
  | esp32 | vi =>
    simp only [hc] at hb ⊢
    have hs : 0 < (frameToModel cfg s).scale := by
      rw [frameToModel, frameSize, hc]
      exact (fits_of hw hh hmW hmH).x.scale_pos
    rw [undo_eq_back hs hb, boxArea_back]

/-! ## The ball -/

/-- The best ball is the largest one. -/
theorem bestBall_max {dets : List Detection} {best d : Detection} (h : bestBall dets = some best)
    (hd : d ∈ dets) : boxArea d.bbox ≤ boxArea best.bbox := by
  cases dets with
  | nil => cases h
  | cons a l =>
    rw [bestBall, Option.some.injEq] at h
    rw [← h]
    exact le_foldl_larger (fun d : Detection => boxArea d.bbox) l a d hd

theorem exists_bestBall {dets : List Detection} (h : dets ≠ []) :
    ∃ best, bestBall dets = some best := by
  cases dets with
  | nil => exact absurd rfl h
  | cons a l => exact ⟨_, rfl⟩

theorem modelScale_pos {cfg : Config} (hmW : 0 < cfg.modelW) (hmH : 0 < cfg.modelH) {s : Shot}
    (hw : 0 < s.cols) (hh : 0 < s.rows) : 0 < modelScale cfg s := by
  unfold modelScale frameToModel frameSize
  cases cfg.build with
  | uvc =>
    exact mul_pos (fits_uvcGrabBgr hw hh).x.scale_pos
      (fits_of (w := FRAME_WIDTH) (h := FRAME_HEIGHT) (by decide) (by decide) hmW hmH).x.scale_pos
  | esp32 | vi => exact (fits_of hw hh hmW hmH).x.scale_pos

/-- The ball of a picture, from its box in the input of the model. -/
def ballOf (cfg : Config) (s : Shot) (b : Box) : Ball where
  areaRatio := boxArea b / modelScale cfg s ^ 2 / (s.cols * s.rows : Int)
  cx := castInt (toCamera cfg s b).x

/-- The ball is the best one of those found. -/
theorem observe_bestBall (cfg : Config) (s : Shot) : (observe cfg s).ball =
    (bestBall (findBalls cfg s)).map fun d =>
      ⟨boxArea d.bbox / (s.cols * s.rows : Int), castInt d.bbox.x⟩ := by
  rw [observe]
  cases hc : cfg.build <;> simp only [frameSize, hc] <;> rfl

/-- Without a detection there is no ball. -/
theorem observe_nil (cfg : Config) (s : Shot) : (observe cfg { s with dets := [] }).ball = none := by
  have hnone : findBalls cfg { s with dets := [] } = [] := by
    rw [findBalls, nms, if_neg (by simp)]
    exact cameraBoxes_eq cfg _ []
  rw [observe_bestBall, hnone]
  rfl

/-- The balls that are found, from what `NMS` leaves. -/
theorem findBalls_map (cfg : Config) {s : Shot} (hpos : ∀ d ∈ s.dets, 0 < d.score) :
    findBalls cfg s = (survivors cfg s).map fun d => { d with bbox := toCamera cfg s d.bbox } :=
  (findBalls_eq cfg hpos).trans (cameraBoxes_eq cfg s _)

section Dets

variable {cfg : Config} (hmW : 0 < cfg.modelW) (hmH : 0 < cfg.modelH) {s : Shot} (hw : 0 < s.cols)
  (hh : 0 < s.rows)

include hmW hmH hw hh

/-- For a list of detections: the ball is one of them, and none of the others is more than twice
and a quarter as large. -/
theorem followed_dets (hpos : ∀ d ∈ s.dets, 0 < d.score)
    (hin : ∀ d ∈ s.dets, Upright d.bbox ∧ LiesInPicture cfg s d.bbox) (hne : s.dets ≠ []) :
    ∃ e ∈ s.dets, (observe cfg s).ball = some (ballOf cfg s e.bbox) ∧
      ∀ d ∈ s.dets, 45 / 100 * boxArea d.bbox ≤ boxArea e.bbox := by
  have hmem : ∀ d ∈ survivors cfg s, d ∈ s.dets :=
    fun d hd => Detect.mem_of_mem_nms cfg.std hpos _ hd
  have hleft (d : Detection) (hd : d ∈ s.dets) : ∃ e ∈ survivors cfg s,
      45 / 100 * boxArea d.bbox ≤ boxArea e.bbox :=
    exists_survivor cfg.std hpos (by norm_num) (by norm_num) hd
      (mul_nonneg (hin d hd).1.1 (hin d hd).1.2)
  have hballs := findBalls_map cfg hpos
  have hcamera (d : Detection) (hd : d ∈ survivors cfg s) :
      boxArea (toCamera cfg s d.bbox) = boxArea d.bbox / modelScale cfg s ^ 2 :=
    area_toCamera hmW hmH hw hh (hin d (hmem d hd)).2
  have hscale : 0 < modelScale cfg s ^ 2 := pow_pos (modelScale_pos hmW hmH hw hh) 2
  obtain ⟨d0, hd0⟩ := List.exists_mem_of_ne_nil _ hne
  obtain ⟨e0, he0, -⟩ := hleft d0 hd0
  have hfound : findBalls cfg s ≠ [] := by
    rw [hballs]
    exact List.ne_nil_of_mem (List.mem_map_of_mem he0)
  obtain ⟨best, hbest⟩ := exists_bestBall hfound
  have hbest' := bestBall_mem hbest
  rw [hballs] at hbest'
  obtain ⟨e, he, rfl⟩ := List.mem_map.mp hbest'
  -- The largest box in the camera's picture is the largest one in the input of the model.
  have hmax (d : Detection) (hd : d ∈ survivors cfg s) : boxArea d.bbox ≤ boxArea e.bbox := by
    have hin' : { d with bbox := toCamera cfg s d.bbox } ∈ findBalls cfg s := by
      rw [hballs]
      exact List.mem_map.mpr ⟨d, hd, rfl⟩
    have hle := bestBall_max hbest hin'
    dsimp only at hle
    rwa [hcamera d hd, hcamera e he, div_le_div_iff_of_pos_right hscale] at hle
  have hball : (observe cfg s).ball = some (ballOf cfg s e.bbox) := by
    rw [observe_bestBall, hbest, ballOf, ← hcamera e he]
    rfl
  refine ⟨e, hmem e he, hball, fun d hd => ?_⟩
  obtain ⟨d', hd', hle⟩ := hleft d hd
  exact hle.trans (hmax d' hd')

end Dets

/-! ## From the output of the model -/

section Output

open TR.Proof.Detect
open TR.Spec (entry)

/-- The box of a column. -/
def columnBox (e : Nat → Nat → Nat → Rat) (cell : Nat × Nat) : Box :=
  ⟨e cell.1 0 cell.2, e cell.1 1 cell.2, e cell.1 2 cell.2, e cell.1 3 cell.2⟩

/-- The columns that score above one half. -/
def ballColumns (output : Tensor) (shape : Shape) : List (Nat × Nat) :=
  (List.range shape.batch ×ˢ List.range shape.numBoxes).filter
    fun cell => Exceeds (entry output shape) 1 (1 / 2) cell

/-- A detection is found in a column that scores above one half. -/
theorem found_column {e : Nat → Nat → Nat → Rat} {cell : Nat × Nat} {d : Detection}
    (h : findBox e 1 (1 / 2) cell = some d) :
    Exceeds e 1 (1 / 2) cell ∧ d.bbox = columnBox e cell ∧ 0 < d.score := by
  have hspec := findBox_decodes e 1 (show (0 : Rat) ≤ 1 / 2 by norm_num) cell
  split_ifs at hspec with hex
  · obtain ⟨d', hd', hdec⟩ := hspec
    rw [h, Option.some.injEq] at hd'
    subst hd'
    obtain ⟨c, -, hscore, hmax⟩ := hdec.best
    obtain ⟨c', hc', hlt⟩ := hex
    refine ⟨⟨c', hc', hlt⟩, hdec.bbox, ?_⟩
    have hle := hmax.le c' hc'
    rw [hscore]
    linarith
  · rw [h] at hspec
    cases hspec

/-- The detections of an output: the columns that score above one half. -/
def foundBoxes (output : Tensor) (shape : Shape) : List Detection :=
  (List.range shape.batch ×ˢ List.range shape.numBoxes).filterMap
    (findBox (entry output shape) 1 (1 / 2))

section Found

variable {output : Tensor} {shape : Shape}

theorem column_of_mem_foundBoxes {d : Detection} (hd : d ∈ foundBoxes output shape) :
    ∃ cell ∈ ballColumns output shape,
      d.bbox = columnBox (entry output shape) cell ∧ 0 < d.score := by
  obtain ⟨cell, hcell, hbox⟩ := List.mem_filterMap.mp hd
  obtain ⟨hex, hbox, hscore⟩ := found_column hbox
  exact ⟨cell, List.mem_filter.mpr ⟨hcell, decide_eq_true hex⟩, hbox, hscore⟩

theorem mem_foundBoxes_of_column {cell : Nat × Nat} (hcell : cell ∈ ballColumns output shape) :
    ∃ d ∈ foundBoxes output shape, d.bbox = columnBox (entry output shape) cell := by
  obtain ⟨hcell, hex⟩ := List.mem_filter.mp hcell
  have hspec := findBox_decodes (entry output shape) 1
    (show (0 : Rat) ≤ 1 / 2 by norm_num) cell
  rw [if_pos (of_decide_eq_true hex)] at hspec
  obtain ⟨d, hd, hdec⟩ := hspec
  exact ⟨d, List.mem_filterMap.mpr ⟨cell, hcell, hd⟩, hdec.bbox⟩

/-- The frame is the one of these detections. -/
theorem observeOutput_eq (cfg : Config) (s : Shot) (hch : 5 ≤ shape.channels)
    (hcount : output.data.count = shape.batch * shape.channels * shape.numBoxes) :
    observeOutput cfg s output shape =
      some (observe cfg { s with dets := foundBoxes output shape }) := by
  have hdecode := getDetections_eq hcount (show 4 + 1 ≤ shape.channels by omega) (1 / 2) []
  dsimp only at hdecode
  rw [observeOutput, hdecode]
  rfl

end Found

/-- From the output of the model to the ball of a frame: there is one when a column scores above
one half, it is the picture of such a column, and the box of no other such column is more than
twice and a quarter as large. -/
theorem followed_ball (cfg : Config) (hmW : 0 < cfg.modelW) (hmH : 0 < cfg.modelH) (s : Shot)
    (hw : 0 < s.cols) (hh : 0 < s.rows) (output : Tensor) (shape : Shape)
    (hch : 5 ≤ shape.channels)
    (hcount : output.data.count = shape.batch * shape.channels * shape.numBoxes)
    (hin : ∀ cell ∈ ballColumns output shape, Upright (columnBox (entry output shape) cell) ∧
      LiesInPicture cfg s (columnBox (entry output shape) cell)) :
    ∃ frame, observeOutput cfg s output shape = some frame ∧
      (ballColumns output shape = [] → frame.ball = none) ∧
      (ballColumns output shape ≠ [] → ∃ cell ∈ ballColumns output shape,
        frame.ball = some (ballOf cfg s (columnBox (entry output shape) cell)) ∧
        ∀ cell' ∈ ballColumns output shape,
          45 / 100 * boxArea (columnBox (entry output shape) cell') ≤
            boxArea (columnBox (entry output shape) cell)) := by
  refine ⟨_, observeOutput_eq cfg s hch hcount, fun hnone => ?_, fun hsome => ?_⟩
  · have hempty : foundBoxes output shape = [] := List.eq_nil_iff_forall_not_mem.mpr fun d hd => by
      obtain ⟨cell, hcell, -⟩ := column_of_mem_foundBoxes hd
      rw [hnone] at hcell
      exact List.not_mem_nil hcell
    rw [hempty]
    exact observe_nil cfg s
  · obtain ⟨cell0, hcell0⟩ := List.exists_mem_of_ne_nil _ hsome
    obtain ⟨d0, hd0, -⟩ := mem_foundBoxes_of_column hcell0
    obtain ⟨e, he, hball, hlargest⟩ := followed_dets (s := { s with dets := foundBoxes output shape })
      hmW hmH hw hh
      (fun d hd => by
        obtain ⟨-, -, -, hscore⟩ := column_of_mem_foundBoxes hd
        exact hscore)
      (fun d hd => by
        obtain ⟨cell, hcell, hbox, -⟩ := column_of_mem_foundBoxes hd
        rw [hbox]
        exact hin cell hcell)
      (List.ne_nil_of_mem hd0)
    obtain ⟨cell, hcell, hbox, -⟩ := column_of_mem_foundBoxes he
    refine ⟨cell, hcell, hbox ▸ hball, fun cell' hcell' => ?_⟩
    obtain ⟨d, hd, hbox'⟩ := mem_foundBoxes_of_column hcell'
    rw [← hbox, ← hbox']
    exact hlargest d hd

/-- A picture of 640 times 480, and two columns in the middle of it: a box of 40 times 40 pixels
and a better one of 28 times 40. -/
def oneBallTwice : Tensor :=
  ⟨.fp32 [320, 326, 320, 320, 40, 28, 40, 40, 6 / 10, 9 / 10], 1, 0⟩

theorem followed_ball_oneBallTwice :
    ∃ frame, observeOutput (uvcConfig 640 640) vgaShot oneBallTwice ⟨1, 5, 2⟩ = some frame ∧
      (ballColumns oneBallTwice ⟨1, 5, 2⟩ = [] → frame.ball = none) ∧
      (ballColumns oneBallTwice ⟨1, 5, 2⟩ ≠ [] → ∃ cell ∈ ballColumns oneBallTwice ⟨1, 5, 2⟩,
        frame.ball = some (ballOf (uvcConfig 640 640) vgaShot
          (columnBox (entry oneBallTwice ⟨1, 5, 2⟩) cell)) ∧
        ∀ cell' ∈ ballColumns oneBallTwice ⟨1, 5, 2⟩,
          45 / 100 * boxArea (columnBox (entry oneBallTwice ⟨1, 5, 2⟩) cell') ≤
            boxArea (columnBox (entry oneBallTwice ⟨1, 5, 2⟩) cell)) := by
  have hin : ∀ cell ∈ ballColumns oneBallTwice ⟨1, 5, 2⟩,
      Upright (columnBox (entry oneBallTwice ⟨1, 5, 2⟩) cell) ∧
        LiesInPicture (uvcConfig 640 640) vgaShot
          (columnBox (entry oneBallTwice ⟨1, 5, 2⟩) cell) := by
    simp only [LiesInPicture, uvcConfig, LiesBoth, Lies, Upright]
    decide +kernel
  exact followed_ball (uvcConfig 640 640) (by decide) (by decide) vgaShot (by decide) (by decide)
    oneBallTwice ⟨1, 5, 2⟩ (by decide) (by decide) hin

end Output

end TR.Proof.Perception
