import TennisRobot.Proof.Perception.Letterbox

/-!
# A ball's way into the model and back

A box of the camera's picture is drawn into the frame and then into the input
of the model, and `cameraBoxes` takes it back. On one axis, going in loses less
than a pixel of the frame, since the scaled side is cut to whole pixels, and
going back divides the loss by the scale (`Fits.back`). The clamps do no harm to
a box that lies in the picture (`Short.max`, `Short.min`). Over both letterboxes
this is `cameraBoxes_near`.
-/

namespace TR.Proof.Perception

open TR.Impl.Detect TR.Impl.Perception

/-! ## What a coordinate loses -/

/-- `x'` is `x` or less, by `e` at most. -/
structure Short (e x x' : Rat) : Prop where
  lower : x - e ≤ x'
  upper : x' ≤ x

section Short

variable {e x x' : Rat}

theorem Short.max (h : Short e x x') (hx : 0 ≤ x) : Short e x (max 0 x') :=
  ⟨h.lower.trans (le_max_right ..), max_le hx h.upper⟩

theorem Short.min {c : Rat} (h : Short e x x') (hx : x ≤ c) : Short e x (min c x') := by
  rw [min_eq_right (h.upper.trans hx)]
  exact h

theorem Short.abs_le (h : Short e x x') : |x' - x| ≤ e := by
  rw [abs_sub_comm, abs_of_nonneg (sub_nonneg.mpr h.upper)]
  linarith [h.lower]

end Short

section Fits

variable {src out n pad : Int} {scale x : Rat} (h : Fits src out scale n pad)

include h

/-- `x` pixels of a scaled side are no more than `x` times the scale. -/
theorem Fits.scaled_le (h0 : 0 ≤ x) : x * n / src ≤ x * scale := by
  rw [div_le_iff₀ h.cast_src_pos]
  calc x * n ≤ x * (src * scale) := mul_le_mul_of_nonneg_left h.n_le h0
    _ = x * scale * src := by ring

/-- They are less by one at most. -/
theorem Fits.le_scaled (h0 : 0 ≤ x) (hx : x ≤ src) : x * scale - 1 ≤ x * n / src := by
  rw [le_div_iff₀ h.cast_src_pos]
  have hn : x * (src * scale) ≤ x * (n + 1) := mul_le_mul_of_nonneg_left h.lt_n.le h0
  calc (x * scale - 1) * src = x * (src * scale) - src := by ring
    _ ≤ x * n + x - src := by linarith
    _ ≤ x * n := by linarith

theorem Fits.place_nonneg (h0 : 0 ≤ x) : 0 ≤ x * n / src + pad := by
  have hx : 0 ≤ x * n / src := div_nonneg (mul_nonneg h0 h.cast_n_nonneg) h.cast_src_pos.le
  exact add_nonneg hx h.cast_pad_nonneg

theorem Fits.place_le (hx : x ≤ src) : x * n / src + pad ≤ out := by
  have hxn : x * n / src ≤ n := by
    rw [div_le_iff₀ h.cast_src_pos, mul_comm (n : Rat)]
    exact mul_le_mul_of_nonneg_right hx h.cast_n_nonneg
  have hout : n + pad ≤ out := by
    have := h.pad_le
    have := h.pad_nonneg
    omega
  have hout' : (n : Rat) + pad ≤ out := by exact_mod_cast hout
  linarith

theorem Fits.le_sub_pad : src * scale ≤ out - pad := by
  rcases h.pad_nonneg.eq_or_lt with hp | hp
  · rw [← hp, Int.cast_zero, sub_zero]
    exact h.le_out
  · have hn : n + 1 ≤ out - pad := by
      have := h.pad_le
      omega
    exact h.lt_n.le.trans (by exact_mod_cast hn)

/-- The way back from a coordinate that has lost `d`. -/
theorem Fits.back {d y : Rat} (h0 : 0 ≤ x) (hx : x ≤ src) (hy : Short d (x * n / src + pad) y) :
    Short ((1 + d) / scale) x ((y - pad) / scale) := by
  have hs := h.scale_pos
  refine ⟨?_, ?_⟩
  · rw [le_div_iff₀ hs, sub_mul, div_mul_cancel₀ _ hs.ne']
    linarith [hy.lower, h.le_scaled h0 hx]
  · rw [div_le_iff₀ hs]
    linarith [hy.upper, h.scaled_le h0]

end Fits

/-! ## Boxes -/

/-- `b` lies in a picture of `w` times `h`. -/
structure Inside (w h : Int) (b : Box) : Prop where
  left : 0 ≤ b.left
  leftRight : b.left ≤ b.right
  right : b.right ≤ w
  top : 0 ≤ b.top
  topBottom : b.top ≤ b.bottom
  bottom : b.bottom ≤ h

/-- Where a box of a picture of `w` times `h` is drawn. -/
def place (lb : Letterbox) (w h : Int) (b : Box) : Box :=
  .ofEdges (b.left * lb.nw / w + lb.padX) (b.top * lb.nh / h + lb.padY)
    (b.right * lb.nw / w + lb.padX) (b.bottom * lb.nh / h + lb.padY)

/-- Each edge of `b'` is short of that of `b`. -/
structure ShortBox (e : Rat) (b b' : Box) : Prop where
  left : Short e b.left b'.left
  right : Short e b.right b'.right
  top : Short e b.top b'.top
  bottom : Short e b.bottom b'.bottom

theorem ShortBox.refl (b : Box) : ShortBox 0 b b := by
  have h (x : Rat) : Short 0 x x := ⟨(sub_zero x).le, le_rfl⟩
  exact ⟨h _, h _, h _, h _⟩

section Boxes

variable {w h outW outH : Int} {lb : Letterbox} (fits : FitsBoth w h outW outH lb) {b : Box}
  (hb : Inside w h b)

include fits hb

theorem inside_place : Inside outW outH (place lb w h b) := by
  have hr := hb.left.trans hb.leftRight
  have hm := hb.top.trans hb.topBottom
  have hw := fits.x.cast_src_pos
  have hh := fits.y.cast_src_pos
  have hnw := fits.x.cast_n_nonneg
  have hnh := fits.y.cast_n_nonneg
  refine ⟨?_, ?_, ?_, ?_, ?_, ?_⟩ <;>
    simp only [place, left_ofEdges, right_ofEdges, top_ofEdges, bottom_ofEdges]
  · exact fits.x.place_nonneg hb.left
  · gcongr; exact hb.leftRight
  · exact fits.x.place_le hb.right
  · exact fits.y.place_nonneg hb.top
  · gcongr; exact hb.topBottom
  · exact fits.y.place_le hb.bottom

variable {d : Rat} {b' : Box} (hd : ShortBox d (place lb w h b) b')

include hd

/-- The four edges before the clamps. -/
theorem back_edges :
    Short ((1 + d) / lb.scale) b.left ((b'.left - lb.padX) / lb.scale) ∧
      Short ((1 + d) / lb.scale) b.right ((b'.right - lb.padX) / lb.scale) ∧
      Short ((1 + d) / lb.scale) b.top ((b'.top - lb.padY) / lb.scale) ∧
      Short ((1 + d) / lb.scale) b.bottom ((b'.bottom - lb.padY) / lb.scale) := by
  obtain ⟨hl, hr, ht, hm⟩ := hd
  simp only [place, left_ofEdges, right_ofEdges, top_ofEdges, bottom_ofEdges] at hl hr ht hm
  refine ⟨?_, ?_, ?_, ?_⟩
  · exact fits.x.back hb.left (hb.leftRight.trans hb.right) hl
  · exact fits.x.back (hb.left.trans hb.leftRight) hb.right hr
  · exact fits.y.back hb.top (hb.topBottom.trans hb.bottom) ht
  · exact fits.y.back (hb.top.trans hb.topBottom) hb.bottom hm

theorem short_undo : ShortBox ((1 + d) / lb.scale) b (lb.undo w h b') := by
  obtain ⟨hl, hr, ht, hm⟩ := back_edges fits hb hd
  refine ⟨?_, ?_, ?_, ?_⟩
  · rw [left_undo]; exact hl.max hb.left
  · rw [right_undo]; exact hr.min hb.right
  · rw [top_undo]; exact ht.max hb.top
  · rw [bottom_undo]; exact hm.min hb.bottom

/-- Where the letterbox changes nothing, `undoCamera` leaves a box alone. -/
theorem short_skip (hs : lb.scale = 1) (hx : lb.padX = 0) (hy : lb.padY = 0) :
    ShortBox ((1 + d) / lb.scale) b b' := by
  obtain ⟨hl, hr, ht, hm⟩ := back_edges fits hb hd
  simp only [hs, hx, hy, Int.cast_zero, sub_zero, div_one] at hl hr ht hm ⊢
  exact ⟨hl, hr, ht, hm⟩

end Boxes

/-! ## The pipeline -/

@[simp] theorem mapBoxes_length (f : Box → Box) (dets : List Detection) :
    mapBoxes f dets dets.length = dets.map fun d => { d with bbox := f d.bbox } := by
  simp [mapBoxes]

/-- `undoCamera`, box by box. -/
def undoCameraBox (lb : Letterbox) (w h : Int) (b : Box) : Box :=
  if lb.scale ≠ 1 ∨ lb.padX ≠ 0 ∨ lb.padY ≠ 0 then lb.undo w h b else b

theorem undoCamera_length (lb : Letterbox) (w h : Int) (dets : List Detection) :
    undoCamera lb w h dets dets.length =
      dets.map fun d => { d with bbox := undoCameraBox lb w h d.bbox } := by
  rw [undoCamera]
  split_ifs with hc
  · simp [undoCameraBox, hc]
  · simp [undoCameraBox, hc]

/-- `cameraBoxes` in the UVC build, box by box. -/
def cameraBox (cfg : Config) (s : Shot) (b : Box) : Box :=
  undoCameraBox (uvcGrabBgr s.cols s.rows) s.cols s.rows
    ((Letterbox.of FRAME_WIDTH FRAME_HEIGHT cfg.modelW cfg.modelH).undo FRAME_WIDTH FRAME_HEIGHT b)

theorem cameraBoxes_uvc {cfg : Config} (hc : cfg.build = .uvc) (s : Shot) (dets : List Detection) :
    cameraBoxes cfg s dets dets.length =
      dets.map fun d => { d with bbox := cameraBox cfg s d.bbox } := by
  have hl : (correctYoloBoxes dets dets.length FRAME_HEIGHT FRAME_WIDTH cfg.modelH cfg.modelW).length
      = dets.length := by simp [correctYoloBoxes]
  simp only [cameraBoxes, frameSize, hc]
  conv_lhs => arg 5; rw [← hl]
  rw [undoCamera_length]
  simp [correctYoloBoxes, cameraBox]

/-- Where the model sees a box of the camera's picture. -/
def modelBox (cfg : Config) (s : Shot) (b : Box) : Box :=
  place (modelLetterbox FRAME_WIDTH FRAME_HEIGHT cfg.modelW cfg.modelH) FRAME_WIDTH FRAME_HEIGHT
    (place (uvcGrabBgr s.cols s.rows) s.cols s.rows b)

/-- The edges of `b'` are within `e` of those of `b`. -/
def Near (e : Rat) (b b' : Box) : Prop :=
  |b'.left - b.left| ≤ e ∧ |b'.right - b.right| ≤ e ∧ |b'.top - b.top| ≤ e ∧
    |b'.bottom - b.bottom| ≤ e

theorem ShortBox.near {e : Rat} {b b' : Box} (h : ShortBox e b b') : Near e b b' :=
  ⟨h.left.abs_le, h.right.abs_le, h.top.abs_le, h.bottom.abs_le⟩

/-- Through both letterboxes and back, an edge of a box moves by no more than a
pixel of the frame and one of the model's input, in pixels of the camera. -/
theorem cameraBoxes_near (cfg : Config) (hc : cfg.build = .uvc) (hmW : 0 < cfg.modelW)
    (hmH : 0 < cfg.modelH) (s : Shot) (hw : 0 < s.cols) (hh : 0 < s.rows) (dets : List Detection)
    (hin : ∀ d ∈ dets, Inside s.cols s.rows d.bbox) :
    List.Forall₂
      (fun d d' => Near ((1 + 1 / (modelLetterbox FRAME_WIDTH FRAME_HEIGHT cfg.modelW
        cfg.modelH).scale) / (uvcGrabBgr s.cols s.rows).scale) d.bbox d'.bbox)
      dets (cameraBoxes cfg s (dets.map fun d => { d with bbox := modelBox cfg s d.bbox })
        dets.length) := by
  have hl : dets.length = (dets.map fun d => { d with bbox := modelBox cfg s d.bbox }).length :=
    (List.length_map _).symm
  rw [hl, cameraBoxes_uvc hc, List.map_map, List.forall₂_map_right_iff, List.forall₂_same]
  intro d hd
  have fits1 := fits_uvcGrabBgr hw hh
  have fits2 := fits_of (w := FRAME_WIDTH) (h := FRAME_HEIGHT) (by decide) (by decide) hmW hmH
  have hb := hin d hd
  have hm := short_undo fits2 (inside_place fits1 hb) (ShortBox.refl _)
  rw [add_zero] at hm
  rw [modelLetterbox_eq (by decide) (by decide)]
  apply ShortBox.near
  simp only [Function.comp_apply, cameraBox, modelBox, undoCameraBox,
    modelLetterbox_eq (w := FRAME_WIDTH) (h := FRAME_HEIGHT) (by decide) (by decide)]
  split_ifs with hne
  · exact short_undo fits1 hb hm
  · push Not at hne
    exact short_skip fits1 hb hm hne.1 hne.2.1 hne.2.2

/-- A picture of 640 times 480, and a ball in it. -/
def vgaShot : Shot := ⟨640, 480, [], []⟩
def vgaBall : Detection := ⟨⟨100, 80, 31, 33⟩, 0, 9 / 10, 0⟩

theorem cameraBoxes_near_vgaBall :
    List.Forall₂
      (fun d d' => Near ((1 + 1 / (modelLetterbox FRAME_WIDTH FRAME_HEIGHT 320 320).scale) /
        (uvcGrabBgr 640 480).scale) d.bbox d'.bbox)
      [vgaBall] (cameraBoxes (uvcConfig 320 320) vgaShot
        [{ vgaBall with bbox := modelBox (uvcConfig 320 320) vgaShot vgaBall.bbox }] 1) :=
  cameraBoxes_near (uvcConfig 320 320) rfl (by decide) (by decide) vgaShot (by decide) (by decide) [vgaBall]
    fun d hd => by
      rw [List.mem_singleton] at hd
      rw [hd]
      refine ⟨?_, ?_, ?_, ?_, ?_, ?_⟩ <;>
        norm_num [vgaBall, vgaShot, Box.left, Box.right, Box.top, Box.bottom]

end TR.Proof.Perception
