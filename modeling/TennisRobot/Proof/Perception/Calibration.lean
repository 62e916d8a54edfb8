import TennisRobot.Proof.Perception.RoundTrip

/-!
# The calibration tool

The thresholds of the game are read off `test_yolo`, so both should report the
same boxes. The tool passes the camera's size to `correctYoloBoxes`, which then
undoes the letterbox, and undoes it once more. Edge by edge that is no harm in
two cases only: the edge is clamped, or undoing the letterbox does not move it
(`low_agrees`, `high_agrees`). `testYolo_eq_iff` collects the edges, and says
that all boxes agree for a camera of 640 times 640 alone.
-/

namespace TR.Proof.Perception

open TR.Impl.Detect TR.Impl.Perception

/-! ## An edge -/

/-- An edge `x` is clamped to zero, or undoing the letterbox does not move
it. -/
def LowAgrees (scale pad x : Rat) : Prop := x ≤ pad ∨ (1 - scale) * (x - pad) = scale * pad

/-- An edge `x` is clamped to `size`, and so is `size` itself; or undoing the
letterbox does not move it. -/
def HighAgrees (scale pad size x : Rat) : Prop :=
  if size * scale ≤ x - pad then pad ≤ (1 - scale) * size
  else (1 - scale) * (x - pad) = scale * pad

section Edge

variable {scale pad : Rat} (hs : 0 < scale)

include hs

/-- An edge that undoing the letterbox does not move. -/
theorem back_fixed {x : Rat} :
    ((x - pad) / scale - pad) / scale = (x - pad) / scale ↔
      (1 - scale) * (x - pad) = scale * pad := by
  rw [div_left_inj' hs.ne', sub_eq_iff_eq_add, div_eq_iff hs.ne', add_mul]
  constructor <;> intro h <;> linarith

omit hs in
/-- Only a number itself is clamped to a positive number. -/
theorem max_zero_eq_iff {a b : Rat} (ha : 0 < a) : max 0 b = a ↔ b = a := by
  refine ⟨fun h => ?_, fun h => by rw [h, max_eq_right ha.le]⟩
  rcases max_choice 0 b with h0 | h0
  · exact absurd (h0.symm.trans h) ha.ne
  · exact h0.symm.trans h

omit hs in
/-- Only a number itself is clamped to a number below the bound. -/
theorem min_eq_iff_of_lt {a b c : Rat} (ha : a < c) : min c b = a ↔ b = a := by
  refine ⟨fun h => ?_, fun h => by rw [h, min_eq_right ha.le]⟩
  rcases min_choice c b with hc | hc
  · exact absurd (hc.symm.trans h) ha.ne'
  · exact hc.symm.trans h

/-- Undoing the letterbox once or twice is the same for a near edge. -/
theorem low_agrees (hp : 0 ≤ pad) (x : Rat) :
    max 0 ((max 0 ((x - pad) / scale) - pad) / scale) = max 0 ((x - pad) / scale) ↔
      LowAgrees scale pad x := by
  rw [max_back hs hp, LowAgrees]
  by_cases hx : x ≤ pad
  · have hx' : (x - pad) / scale ≤ 0 :=
      div_nonpos_of_nonpos_of_nonneg (sub_nonpos.mpr hx) hs.le
    rw [max_eq_left hx', max_eq_left (div_nonpos_of_nonpos_of_nonneg (by linarith) hs.le)]
    simp [hx]
  · have hx' : 0 < (x - pad) / scale := div_pos (sub_pos.mpr (not_le.mp hx)) hs
    rw [max_eq_right hx'.le, max_zero_eq_iff hx', back_fixed hs, or_iff_right hx]

/-- Undoing the letterbox once or twice is the same for a far edge. -/
theorem high_agrees {size : Rat} (x : Rat) :
    min size ((min size ((x - pad) / scale) - pad) / scale) = min size ((x - pad) / scale) ↔
      HighAgrees scale pad size x := by
  rw [HighAgrees]
  split_ifs with hx
  · have hx' : size ≤ (x - pad) / scale := by rwa [le_div_iff₀ hs]
    rw [min_eq_left hx', min_eq_left_iff, le_div_iff₀ hs]
    constructor <;> intro h <;> linarith
  · have hx' : (x - pad) / scale < size := by rwa [div_lt_iff₀ hs, ← not_le]
    rw [min_eq_right hx'.le, min_eq_iff_of_lt hx', back_fixed hs]

end Edge

/-! ## A box -/

/-- The tool and the game agree on where a box is in a picture of `camW` times
`camH`. Where the picture fills the frame but for a pixel, the letterbox is
undone once by the one and not at all by the other. -/
def BoxAgrees (camW camH : Int) (b : Box) : Prop :=
  let lb := frameLetterbox camW camH
  if lb.scale = 1 ∧ lb.padX = 0 ∧ lb.padY = 0 then
    (b.right ≤ camW ∨ camW = 640) ∧ (b.bottom ≤ camH ∨ camH = 640)
  else
    (LowAgrees lb.scale lb.padX b.left ∧ HighAgrees lb.scale lb.padX camW b.right) ∧
      LowAgrees lb.scale lb.padY b.top ∧ HighAgrees lb.scale lb.padY camH b.bottom

/-- `testYoloBoxes`, box by box. -/
def toolBox (camW camH : Int) (b : Box) : Box :=
  undoCameraBox (frameLetterbox camW camH) camW camH
    ((frameLetterbox camW camH).undo camW camH b)

/-- `cameraBox` with a model of the frame's size. -/
def gameBox (camW camH : Int) (b : Box) : Box :=
  undoCameraBox (frameLetterbox camW camH) camW camH ((Letterbox.none 640 640).undo 640 640 b)

/-- Two clamps at sizes of which the first is no larger. -/
theorem min_eq_min_iff {c c' x : Rat} (hc : c ≤ c') : min c x = min c' x ↔ x ≤ c ∨ c = c' := by
  rcases le_total x c with hx | hx
  · simp [hx, hx.trans hc]
  · rw [min_eq_left hx]
    refine ⟨fun h => ?_, fun h => ?_⟩
    · rcases min_choice c' x with h' | h'
      · exact .inr (h.trans h')
      · exact .inl (h.trans h').ge
    · rcases h with h | rfl
      · obtain rfl := le_antisymm h hx
        rw [min_eq_right hc]
      · rw [min_eq_left hx]

theorem toolBox_eq_iff {camW camH : Int} (hw : 0 < camW) (hh : 0 < camH) (b : Box) :
    toolBox camW camH b = gameBox camW camH b ↔ BoxAgrees camW camH b := by
  obtain ⟨fx, fy⟩ : FitsBoth camW camH 640 640 (frameLetterbox camW camH) := by
    rw [← of_frame hw hh]
    exact fits_of hw hh (by decide) (by decide)
  have hpx := fx.cast_pad_nonneg
  have hpy := fy.cast_pad_nonneg
  rw [box_ext, BoxAgrees, toolBox, gameBox, undoCameraBox, undoCameraBox]
  by_cases hskip : (frameLetterbox camW camH).scale = 1 ∧ (frameLetterbox camW camH).padX = 0 ∧
    (frameLetterbox camW camH).padY = 0
  · have hcw := fx.le_out
    have hch := fy.le_out
    obtain ⟨hs, hx, hy⟩ := hskip
    rw [hs, mul_one] at hcw hch
    simp only [hs, hx, hy, ne_eq, not_true_eq_false, or_self, if_false, and_self, if_true,
      left_undo, right_undo, top_undo, bottom_undo, Letterbox.none, true_and, Int.cast_zero,
      sub_zero, div_one]
    rw [min_eq_min_iff hcw, min_eq_min_iff hch, Int.cast_inj, Int.cast_inj]
  · have hne : (frameLetterbox camW camH).scale ≠ 1 ∨ (frameLetterbox camW camH).padX ≠ 0 ∨
        (frameLetterbox camW camH).padY ≠ 0 := by tauto
    simp only [if_neg hskip, if_pos hne, left_undo, right_undo, top_undo, bottom_undo,
      Letterbox.none, Int.cast_zero, sub_zero, div_one]
    rw [max_back fx.scale_pos hpx b.left, max_back fx.scale_pos hpy b.top,
      min_back fx.scale_pos fx.le_sub_pad, min_back fx.scale_pos fy.le_sub_pad,
      low_agrees fx.scale_pos hpx, low_agrees fx.scale_pos hpy, high_agrees fx.scale_pos,
      high_agrees fx.scale_pos]

/-- For a square camera there is no letterbox. -/
theorem boxAgrees_square (b : Box) : BoxAgrees 640 640 b := by
  have h : frameLetterbox 640 640 = ⟨1, 640, 640, 0, 0⟩ := by
    simp [frameLetterbox, fitted]
  simp [BoxAgrees, h]

/-- If all boxes agree, the camera is square. -/
theorem square_of_boxAgrees {camW camH : Int} (hw : 0 < camW)
    (h : ∀ b, BoxAgrees camW camH b) : camW = 640 ∧ camH = 640 := by
  have hm : (0 : Rat) < (max camW camH : Int) := by exact_mod_cast lt_max_of_lt_left hw
  by_cases hskip : (frameLetterbox camW camH).scale = 1 ∧ (frameLetterbox camW camH).padX = 0 ∧
    (frameLetterbox camW camH).padY = 0
  · have hmax : max camW camH = 640 := by
      have hs := hskip.1
      rw [frameLetterbox, div_eq_one_iff_eq hm.ne'] at hs
      exact_mod_cast hs.symm
    -- An edge beyond the picture is clamped to the picture by the tool, to the frame by the game.
    have hbox := h (.ofEdges 0 0 641 641)
    simp only [BoxAgrees, if_pos hskip, right_ofEdges, bottom_ofEdges] at hbox
    have hW : ¬(641 : Rat) ≤ camW := by
      rw [not_le]; exact_mod_cast (by omega : camW < 641)
    have hH : ¬(641 : Rat) ≤ camH := by
      rw [not_le]; exact_mod_cast (by omega : camH < 641)
    tauto
  · -- No two edges inside the picture are left in place, unless all are.
    have hlow (x y : Rat) : LowAgrees (frameLetterbox camW camH).scale
        (frameLetterbox camW camH).padX x ∧
        LowAgrees (frameLetterbox camW camH).scale (frameLetterbox camW camH).padY y := by
      have hbox := h (.ofEdges x y 0 0)
      simp only [BoxAgrees, if_neg hskip, left_ofEdges, top_ofEdges] at hbox
      exact ⟨hbox.1.1, hbox.2.1⟩
    have hone {scale pad : Rat} (hx : ∀ x, LowAgrees scale pad x) : scale = 1 ∧ pad = 0 := by
      have h1 := (hx (pad + 1)).resolve_left (by linarith)
      have h2 := (hx (pad + 2)).resolve_left (by linarith)
      have hs : scale = 1 := by linarith
      rw [hs] at h1
      exact ⟨hs, by linarith⟩
    obtain ⟨hs, hx⟩ := hone fun x => (hlow x 0).1
    obtain ⟨-, hy⟩ := hone fun y => (hlow 0 y).2
    exact absurd ⟨hs, by exact_mod_cast hx, by exact_mod_cast hy⟩ hskip

/-! ## The programs -/

theorem testYoloLetterbox_eq (w h : Int) : testYoloLetterbox w h = uvcGrabBgr w h := rfl

section Programs

variable {cfg : Config} (hmW : cfg.modelW = 640) (hmH : cfg.modelH = 640) {s : Shot}
  (hw : 0 < s.cols) (hh : 0 < s.rows)

include hmW hmH hw hh

theorem testYoloBoxes_eq_map (dets : List Detection) :
    testYoloBoxes cfg s dets dets.length =
      dets.map fun d => { d with bbox := toolBox s.cols s.rows d.bbox } := by
  rw [testYoloBoxes, undoCamera_length, testYoloLetterbox_eq, uvcGrabBgr_eq, correctYoloBoxes,
    mapBoxes_length, List.map_map, hmW, hmH, of_frame hw hh]
  rw [show FRAME_WIDTH = 640 from rfl, show FRAME_HEIGHT = 640 from rfl, of_frame hw hh]
  rfl

theorem cameraBoxes_eq_map (hc : cfg.build = .uvc) (dets : List Detection) :
    cameraBoxes cfg s dets dets.length =
      dets.map fun d => { d with bbox := gameBox s.cols s.rows d.bbox } := by
  have hcam (b : Box) : cameraBox cfg s b = gameBox s.cols s.rows b := by
    rw [cameraBox, gameBox, uvcGrabBgr_eq, hmW, hmH, ← of_frame hw hh,
      show FRAME_WIDTH = 640 from rfl, show FRAME_HEIGHT = 640 from rfl,
      of_self (by decide) (by decide)]
  simp only [cameraBoxes_uvc hc, hcam]

/-- The tool and the game report the same boxes exactly where each box
agrees. -/
theorem testYoloBoxes_eq (hc : cfg.build = .uvc) (dets : List Detection) :
    testYoloBoxes cfg s dets dets.length = cameraBoxes cfg s dets dets.length ↔
      ∀ d ∈ dets, BoxAgrees s.cols s.rows d.bbox := by
  rw [testYoloBoxes_eq_map hmW hmH hw hh, cameraBoxes_eq_map hmW hmH hw hh hc, List.map_inj_left]
  refine forall₂_congr fun d _ => ?_
  rw [← toolBox_eq_iff hw hh, Detection.mk.injEq]
  simp

end Programs

section Scores

variable (cfg : Config) {s : Shot} (hpos : ∀ d ∈ s.dets, 0 < d.score)

include hpos

theorem testYolo_eq : testYolo cfg s =
    testYoloBoxes cfg s (nms cfg.std s.dets s.dets.length (45 / 100)).1
      (nms cfg.std s.dets s.dets.length (45 / 100)).1.length := by
  simp only [testYolo, Detect.nms_snd cfg.std hpos, Int.toNat_natCast]

theorem findBalls_eq : findBalls cfg s =
    cameraBoxes cfg s (nms cfg.std s.dets s.dets.length (45 / 100)).1
      (nms cfg.std s.dets s.dets.length (45 / 100)).1.length := by
  simp only [findBalls, Detect.nms_snd cfg.std hpos, Int.toNat_natCast]

end Scores

/-- A detection on its own survives `NMS`. -/
theorem nms_singleton (std : StdSort) {d : Detection} (hd : 0 < d.score) (thresh : Rat) :
    (nms std [d] [d].length thresh).1 = [d] := by
  have hsort : std.sort [d] = [d] := List.perm_singleton.mp (std.perm [d])
  rw [Detect.nms_fst std (by simpa using hd), hsort, greedy_cons, List.filter_nil, greedy_nil]

/-- The boxes that the tool and the game report of one picture are the same
exactly where the edges say so, and all boxes are the same for a camera of 640
times 640 alone. -/
theorem testYolo_eq_iff (cfg : Config) (hc : cfg.build = .uvc) (hmW : cfg.modelW = 640)
    (hmH : cfg.modelH = 640) {camW camH : Int} (hw : 0 < camW) (hh : 0 < camH) :
    (∀ s : Shot, s.cols = camW → s.rows = camH → ∀ dets,
      testYoloBoxes cfg s dets dets.length = cameraBoxes cfg s dets dets.length ↔
        ∀ d ∈ dets, BoxAgrees camW camH d.bbox) ∧
    ((∀ s : Shot, s.cols = camW → s.rows = camH → (∀ d ∈ s.dets, 0 < d.score) →
      testYolo cfg s = findBalls cfg s) ↔ camW = 640 ∧ camH = 640) := by
  have hboxes (s : Shot) (hsw : s.cols = camW) (hsh : s.rows = camH) (dets : List Detection) :
      testYoloBoxes cfg s dets dets.length = cameraBoxes cfg s dets dets.length ↔
        ∀ d ∈ dets, BoxAgrees camW camH d.bbox := by
    subst hsw hsh
    exact testYoloBoxes_eq hmW hmH hw hh hc dets
  refine ⟨hboxes, fun h => square_of_boxAgrees hw fun b => ?_, fun ⟨hcw, hch⟩ s hsw hsh hpos => ?_⟩
  · have hpos : ∀ d ∈ [(⟨b, 0, 1, 0⟩ : Detection)], 0 < d.score := by simp
    have heq := h ⟨camW, camH, [], [⟨b, 0, 1, 0⟩]⟩ rfl rfl hpos
    rw [testYolo_eq cfg hpos, findBalls_eq cfg hpos, hboxes _ rfl rfl,
      nms_singleton _ one_pos] at heq
    exact heq _ List.mem_cons_self
  · rw [testYolo_eq cfg hpos, findBalls_eq cfg hpos, hboxes s hsw hsh, hcw, hch]
    exact fun d _ => boxAgrees_square d.bbox

theorem testYolo_eq_iff_vga :
    (∀ s : Shot, s.cols = 640 → s.rows = 480 → ∀ dets,
      testYoloBoxes (uvcConfig 640 640) s dets dets.length =
          cameraBoxes (uvcConfig 640 640) s dets dets.length ↔
        ∀ d ∈ dets, BoxAgrees 640 480 d.bbox) ∧
    ((∀ s : Shot, s.cols = 640 → s.rows = 480 → (∀ d ∈ s.dets, 0 < d.score) →
      testYolo (uvcConfig 640 640) s = findBalls (uvcConfig 640 640) s) ↔
        (640 : Int) = 640 ∧ (480 : Int) = 640) :=
  testYolo_eq_iff (uvcConfig 640 640) rfl rfl rfl (by decide) (by decide)

/-- A ball in the middle of a picture of 640 times 480. -/
def vgaBallShot : Shot := ⟨640, 480, [], [⟨⟨320, 320, 64, 64⟩, 0, 9 / 10, 0⟩]⟩

theorem testYolo_ne_vga :
    testYolo (uvcConfig 640 640) vgaBallShot ≠ findBalls (uvcConfig 640 640) vgaBallShot := by
  decide +kernel

end TR.Proof.Perception
