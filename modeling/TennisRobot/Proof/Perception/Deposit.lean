import TennisRobot.Proof.Perception.Letterbox

/-!
# The bucket in front of the robot

A bucket that fills the camera's picture is a red rectangle of the picture's
shape in a square frame, and `detect_bucket_bgr` divides its area by that of the
frame. `deposit_iff` says for which cameras the robot lets the ball go there:
those whose sides differ by less than a tenth or so. With the camera's own 640 times
480 it pushes on (`no_deposit_vga`).
-/

namespace TR.Proof.Perception

open TR.Impl.Detect TR.Impl.Perception TR.Impl.Game

/-- The contour of a filled rectangle of pixels: its corners are the centres of
pixels. -/
def filledRect (r : Rect) : Contour := ⟨((r.width - 1) * (r.height - 1) : Int), r⟩

/-- A picture of the UVC camera that is red everywhere. -/
def redShot (camW camH : Int) (dets : List Detection) : Shot :=
  let lb := uvcGrabBgr camW camH
  ⟨camW, camH, [filledRect ⟨lb.padX, lb.padY, lb.nw, lb.nh⟩], dets⟩

/-- The one contour of a red picture is the largest, unless it is a line. -/
theorem detectBucketBgr_filledRect {cols rows minArea : Int} (r : Rect) (hmin : 0 < minArea)
    (hsize : 0 < cols * rows) {ratio : Rat} (hr : minArea ≤ ratio * (cols * rows : Int)) :
    (∃ br, detectBucketBgr cols rows [filledRect r] minArea = some br ∧ ratio ≤ br.areaRatio) ↔
      ratio * (cols * rows : Int) ≤ ((r.width - 1) * (r.height - 1) : Int) := by
  have hs : (0 : Rat) < (cols * rows : Int) := by exact_mod_cast hsize
  have hm : (0 : Rat) < minArea := by exact_mod_cast hmin
  have hbest : bestContour [filledRect r] =
      if (filledRect r).area > 0 then (some (filledRect r), (filledRect r).area) else (none, 0) :=
    rfl
  rw [detectBucketBgr, hbest]
  by_cases h0 : (filledRect r).area > 0
  · rw [if_pos h0]
    by_cases ha : (filledRect r).area < minArea
    · simp only [if_pos ha]
      refine ⟨fun ⟨_, h, _⟩ => (by cases h), fun h => ?_⟩
      exact absurd ha (not_lt.mpr (hr.trans h))
    · simp only [if_neg ha, Option.some.injEq, exists_eq_left', le_div_iff₀ hs]
      rfl
  · rw [if_neg h0]
    refine ⟨fun ⟨_, h, _⟩ => (by cases h), fun h => absurd ?_ h0⟩
    exact hm.trans_le (hr.trans h)

/-- `APPROACH_BUCKET` is left for `DEPOSIT` by a bucket that is near enough. -/
theorem loopBody_deposit_iff {g : Int} {s : LoopState} (hs : s.gameState = .approachBucket)
    (f : Frame) :
    (loopBody g s (some f)).1.gameState = .deposit ↔
      ∃ br, f.bucket = some br ∧ BUCKET_AREA_DEPOSIT ≤ br.areaRatio := by
  simp only [loopBody, hs, approachBucket]
  cases f.bucket with
  | none => simp only; split_ifs <;> simp
  | some br => simp only [Option.some.injEq, exists_eq_left']; split_ifs with h <;> simp [h]

/-- The size of a scaled picture: 640 pixels the one way. -/
theorem area_fitted {w h : Int} (hw : 0 < w) (hh : 0 < h) :
    (fitted (max w h) w - 1) * (fitted (max w h) h - 1) =
      639 * (640 * min w h / max w h - 1) := by
  have hself {n : Int} (hn : 0 < n) : fitted n n = 640 := Int.mul_ediv_cancel _ hn.ne'
  rcases le_total w h with hle | hle
  · rw [max_eq_right hle, min_eq_left hle, hself hh, fitted, mul_comm]
    rfl
  · rw [max_eq_left hle, min_eq_right hle, hself hw, fitted]
    rfl

/-- In the UVC build, a picture that is red everywhere ends the approach to the
bucket exactly for cameras whose shorter side is 578 / 640 of the longer one or
more. -/
theorem deposit_iff (cfg : Config) (hc : cfg.build = .uvc) (g : Int) (s : LoopState)
    (hs : s.gameState = .approachBucket) {camW camH : Int} (hw : 0 < camW) (hh : 0 < camH)
    (dets : List Detection) :
    (loopBody g s (some (observe cfg (redShot camW camH dets)))).1.gameState = .deposit ↔
      578 * max camW camH ≤ 640 * min camW camH := by
  have hm : 0 < max camW camH := lt_max_of_lt_left hw
  have hb : (observe cfg (redShot camW camH dets)).bucket =
      detectBucketBgr FRAME_WIDTH FRAME_HEIGHT (redShot camW camH dets).contours
        BUCKET_MIN_AREA := by
    simp only [observe, frameSize, hc]
  rw [loopBody_deposit_iff hs, hb]
  refine (detectBucketBgr_filledRect _ (by decide) (by decide) ?_).trans ?_
  · norm_num [BUCKET_MIN_AREA, BUCKET_AREA_DEPOSIT, FRAME_WIDTH, FRAME_HEIGHT]
  · rw [uvcGrabBgr_eq, FRAME_WIDTH, FRAME_HEIGHT, of_frame hw hh]
    simp only [frameLetterbox, area_fitted hw hh]
    have hq : BUCKET_AREA_DEPOSIT * ((640 * 640 : Int) : Rat) = (368640 : Int) := by
      norm_num [BUCKET_AREA_DEPOSIT]
    rw [hq, Int.cast_le, ← Int.le_ediv_iff_mul_le hm]
    omega

/-- On the way to the bucket. -/
def approaching : LoopState := { gameState := .approachBucket }

theorem deposit_square :
    (loopBody 120 approaching (some (observe (uvcConfig 640 640) (redShot 640 640 [])))).1.gameState =
      .deposit :=
  (deposit_iff (uvcConfig 640 640) rfl 120 approaching rfl (by decide) (by decide) []).mpr (by decide)

theorem no_deposit_vga :
    2 ≤ (uvcGrabBgr 640 480).nw ∧ 2 ≤ (uvcGrabBgr 640 480).nh ∧
      (loopBody 120 approaching (some (observe (uvcConfig 640 640) (redShot 640 480 [])))).1.gameState =
        .approachBucket := by
  decide +kernel

end TR.Proof.Perception
