import TennisRobot.Impl.Perception
import TennisRobot.Proof.Detect.Nms

/-!
# Letterboxes

One axis of a letterbox is a side `src` of a picture that is scaled, cut to
whole pixels and put into the middle of a side `out` (`Fits`), and a letterbox
is two of them (`fits_of`). The cases that skip the letterbox do not differ
from the formulas (`uvcGrabBgr_eq`, `modelLetterbox_eq`). `Letterbox.undo`
takes each edge of a box back on its own (`left_undo` and so on), a box is its
edges (`box_ext`), and of two letterboxes undone one after the other only the
last one clamps (`max_back`, `min_back`). With `float`s that are rounded the sizes are
off by a pixel at most (`letterboxSide_near`).
-/

namespace TR.Proof.Perception

open TR.Impl.Detect TR.Impl.Perception

/-- The UVC build, for a size of the model. -/
def uvcConfig (modelW modelH : Int) : Config := ⟨.uvc, modelW, modelH, Detect.mergeByScore⟩

/-! ## Edges -/

section Edges

variable (x1 y1 x2 y2 : Rat)

@[simp] theorem left_ofEdges : (Box.ofEdges x1 y1 x2 y2).left = x1 := by
  simp only [Box.left, Box.ofEdges]; ring

@[simp] theorem top_ofEdges : (Box.ofEdges x1 y1 x2 y2).top = y1 := by
  simp only [Box.top, Box.ofEdges]; ring

@[simp] theorem right_ofEdges : (Box.ofEdges x1 y1 x2 y2).right = x2 := by
  simp only [Box.right, Box.ofEdges]; ring

@[simp] theorem bottom_ofEdges : (Box.ofEdges x1 y1 x2 y2).bottom = y2 := by
  simp only [Box.bottom, Box.ofEdges]; ring

theorem ofEdges_edges (b : Box) : Box.ofEdges b.left b.top b.right b.bottom = b := by
  cases b
  simp only [Box.ofEdges, Box.left, Box.top, Box.right, Box.bottom, Box.mk.injEq]
  refine ⟨?_, ?_, ?_, ?_⟩ <;> ring

/-- A box is its edges. -/
theorem box_ext {b b' : Box} :
    b = b' ↔ (b.left = b'.left ∧ b.right = b'.right) ∧ b.top = b'.top ∧ b.bottom = b'.bottom := by
  refine ⟨fun h => by simp [h], fun ⟨⟨hl, hr⟩, ht, hb⟩ => ?_⟩
  rw [← ofEdges_edges b, ← ofEdges_edges b', hl, hr, ht, hb]

end Edges

section Undo

variable (lb : Letterbox) (w h : Int) (b : Box)

@[simp] theorem left_undo : (lb.undo w h b).left = max 0 ((b.left - lb.padX) / lb.scale) :=
  left_ofEdges ..

@[simp] theorem top_undo : (lb.undo w h b).top = max 0 ((b.top - lb.padY) / lb.scale) :=
  top_ofEdges ..

@[simp] theorem right_undo :
    (lb.undo w h b).right = min (w : Rat) ((b.right - lb.padX) / lb.scale) :=
  right_ofEdges ..

@[simp] theorem bottom_undo :
    (lb.undo w h b).bottom = min (h : Rat) ((b.bottom - lb.padY) / lb.scale) :=
  bottom_ofEdges ..

end Undo

/-! ## Two clamps -/

section Clamps

variable {scale pad : Rat} (hs : 0 < scale)

include hs

/-- A clamp at zero can be left out when another one follows. -/
theorem max_back (hp : 0 ≤ pad) (x : Rat) :
    max 0 ((max 0 x - pad) / scale) = max 0 ((x - pad) / scale) := by
  rcases le_total x 0 with hx | hx
  · rw [max_eq_left hx, max_eq_left, max_eq_left]
    · exact div_nonpos_of_nonpos_of_nonneg (by linarith) hs.le
    · exact div_nonpos_of_nonpos_of_nonneg (by linarith) hs.le
  · rw [max_eq_right hx]

/-- A clamp at a size that goes back beyond the next one can be left out. -/
theorem min_back {size size' : Rat} (hp : size * scale ≤ size' - pad) (x : Rat) :
    min size ((min size' x - pad) / scale) = min size ((x - pad) / scale) := by
  rcases le_total size' x with hx | hx
  · rw [min_eq_left hx, min_eq_left, min_eq_left]
    · rw [le_div_iff₀ hs]; linarith
    · rwa [le_div_iff₀ hs]
  · rw [min_eq_right hx]

end Clamps

/-! ## An axis -/

/-- A side `src`, scaled to `n` whole pixels, lies after `pad` pixels in a side
`out`. -/
structure Fits (src out : Int) (scale : Rat) (n pad : Int) : Prop where
  src_pos : 0 < src
  scale_pos : 0 < scale
  le_out : src * scale ≤ out
  n_nonneg : 0 ≤ n
  n_le : n ≤ src * scale
  lt_n : src * scale < n + 1
  pad_nonneg : 0 ≤ pad
  pad_le : 2 * pad ≤ out - n
  lt_pad : out - n < 2 * pad + 2

section Fits

variable {src out n pad : Int} {scale : Rat}

/-- The positive ones of its numbers, as rationals. -/
theorem Fits.cast_src_pos (h : Fits src out scale n pad) : (0 : Rat) < src := by
  exact_mod_cast h.src_pos

theorem Fits.cast_n_nonneg (h : Fits src out scale n pad) : (0 : Rat) ≤ n := by
  exact_mod_cast h.n_nonneg

theorem Fits.cast_pad_nonneg (h : Fits src out scale n pad) : (0 : Rat) ≤ pad := by
  exact_mod_cast h.pad_nonneg

/-- The truncations of the source fit. -/
theorem fits_castInt (hsrc : 0 < src) (hs : 0 < scale) (hle : src * scale ≤ out) :
    Fits src out scale (castInt (src * scale)) ((out - castInt (src * scale)).tdiv 2) := by
  have h0 : 0 ≤ src * scale := mul_nonneg (by exact_mod_cast hsrc.le) hs.le
  have hn : castInt (src * scale) ≤ out := by exact_mod_cast (castInt_le h0).trans hle
  have hpad : (out - castInt (src * scale)).tdiv 2 = (out - castInt (src * scale)) / 2 :=
    Int.tdiv_eq_ediv_of_nonneg (by omega)
  refine ⟨hsrc, hs, hle, castInt_nonneg h0, castInt_le h0, lt_castInt_add_one h0, ?_, ?_, ?_⟩ <;>
    rw [hpad] <;> omega

end Fits

/-- A letterbox that fits a picture into a frame. -/
structure FitsBoth (w h outW outH : Int) (lb : Letterbox) : Prop where
  x : Fits w outW lb.scale lb.nw lb.padX
  y : Fits h outH lb.scale lb.nh lb.padY

theorem fits_of {w h outW outH : Int} (hw : 0 < w) (hh : 0 < h) (hW : 0 < outW) (hH : 0 < outH) :
    FitsBoth w h outW outH (.of w h outW outH) := by
  have hw' : (0 : Rat) < w := by exact_mod_cast hw
  have hh' : (0 : Rat) < h := by exact_mod_cast hh
  have hW' : (0 : Rat) < outW := by exact_mod_cast hW
  have hH' : (0 : Rat) < outH := by exact_mod_cast hH
  have hs : 0 < min ((outW : Rat) / w) (outH / h) := lt_min (div_pos hW' hw') (div_pos hH' hh')
  refine ⟨fits_castInt hw hs ?_, fits_castInt hh hs ?_⟩
  · rw [mul_comm, ← le_div_iff₀ hw']; apply min_le_left
  · rw [mul_comm, ← le_div_iff₀ hh']; apply min_le_right

/-! ## The frame -/

/-- The pixels of a side `n` when a picture whose longer side is `m` is scaled
to the frame. -/
def fitted (m n : Int) : Int := 640 * n / m

/-- The letterbox of a picture in a frame: the longer side is scaled to 640
pixels. -/
def frameLetterbox (w h : Int) : Letterbox where
  scale := 640 / (max w h : Int)
  nw := fitted (max w h) w
  nh := fitted (max w h) h
  padX := (640 - fitted (max w h) w).tdiv 2
  padY := (640 - fitted (max w h) h).tdiv 2

theorem of_frame {w h : Int} (hw : 0 < w) (hh : 0 < h) :
    Letterbox.of w h 640 640 = frameLetterbox w h := by
  have hw' : (0 : Rat) < w := by exact_mod_cast hw
  have hh' : (0 : Rat) < h := by exact_mod_cast hh
  have hscale : min ((640 : Rat) / w) (640 / h) = 640 / (max w h : Int) := by
    rcases le_total w h with hle | hle
    · have : (w : Rat) ≤ h := by exact_mod_cast hle
      rw [max_eq_right hle, min_eq_right (div_le_div_of_nonneg_left (by norm_num) hw' this)]
    · have : (h : Rat) ≤ w := by exact_mod_cast hle
      rw [max_eq_left hle, min_eq_left (div_le_div_of_nonneg_left (by norm_num) hh' this)]
  have hn {n : Int} (h0 : 0 < n) : castInt (n * (640 / (max w h : Int))) = fitted (max w h) n := by
    rw [fitted, ← castInt_div (by omega) (lt_max_of_lt_left hw)]
    congr 1
    push_cast
    ring
  simp only [Letterbox.of, frameLetterbox, Int.cast_ofNat, hscale, hn hw, hn hh]

/-! ## No letterbox -/

/-- Between equal sizes the formulas of a letterbox give none. -/
theorem of_self {w h : Int} (hw : 0 < w) (hh : 0 < h) : Letterbox.of w h w h = .none w h := by
  have hw' : (w : Rat) ≠ 0 := by exact_mod_cast hw.ne'
  have hh' : (h : Rat) ≠ 0 := by exact_mod_cast hh.ne'
  simp [Letterbox.of, Letterbox.none, hw', hh']

theorem modelLetterbox_eq {w h : Int} (hw : 0 < w) (hh : 0 < h) (outW outH : Int) :
    modelLetterbox w h outW outH = .of w h outW outH := by
  rw [modelLetterbox]
  split_ifs with hc
  · obtain ⟨rfl, rfl⟩ := hc
    exact (of_self hw hh).symm
  · rfl

theorem uvcGrabBgr_eq (w h : Int) : uvcGrabBgr w h = .of w h FRAME_WIDTH FRAME_HEIGHT := by
  rw [uvcGrabBgr]
  split_ifs with hc
  · rfl
  · obtain ⟨rfl, rfl⟩ : w = FRAME_WIDTH ∧ h = FRAME_HEIGHT := by tauto
    exact (of_self (by decide) (by decide)).symm

/-- The camera's picture fits into the frame. -/
theorem fits_uvcGrabBgr {w h : Int} (hw : 0 < w) (hh : 0 < h) :
    FitsBoth w h FRAME_WIDTH FRAME_HEIGHT (uvcGrabBgr w h) := by
  rw [uvcGrabBgr_eq]
  exact fits_of hw hh (by decide) (by decide)

/-! ## Rounding -/

/-- `float` of a side. -/
theorem approx_float_side {n : Int} (h : 0 < n) : Approx (1 / 2 ^ 24) n (float n) := by
  have h1 : (1 : Rat) ≤ n := by exact_mod_cast h
  exact approx_float (le_trans (by norm_num) h1)

section Rounded

variable {w h : Int} (hw : 0 < w) (hw' : w < 2 ^ 31) (hh : 0 < h) (hh' : h < 2 ^ 31)

theorem approx_quot {n : Int} (hn : 0 < n) (hn' : n < 2 ^ 31) :
    Approx (1 / 2 ^ 22) (640 / n) (float (float 640 / float n)) := by
  have hpos : (0 : Rat) < n := by exact_mod_cast hn
  have hlt : (n : Rat) < 2 ^ 31 := by exact_mod_cast hn'
  have hside := approx_float_side hn
  have h640 : float 640 = 640 := by decide +kernel
  have hdiv : Approx (2 * (1 / 2 ^ 24)) (640 / n) (640 / float n) :=
    hside.div hpos (by norm_num) (by norm_num) (by norm_num)
  rw [h640]
  have hbig : 1 / 2 ^ 22 ≤ (640 : Rat) / n := by
    rw [div_le_div_iff₀ (by norm_num) hpos]
    linarith
  refine hdiv.trans (approx_float ?_) (by positivity) (by norm_num) (by norm_num) (by norm_num)
    (by norm_num)
  refine le_trans ?_ hdiv.lower
  linarith

include hw hw' hh hh'

/-- The scale of a letterbox in the frame. -/
theorem approx_letterboxScale : Approx (1 / 2 ^ 22) (Letterbox.of w h 640 640).scale
    (letterboxScale w h 640 640) :=
  (approx_quot hw hw').min (approx_quot hh hh') (by norm_num) (by norm_num)

/-- A side, before its fraction is dropped. -/
theorem approx_side {n : Int} (hn : 0 < n) :
    Approx (1 / 2 ^ 21) (n * (Letterbox.of w h 640 640).scale)
      (float (float n * letterboxScale w h 640 640)) := by
  have hscale := approx_letterboxScale hw hw' hh hh'
  have hpos : 0 < (Letterbox.of w h 640 640).scale :=
    (fits_of hw hh (by decide) (by decide)).x.scale_pos
  have hbig : 1 / 2 ^ 22 ≤ (Letterbox.of w h 640 640).scale := by
    have hquot {n : Int} (hn : 0 < n) (hn' : n < 2 ^ 31) : (1 : Rat) / 2 ^ 22 ≤ 640 / n := by
      have hlt : (n : Rat) < 2 ^ 31 := by exact_mod_cast hn'
      rw [div_le_div_iff₀ (by norm_num) (by exact_mod_cast hn)]
      linarith
    exact le_min (hquot hw hw') (hquot hh hh')
  generalize (Letterbox.of w h 640 640).scale = scale at *
  have h1 : (1 : Rat) ≤ n := by exact_mod_cast hn
  have hside := approx_float_side hn
  have hx : 1 / 2 ^ 22 ≤ n * scale := by
    calc (1 : Rat) / 2 ^ 22 ≤ 1 * scale := by rwa [one_mul]
      _ ≤ n * scale := mul_le_mul_of_nonneg_right h1 hpos.le
  have hx0 : 0 ≤ n * scale := le_trans (by norm_num) hx
  have hfloat : 0 ≤ float n := (hside.pos (by norm_num) (by linarith)).le
  have hprod : Approx (6 / 2 ^ 24) (n * scale) (float n * letterboxScale w h 640 640) :=
    (hside.mul_right hpos.le).trans (hscale.mul_left hfloat) hx0 (by norm_num) (by norm_num)
      (by norm_num) (by norm_num)
  refine hprod.trans (approx_float ?_) hx0 (by norm_num) (by norm_num) (by norm_num) (by norm_num)
  refine le_trans ?_ hprod.lower
  linarith

omit hw hw' hh hh' in
/-- A rounded side is off by a pixel at most, and lies in the frame. -/
theorem castInt_near {x y : Rat} (h : Approx (1 / 2 ^ 21) x y) (hx : 0 ≤ x) (hle : x ≤ 640) :
    (castInt y ≤ 640 ∧ 0 ≤ castInt y) ∧ |castInt y - castInt x| ≤ 1 := by
  have hy : 0 ≤ y := le_trans (mul_nonneg (by norm_num) hx) h.lower
  have hfx := castInt_le hx
  have hfy := castInt_le hy
  have hcx := lt_castInt_add_one hx
  have hcy := lt_castInt_add_one hy
  have hup := h.upper
  have hlo := h.lower
  have hlt : (castInt y : Rat) < 640 + 1 := by linarith
  have h1 : (castInt y : Rat) < castInt x + 1 + 1 := by linarith
  have h2 : (castInt x : Rat) < castInt y + 1 + 1 := by linarith
  have hlt : castInt y < 640 + 1 := by exact_mod_cast hlt
  have h1 : castInt y < castInt x + 1 + 1 := by exact_mod_cast h1
  have h2 : castInt x < castInt y + 1 + 1 := by exact_mod_cast h2
  exact ⟨⟨by omega, castInt_nonneg hy⟩, abs_le.mpr ⟨by omega, by omega⟩⟩

/-- The rounded sizes are those of the exact letterbox, but for a pixel. -/
theorem letterboxSide_near :
    let scale := letterboxScale w h 640 640
    let lb := Letterbox.of w h 640 640
    ((letterboxSide w scale ≤ 640 ∧ 0 ≤ letterboxSide w scale) ∧ |letterboxSide w scale - lb.nw| ≤ 1) ∧
      (letterboxSide h scale ≤ 640 ∧ 0 ≤ letterboxSide h scale) ∧ |letterboxSide h scale - lb.nh| ≤ 1 := by
  have fits := fits_of hw hh (by decide : (0 : Int) < 640) (by decide : (0 : Int) < 640)
  have hside {n : Int} (hn : 0 < n) (hle : n * (Letterbox.of w h 640 640).scale ≤ 640) :=
    castInt_near (approx_side hw hw' hh hh' hn)
      (mul_nonneg (by exact_mod_cast hn.le) fits.x.scale_pos.le) hle
  exact ⟨hside hw (by exact_mod_cast fits.x.le_out), hside hh (by exact_mod_cast fits.y.le_out)⟩

/-- In the frame, `letterbox` throws just where nothing is left of a side. -/
theorem letterbox_isSome : (letterbox w h 640 640).isSome ↔
    0 < letterboxSide w (letterboxScale w h 640 640) ∧
      0 < letterboxSide h (letterboxScale w h 640 640) := by
  obtain ⟨⟨⟨hw1, -⟩, -⟩, ⟨hh1, -⟩, -⟩ := letterboxSide_near hw hw' hh hh'
  unfold letterbox
  dsimp only
  generalize letterboxSide w (letterboxScale w h 640 640) = nw at *
  generalize letterboxSide h (letterboxScale w h 640 640) = nh at *
  by_cases hempty : nw ≤ 0 ∨ nh ≤ 0
  · rw [if_pos hempty]
    exact iff_of_false (by simp) (by omega)
  · have htdiv {n : Int} (hn : n ≤ 640) : (640 - n).tdiv 2 = (640 - n) / 2 :=
      Int.tdiv_eq_ediv_of_nonneg (by omega)
    rw [if_neg hempty, htdiv hw1, htdiv hh1, if_neg (by omega)]
    exact iff_of_true rfl (by omega)

/-- Something is left of every picture of which no side is more than 639 times the other. -/
theorem letterboxSide_pos (hwh : w ≤ 639 * h) (hhw : h ≤ 639 * w) :
    0 < letterboxSide w (letterboxScale w h 640 640) ∧
      0 < letterboxSide h (letterboxScale w h 640 640) := by
  have hw0 : (0 : Rat) < w := by exact_mod_cast hw
  have hh0 : (0 : Rat) < h := by exact_mod_cast hh
  have hwh : (w : Rat) ≤ 639 * h := by exact_mod_cast hwh
  have hhw : (h : Rat) ≤ 639 * w := by exact_mod_cast hhw
  have hside {n : Int} (hn : 0 < n) (h1 : (w : Rat) ≤ 639 * n) (h2 : (h : Rat) ≤ 639 * n) :
      0 < letterboxSide n (letterboxScale w h 640 640) := by
    have hx : (640 : Rat) / 639 ≤ n * (Letterbox.of w h 640 640).scale := by
      show _ ≤ n * min ((640 : Rat) / w) (640 / h)
      rw [mul_min_of_nonneg _ _ (by exact_mod_cast hn.le), ← mul_div_assoc, ← mul_div_assoc]
      refine le_min ?_ ?_
      · rw [div_le_div_iff₀ (by norm_num) hw0]
        linarith
      · rw [div_le_div_iff₀ (by norm_num) hh0]
        linarith
    have hlow := (approx_side hw hw' hh hh' hn).lower
    have hy : 1 ≤ float (float n * letterboxScale w h 640 640) := by linarith
    have hlt := lt_castInt_add_one (le_trans zero_le_one hy)
    have hpos : (0 : Rat) < castInt (float (float n * letterboxScale w h 640 640)) := by linarith
    exact_mod_cast hpos
  exact ⟨hside hw (by linarith) hhw, hside hh hwh (by linarith)⟩

end Rounded

end TR.Proof.Perception
