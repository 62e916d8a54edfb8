import TennisRobot.Framework.Area
import TennisRobot.Impl.Detect

/-!
# Intersection over union

`calIou` divides the product of the sides of the intersection (`interTerm`) by what
is left of the two areas (`unionTerm`). Sizes may be negative, and then a box meets
nothing: where the product is positive both sizes of both boxes are, and each
area is at least the product (`le_area_of_interTerm_pos`). So the ratio is never
above 1, and 0 is only divided by 0 (`calIou_cases`). For boxes with an area it is
the ratio of the areas of two sets of points (`calIou_areas`).
-/

namespace TR.Proof.Detect

open TR.Impl.Detect

/-- `wi` and `hi`: the sides of the intersection. -/
def interW (a b : Box) : Rat := min a.right b.right - max a.left b.left
def interH (a b : Box) : Rat := min a.bottom b.bottom - max a.top b.top

/-- `area_i`. -/
def interTerm (a b : Box) : Rat := max (interW a b) 0 * max (interH a b) 0

/-- The denominator of `calIou`. -/
def unionTerm (a b : Box) : Rat := a.w * a.h + b.w * b.h - interTerm a b

theorem calIou_eq (a b : Box) : calIou a b = fdiv (interTerm a b) (unionTerm a b) := rfl

theorem right_sub_left (b : Box) : b.right - b.left = b.w := by
  unfold Box.right Box.left
  ring

theorem bottom_sub_top (b : Box) : b.bottom - b.top = b.h := by
  unfold Box.bottom Box.top
  ring

/-! ## The terms -/

variable (a b : Box)

theorem interW_comm : interW a b = interW b a := by
  unfold interW
  rw [min_comm, max_comm]

theorem interH_comm : interH a b = interH b a := by
  unfold interH
  rw [min_comm, max_comm]

theorem interTerm_comm : interTerm a b = interTerm b a := by
  unfold interTerm
  rw [interW_comm, interH_comm]

theorem unionTerm_comm : unionTerm a b = unionTerm b a := by
  unfold unionTerm
  rw [interTerm_comm, add_comm]

theorem interTerm_nonneg : 0 ≤ interTerm a b :=
  mul_nonneg (le_max_right _ _) (le_max_right _ _)

theorem interW_le : interW a b ≤ a.w :=
  right_sub_left a ▸ sub_le_sub (min_le_left _ _) (le_max_left _ _)

theorem interH_le : interH a b ≤ a.h :=
  bottom_sub_top a ▸ sub_le_sub (min_le_left _ _) (le_max_left _ _)

theorem interTerm_pos_iff : 0 < interTerm a b ↔ 0 < interW a b ∧ 0 < interH a b := by
  refine ⟨fun h => ?_, fun ⟨hw, hh⟩ => mul_pos (lt_max_of_lt_left hw) (lt_max_of_lt_left hh)⟩
  refine ⟨not_le.mp fun hw => ?_, not_le.mp fun hh => ?_⟩
  · rw [interTerm, max_eq_right hw, zero_mul] at h
    exact lt_irrefl _ h
  · rw [interTerm, max_eq_right hh, mul_zero] at h
    exact lt_irrefl _ h

variable {a b}

theorem interTerm_of_pos (hw : 0 < interW a b) (hh : 0 < interH a b) :
    interTerm a b = interW a b * interH a b := by
  rw [interTerm, max_eq_left hw.le, max_eq_left hh.le]

/-- Boxes that meet have an area, and it is at least that of the intersection. -/
theorem le_area_of_interTerm_pos (h : 0 < interTerm a b) : interTerm a b ≤ a.w * a.h := by
  obtain ⟨hw, hh⟩ := (interTerm_pos_iff a b).mp h
  rw [interTerm_of_pos hw hh]
  exact mul_le_mul (interW_le a b) (interH_le a b) hh.le (hw.le.trans (interW_le a b))

/-- Where the boxes meet, the denominator is at least the numerator. -/
theorem le_unionTerm (h : 0 < interTerm a b) : interTerm a b ≤ unionTerm a b := by
  have ha := le_area_of_interTerm_pos h
  have hb := le_area_of_interTerm_pos (interTerm_comm a b ▸ h)
  rw [interTerm_comm b a] at hb
  unfold unionTerm
  linarith

/-- The ratio is one of 0 and 0, or a number from 0 to 1. -/
theorem calIou_cases (a b : Box) :
    (unionTerm a b = 0 → interTerm a b = 0) ∧
    (unionTerm a b ≠ 0 → ∃ q, calIou a b = .num q ∧ 0 ≤ q ∧ q ≤ 1) := by
  have hle : interTerm a b = 0 ∨ 0 < interTerm a b ∧ interTerm a b ≤ unionTerm a b := by
    rcases (interTerm_nonneg a b).eq_or_lt with h | h
    · exact .inl h.symm
    · exact .inr ⟨h, le_unionTerm h⟩
  refine ⟨fun hu => ?_, fun hu => ?_⟩
  · rcases hle with h | ⟨h, hl⟩
    · exact h
    · exact absurd (hl.trans hu.le) (not_le.mpr h)
  · refine ⟨interTerm a b / unionTerm a b, ?_, ?_⟩
    · rw [calIou_eq, fdiv, if_pos hu]
    · rcases hle with h | ⟨h, hl⟩
      · rw [h, zero_div]
        exact ⟨le_rfl, zero_le_one⟩
      · have hpos := h.trans_le hl
        exact ⟨div_nonneg h.le hpos.le, (div_le_one hpos).mpr hl⟩

/-! ## Boxes with an area -/

/-- The points of a box. -/
def points (b : Box) : Set (ℝ × ℝ) := rect b.left b.right b.top b.bottom

theorem area_points_inter (a b : Box) : area (points a ∩ points b) = interTerm a b := by
  unfold points interTerm interW interH
  rw [rect_inter, area_rect]
  push_cast
  rfl

section Area

variable (hw : 0 < a.w) (hh : 0 < a.h)

include hw hh

theorem area_points : area (points a) = a.w * a.h := by
  have hw' : (0 : ℝ) ≤ a.w := by exact_mod_cast hw.le
  have hh' : (0 : ℝ) ≤ a.h := by exact_mod_cast hh.le
  have hsub : ((a.right : ℝ) - a.left) = a.w := by exact_mod_cast right_sub_left a
  have hsub' : ((a.bottom : ℝ) - a.top) = a.h := by exact_mod_cast bottom_sub_top a
  rw [points, area_rect, hsub, hsub', max_eq_left hw', max_eq_left hh']

theorem area_points_union (hw' : 0 < b.w) (hh' : 0 < b.h) :
    area (points a ∪ points b) = unionTerm a b := by
  have h : area (points a ∪ points b) =
      area (points a) + area (points b) - area (points a ∩ points b) := area_union
  rw [h, area_points hw hh, area_points hw' hh', area_points_inter, unionTerm]
  push_cast
  rfl

/-- The whole of a box is in the intersection only if the sides are. -/
theorem sides_eq_of_interTerm_eq (h : interTerm a b = a.w * a.h) :
    interW a b = a.w ∧ interH a b = a.h := by
  have hpos : 0 < interTerm a b := h ▸ mul_pos hw hh
  obtain ⟨hiw, hih⟩ := (interTerm_pos_iff a b).mp hpos
  rw [interTerm_of_pos hiw hih] at h
  have hwle := interW_le a b
  have hhle := interH_le a b
  refine ⟨hwle.antisymm ?_, hhle.antisymm ?_⟩
  · nlinarith
  · nlinarith

end Area

theorem unionTerm_pos (hw : 0 < a.w) (hh : 0 < a.h) (hw' : 0 < b.w) (hh' : 0 < b.h) :
    0 < unionTerm a b := by
  rcases (interTerm_nonneg a b).eq_or_lt with h | h
  · have := mul_pos hw hh
    have := mul_pos hw' hh'
    unfold unionTerm
    linarith
  · exact h.trans_le (le_unionTerm h)

theorem inside_of_interW_eq (h : interW a b = a.w) : b.left ≤ a.left ∧ a.right ≤ b.right := by
  have hl := le_max_left a.left b.left
  have hl' := le_max_right a.left b.left
  have hr := min_le_left a.right b.right
  have hr' := min_le_right a.right b.right
  rw [← right_sub_left a, interW] at h
  refine ⟨?_, ?_⟩ <;> linarith

theorem inside_of_interH_eq (h : interH a b = a.h) : b.top ≤ a.top ∧ a.bottom ≤ b.bottom := by
  have ht := le_max_left a.top b.top
  have ht' := le_max_right a.top b.top
  have hb := min_le_left a.bottom b.bottom
  have hb' := min_le_right a.bottom b.bottom
  rw [← bottom_sub_top a, interH] at h
  refine ⟨?_, ?_⟩ <;> linarith

/-- A box is what is between its edges. -/
theorem eq_of_edges (hl : a.left = b.left) (hr : a.right = b.right) (ht : a.top = b.top)
    (hb : a.bottom = b.bottom) : a = b := by
  have hw : a.w = b.w := by rw [← right_sub_left, ← right_sub_left, hl, hr]
  have hh : a.h = b.h := by rw [← bottom_sub_top, ← bottom_sub_top, ht, hb]
  unfold Box.left at hl
  unfold Box.top at ht
  rw [hw] at hl
  rw [hh] at ht
  obtain ⟨x, y, w, h⟩ := a
  obtain ⟨x', y', w', h'⟩ := b
  exact Box.mk.injEq .. ▸ ⟨sub_left_injective hl, sub_left_injective ht, hw, hh⟩

/-- Boxes that fill their union are the same. -/
theorem interTerm_eq_unionTerm_iff (hw : 0 < a.w) (hh : 0 < a.h) (hw' : 0 < b.w) (hh' : 0 < b.h) :
    interTerm a b = unionTerm a b ↔ a = b := by
  refine ⟨fun h => ?_, ?_⟩
  · have hpos : 0 < interTerm a b := h ▸ unionTerm_pos hw hh hw' hh'
    have ha := le_area_of_interTerm_pos hpos
    have hb := le_area_of_interTerm_pos (interTerm_comm a b ▸ hpos)
    rw [interTerm_comm b a] at hb
    unfold unionTerm at h
    obtain ⟨hwa, hha⟩ := sides_eq_of_interTerm_eq hw hh (show interTerm a b = _ by linarith)
    obtain ⟨hwb, hhb⟩ := sides_eq_of_interTerm_eq hw' hh'
      (show interTerm b a = _ by rw [interTerm_comm]; linarith)
    obtain ⟨h1, h2⟩ := inside_of_interW_eq hwa
    obtain ⟨h3, h4⟩ := inside_of_interW_eq hwb
    obtain ⟨h5, h6⟩ := inside_of_interH_eq hha
    obtain ⟨h7, h8⟩ := inside_of_interH_eq hhb
    exact eq_of_edges (h3.antisymm h1) (h2.antisymm h4) (h7.antisymm h5) (h6.antisymm h8)
  · rintro rfl
    have hself : interTerm a a = a.w * a.h := by
      unfold interTerm interW interH
      rw [min_self, max_self, min_self, max_self, right_sub_left, bottom_sub_top,
        max_eq_left hw.le, max_eq_left hh.le]
    unfold unionTerm
    rw [hself]
    ring

/-- The interiors of two boxes meet where the sides of the intersection are
positive. -/
theorem interior_points_iff : (interior (points a) ∩ interior (points b)).Nonempty ↔
    0 < interTerm a b := by
  unfold points
  rw [interior_inter_nonempty, interTerm_pos_iff]
  unfold interW interH
  rw [sub_pos, sub_pos]
  exact_mod_cast Iff.rfl

/-- `calIou` is symmetric; it is a number from 0 to 1 unless it divides 0 by 0, and then it
is none; and for boxes with an area it is the area of the intersection by that of the union,
positive when the interiors meet and 1 for equal boxes only. -/
theorem calIou_areas (a b : Box) :
    calIou a b = calIou b a ∧
    (unionTerm a b ≠ 0 → ∃ q, calIou a b = .num q ∧ 0 ≤ q ∧ q ≤ 1) ∧
    (unionTerm a b = 0 → interTerm a b = 0 ∧ calIou a b = .nan) ∧
    (0 < a.w → 0 < a.h → 0 < b.w → 0 < b.h →
      ∃ q : Rat, calIou a b = .num q ∧
        (q : ℝ) = area (points a ∩ points b) / area (points a ∪ points b) ∧
        (0 < q ↔ (interior (points a) ∩ interior (points b)).Nonempty) ∧
        (q = 1 ↔ a = b)) := by
  obtain ⟨hz, hn⟩ := calIou_cases a b
  refine ⟨?_, hn, fun hu => ⟨hz hu, ?_⟩, fun hw hh hw' hh' => ?_⟩
  · rw [calIou_eq, calIou_eq, interTerm_comm, unionTerm_comm]
  · rw [calIou_eq, hz hu, hu]
    simp [fdiv]
  · have hpos := unionTerm_pos hw hh hw' hh'
    refine ⟨interTerm a b / unionTerm a b, ?_, ?_, ?_, ?_⟩
    · rw [calIou_eq, fdiv, if_pos hpos.ne']
    · rw [area_points_inter, area_points_union hw hh hw' hh']
      push_cast
      rfl
    · rw [interior_points_iff, div_pos_iff_of_pos_right hpos]
    · rw [div_eq_one_iff_eq hpos.ne', interTerm_eq_unionTerm_iff hw hh hw' hh']

end TR.Proof.Detect
