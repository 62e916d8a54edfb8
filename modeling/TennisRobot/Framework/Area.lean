import Mathlib.MeasureTheory.Measure.Lebesgue.Basic
import Mathlib.MeasureTheory.Measure.Real

/-!
# Rectangles

A rectangle of the plane with sides along the axes, as a set of points. Two of them
meet in one (`rect_inter`), whose area, and the area of the two together
(`area_union`), are polynomials in the sides. Their interiors meet when the sides
of the intersection are not empty (`interior_inter_nonempty`).
-/

namespace TR

open MeasureTheory Set

/-- The rectangle from `x1` to `x2` and from `y1` to `y2`. -/
def rect (x1 x2 y1 y2 : ℝ) : Set (ℝ × ℝ) := Icc x1 x2 ×ˢ Icc y1 y2

/-- The area of a set of points. -/
noncomputable def area (s : Set (ℝ × ℝ)) : ℝ := volume.real s

variable {x1 x2 y1 y2 u1 u2 v1 v2 : ℝ}

theorem rect_inter : rect x1 x2 y1 y2 ∩ rect u1 u2 v1 v2 =
    rect (max x1 u1) (min x2 u2) (max y1 v1) (min y2 v2) := by
  unfold rect
  rw [prod_inter_prod, Icc_inter_Icc, Icc_inter_Icc]

theorem area_rect : area (rect x1 x2 y1 y2) = max (x2 - x1) 0 * max (y2 - y1) 0 := by
  unfold area rect
  rw [Measure.volume_eq_prod, measureReal_prod_prod, Real.volume_real_Icc, Real.volume_real_Icc]

theorem volume_rect_ne_top : volume (rect x1 x2 y1 y2) ≠ ⊤ := by
  unfold rect
  exact (isCompact_Icc.prod isCompact_Icc).measure_ne_top

theorem area_union : area (rect x1 x2 y1 y2 ∪ rect u1 u2 v1 v2) =
    area (rect x1 x2 y1 y2) + area (rect u1 u2 v1 v2) -
      area (rect x1 x2 y1 y2 ∩ rect u1 u2 v1 v2) := by
  have hm : MeasurableSet (rect u1 u2 v1 v2) := measurableSet_Icc.prod measurableSet_Icc
  have htop : volume (rect x1 x2 y1 y2) ≠ ⊤ := volume_rect_ne_top
  have h := measureReal_union_add_inter hm htop volume_rect_ne_top
  exact eq_sub_of_add_eq h

theorem interior_rect : interior (rect x1 x2 y1 y2) = Ioo x1 x2 ×ˢ Ioo y1 y2 := by
  unfold rect
  rw [interior_prod_eq, interior_Icc, interior_Icc]

theorem interior_inter_nonempty :
    (interior (rect x1 x2 y1 y2) ∩ interior (rect u1 u2 v1 v2)).Nonempty ↔
      max x1 u1 < min x2 u2 ∧ max y1 v1 < min y2 v2 := by
  rw [interior_rect, interior_rect, prod_inter_prod, Ioo_inter_Ioo, Ioo_inter_Ioo,
    prod_nonempty_iff, nonempty_Ioo, nonempty_Ioo]

end TR
