import Mathlib.Algebra.Order.Group.Nat
import Mathlib.Data.List.Basic

/-!
# Copies

`memcpy` between buffers. A buffer is a list, and a copy that leaves one of the two
has no value; otherwise what it copies is pasted over the destination. A loop that
copies row by row (`copyRows`) out of a buffer whose rows are `step` apart pastes all
the rows at once (`copyRows_eq_some`), and where they are not apart at all one copy
does the same (`copyRows_contiguous`). `getElem?_rows` says what stands in the rows.
-/

namespace TR

variable {α : Type}

/-- `l` over the elements of `dst` from `d` on. -/
def paste (dst : List α) (d : Nat) (l : List α) : List α :=
  dst.take d ++ l ++ dst.drop (d + l.length)

section Paste

variable {dst l m : List α} {d : Nat}

theorem paste_nil : paste dst d [] = dst := by
  simp [paste]

theorem length_paste (h : d + l.length ≤ dst.length) : (paste dst d l).length = dst.length := by
  simp only [paste, List.length_append, List.length_take, List.length_drop]
  omega

/-- What is pasted behind what was pasted. -/
theorem paste_paste (h : d + l.length ≤ dst.length) :
    paste (paste dst d l) (d + l.length) m = paste dst d (l ++ m) := by
  have hd : (dst.take d).length = d := List.length_take_of_le (by omega)
  have htake : (paste dst d l).take (d + l.length) = dst.take d ++ l := by
    rw [paste, List.take_append_of_le_length (by simp [hd]), List.take_of_length_le (by simp [hd])]
  have hdrop : (paste dst d l).drop (d + l.length + m.length) =
      dst.drop (d + (l ++ m).length) := by
    rw [paste, List.drop_append, List.drop_of_length_le (by simp [hd]), List.nil_append,
      List.drop_drop, List.length_append, List.length_append, hd]
    congr 1
    omega
  rw [paste, htake, hdrop, paste, List.append_assoc (dst.take d)]

theorem paste_zero : paste dst 0 l = l ++ dst.drop l.length := by
  simp [paste]

end Paste

/-- `memcpy(dst + d, src + s, n)`. -/
def blit (dst : List α) (d : Nat) (src : List α) (s n : Nat) : Option (List α) :=
  if s + n ≤ src.length ∧ d + n ≤ dst.length then some (paste dst d ((src.drop s).take n))
  else none

/-- `n` rows of `width` elements, the first at `s` and `step` from one to the next. -/
def rows (src : List α) (s step width n : Nat) : List α :=
  (List.range n).flatMap fun i => (src.drop (s + i * step)).take width

/-- A loop that copies `n` rows of `width` elements to rows that are `width` apart.
Its offsets are computed with `int`, which has no value for a product too large. -/
def copyRows (int : Nat → Option Nat) (dst : List α) (d : Nat) (src : List α)
    (s step width n : Nat) : Option (List α) :=
  (List.range n).foldlM (fun dst i => do
    let di ← int (i * width)
    let si ← int (i * step)
    blit dst (d + di) src (s + si) width) dst

section Rows

variable {dst src : List α} {s d step width n : Nat}

/-- The end of a row, in a buffer of `n` rows. -/
theorem row_end_le {i : Nat} (hi : i < n) (hw : width ≤ step) : i * step + width ≤ n * step := by
  have := Nat.mul_le_mul_right step hi
  rw [Nat.succ_mul] at this
  omega

/-- Rows that are not wider than a step lie in `n` steps. -/
theorem rows_fit {size : Nat} (hw : width ≤ step) (h : s + n * step ≤ size) :
    ∀ i < n, s + i * step + width ≤ size := by
  intro i hi
  have hrow := row_end_le hi hw
  omega

/-- The offsets of a loop over such rows are computed, if the last is. -/
theorem int_rows {int : Nat → Option Nat} {bound : Nat} (hint : ∀ k ≤ bound, int k = some k)
    (hw : width ≤ step) (h : n * step ≤ bound) :
    ∀ i < n, int (i * width) = some (i * width) ∧ int (i * step) = some (i * step) := by
  intro i hi
  have hstep : i * step ≤ n * step := Nat.mul_le_mul_right _ (Nat.le_of_lt hi)
  have hwidth : i * width ≤ i * step := Nat.mul_le_mul_left _ hw
  exact ⟨hint _ (by omega), hint _ (by omega)⟩

theorem rows_succ : rows src s step width (n + 1) =
    rows src s step width n ++ (src.drop (s + n * step)).take width := by
  simp [rows, List.range_succ]

theorem length_rows (h : ∀ i < n, s + i * step + width ≤ src.length) :
    (rows src s step width n).length = n * width := by
  induction n with
  | zero => simp [rows]
  | succ n ih =>
    have hlast := h n (Nat.lt_succ_self n)
    rw [rows_succ, List.length_append, ih fun i hi => h i (Nat.lt_succ_of_lt hi),
      List.length_take_of_le (by rw [List.length_drop]; omega), Nat.succ_mul]

/-- The element `c` of the row `r`. -/
theorem getElem?_rows (h : ∀ i < n, s + i * step + width ≤ src.length) {r c : Nat} (hr : r < n)
    (hc : c < width) : (rows src s step width n)[r * width + c]? = src[s + r * step + c]? := by
  induction n with
  | zero => omega
  | succ n ih =>
    have hn : ∀ i < n, s + i * step + width ≤ src.length := fun i hi => h i (Nat.lt_succ_of_lt hi)
    rw [rows_succ]
    rcases Nat.lt_succ_iff_lt_or_eq.mp hr with hr | rfl
    · have hlt : r * width + c < n * width := by
        have := row_end_le hr (Nat.le_refl width)
        omega
      rw [List.getElem?_append_left (by rwa [length_rows hn]), ih hn hr]
    · rw [List.getElem?_append_right (by rw [length_rows hn]; omega), length_rows hn,
        Nat.add_sub_cancel_left, List.getElem?_take_of_lt hc, List.getElem?_drop]

/-- Rows without a gap. -/
theorem rows_contiguous : rows src s width width n = (src.drop s).take (n * width) := by
  induction n with
  | zero => simp [rows]
  | succ n ih =>
    rw [rows_succ, ih, Nat.succ_mul, List.take_add, List.drop_drop]

/-- A loop that stays in its buffers pastes the rows. -/
theorem copyRows_eq_some {int : Nat → Option Nat}
    (hint : ∀ i < n, int (i * width) = some (i * width) ∧ int (i * step) = some (i * step))
    (hs : ∀ i < n, s + i * step + width ≤ src.length) (hd : d + n * width ≤ dst.length) :
    copyRows int dst d src s step width n = some (paste dst d (rows src s step width n)) := by
  induction n with
  | zero => simp [copyRows, rows, paste_nil]
  | succ n ih =>
    obtain ⟨hi, hj⟩ := hint n (Nat.lt_succ_self n)
    have hn : ∀ i < n, s + i * step + width ≤ src.length := fun i hi => hs i (Nat.lt_succ_of_lt hi)
    have hlen := length_rows hn
    have hlast := hs n (Nat.lt_succ_self n)
    rw [Nat.succ_mul] at hd
    have hfit : d + (rows src s step width n).length ≤ dst.length := by omega
    have hprev := ih (fun i hi => hint i (Nat.lt_succ_of_lt hi)) hn (by omega)
    unfold copyRows at hprev ⊢
    rw [List.range_succ, List.foldlM_append, hprev]
    simp only [Option.bind_eq_bind, Option.bind_some, List.foldlM_cons, List.foldlM_nil, hi, hj]
    -- The next row goes right behind those that are there.
    rw [blit, length_paste hfit, if_pos ⟨hlast, by omega⟩, ← hlen, paste_paste hfit, ← rows_succ]
    rfl

/-- One copy does what a loop over rows without a gap does. -/
theorem copyRows_contiguous {int : Nat → Option Nat}
    (hint : ∀ i < n, int (i * width) = some (i * width))
    (hs : s + n * width ≤ src.length) (hd : d + n * width ≤ dst.length) :
    copyRows int dst d src s width width n = blit dst d src s (n * width) := by
  have hrow := rows_fit (Nat.le_refl width) hs
  rw [copyRows_eq_some (fun i hi => ⟨hint i hi, hint i hi⟩) hrow hd, rows_contiguous, blit,
    if_pos ⟨hs, hd⟩]

end Rows

end TR
