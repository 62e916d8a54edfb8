import Mathlib.Data.List.Rotate
import Mathlib.Data.List.Perm.Basic
import Mathlib.Data.Nat.ModEq
import Mathlib.Order.MinMax

/-!
# Ring buffers that are not cleared

A buffer of `n` slots, to which the `k`-th number is written at `k % n`. What was in
it before is not cleared: `RingHolds n buf xs` says which slots hold the numbers
`xs` written since. It holds of any buffer at first (`RingHolds.nil`), and a write
keeps it (`RingHolds.push`). The first slots, as many as were written, then hold the
last numbers in some order (`RingHolds.take_perm`), so that what does not depend on
the order, as the distance of the extremes (`spread_perm`), may be read from them.
-/

namespace TR

variable {α : Type} {n : Nat} {buf xs : List α}

/-- The slots of `buf` hold the last `n` of the numbers `xs`, each where it was
written. -/
structure RingHolds (n : Nat) (buf xs : List α) : Prop where
  length : buf.length = n
  slot : ∀ i, i < xs.length → xs.length ≤ i + n → buf[i % n]? = xs[i]?

theorem RingHolds.nil (h : buf.length = n) : RingHolds n buf [] :=
  ⟨h, fun _ hi => absurd hi (Nat.not_lt_zero _)⟩

/-- Positions less than `n` apart are in different slots. -/
theorem mod_ne_of_lt {i k : Nat} (h : i < k) (hk : k < i + n) : i % n ≠ k % n := by
  intro he
  have hdvd : n ∣ k - i := (Nat.modEq_iff_dvd' h.le).mp he
  have := Nat.le_of_dvd (by omega) hdvd
  omega

/-- A write keeps the numbers that are not `n` writes old. -/
theorem RingHolds.push (hn : 0 < n) (h : RingHolds n buf xs) (x : α) :
    RingHolds n (buf.set (xs.length % n) x) (xs ++ [x]) := by
  refine ⟨(List.length_set ..).trans h.length, fun i hi hle => ?_⟩
  rw [List.length_append, List.length_singleton] at hi hle
  rcases Nat.lt_succ_iff_lt_or_eq.mp hi with hi | rfl
  · rw [List.getElem?_set_ne (mod_ne_of_lt hi (by omega)).symm, List.getElem?_append_left hi]
    exact h.slot i hi (by omega)
  · have hlt : xs.length % n < buf.length := by
      rw [h.length]
      exact Nat.mod_lt _ hn
    rw [List.getElem?_set_self hlt, List.getElem?_concat_length]

/-- Until it is full, the buffer holds what was written in order. -/
theorem RingHolds.take_eq (h : RingHolds n buf xs) (hle : xs.length ≤ n) :
    buf.take xs.length = xs := by
  refine List.ext_getElem? fun i => ?_
  rcases Nat.lt_or_ge i xs.length with hi | hi
  · rw [List.getElem?_take_of_lt hi, ← h.slot i hi (by omega), Nat.mod_eq_of_lt (by omega)]
  · rw [List.getElem?_take_eq_none hi, List.getElem?_eq_none hi]

/-- From then on it is a rotation of the last `n`. -/
theorem RingHolds.rotate_eq (hn : 0 < n) (h : RingHolds n buf xs) (hle : n ≤ xs.length) :
    buf.rotate xs.length = xs.drop (xs.length - n) := by
  refine List.ext_getElem? fun i => ?_
  rcases Nat.lt_or_ge i n with hi | hi
  · have hslot := h.slot (xs.length - n + i) (by omega) (by omega)
    rw [List.getElem?_rotate (h.length ▸ hi), h.length, List.getElem?_drop, ← hslot]
    -- The two positions are `n` apart.
    have hsum : i + xs.length = xs.length - n + i + n := by omega
    rw [hsum, Nat.add_mod_right]
  · rw [List.getElem?_eq_none (by rw [List.length_rotate, h.length]; exact hi),
      List.getElem?_eq_none (by rw [List.length_drop]; omega)]

/-- The slots up to the number of writes hold the last numbers. -/
theorem RingHolds.take_perm (hn : 0 < n) (h : RingHolds n buf xs) :
    (buf.take (min xs.length n)).Perm (xs.drop (xs.length - n)) := by
  rcases Nat.le_total xs.length n with hle | hle
  · rw [Nat.min_eq_left hle, h.take_eq hle, Nat.sub_eq_zero_of_le hle, List.drop_zero]
  · rw [Nat.min_eq_right hle, ← h.length, List.take_length, h.length, ← h.rotate_eq hn hle]
    exact (List.rotate_perm buf xs.length).symm

/-! ## The distance of the extremes -/

/-- The largest number of a list less the smallest. -/
def spread (l : List Int) : Int := l.max?.getD 0 - l.min?.getD 0

theorem spread_cons (a : Int) (l : List Int) : spread (a :: l) = l.foldl max a - l.foldl min a :=
  rfl

theorem spread_perm {l m : List Int} (h : l.Perm m) : spread l = spread m := by
  have hmax : l.max? = m.max? := by
    refine Option.ext fun a => ?_
    rw [List.max?_eq_some_iff, List.max?_eq_some_iff, h.mem_iff]
    simp only [h.mem_iff]
  have hmin : l.min? = m.min? := by
    refine Option.ext fun a => ?_
    rw [List.min?_eq_some_iff, List.min?_eq_some_iff, h.mem_iff]
    simp only [h.mem_iff]
  unfold spread
  rw [hmax, hmin]

/-- The slots from `i` on, read one by one. -/
theorem map_range'_getD (l : List Int) (i n : Nat) (h : i + n ≤ l.length) :
    (List.range' i n).map (fun k => l.getD k 0) = (l.drop i).take n := by
  refine List.ext_getElem ?_ fun k hk hk' => ?_
  · rw [List.length_map, List.length_range', List.length_take, List.length_drop]
    omega
  · rw [List.length_map, List.length_range'] at hk
    rw [List.getElem_map, List.getElem_range', List.getElem_take, List.getElem_drop, one_mul,
      List.getD, List.getElem?_eq_getElem (by omega)]
    rfl

/-- A loop that keeps the smallest number and the largest. -/
theorem foldl_extremes (l : List Int) : ∀ mn mx : Int,
    l.foldl (fun (p : Int × Int) v => (if v < p.1 then v else p.1, if v > p.2 then v else p.2))
      (mn, mx) = (l.foldl min mn, l.foldl max mx) := by
  induction l with
  | nil => exact fun _ _ => rfl
  | cons v l ih =>
    intro mn mx
    have hmin : (if v < mn then v else mn) = min mn v := by
      rw [min_def]
      split_ifs <;> omega
    have hmax : (if v > mx then v else mx) = max mx v := by
      rw [max_def]
      split_ifs <;> omega
    rw [List.foldl_cons, List.foldl_cons, List.foldl_cons, ih, hmin, hmax]

end TR
