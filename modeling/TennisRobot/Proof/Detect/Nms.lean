import Mathlib.Data.List.Sort
import TennisRobot.Framework.Suppress
import TennisRobot.Impl.Detect

/-!
# Non-maximum suppression

`NMS` marks what a detection suppresses by setting its score to zero, and
erases the marked ones in a second loop. `nms_fst`: what it leaves is `greedy`
on the sorted detections. `suppressRow_count` is the invariant of `new_count`:
together with the number of marked detections it does not change.
`nms_suppresses` is the contract, `Suppressed`.
-/

namespace TR.Proof.Detect

open TR.Impl.Detect

/-- Not marked. -/
def alive (d : Detection) : Bool := d.score ≠ 0

/-- What `NMS` does to a detection it suppresses. -/
def kill (d : Detection) : Detection := { d with score := 0 }

theorem alive_kill (d : Detection) : alive (kill d) = false := by
  simp [alive, kill]

theorem eraseZero_eq (dets : List Detection) : eraseZero dets = dets.filter alive := by
  induction dets with
  | nil => rfl
  | cons d dets ih =>
    rw [eraseZero, ih, List.filter_cons]
    by_cases h : d.score = 0 <;> simp [alive, h]

/-! ## The loops -/

section Loops

variable {thresh : Rat}

/-- The loop over `j` marks what the detection at `i` suppresses. -/
theorem foldl_suppressAt (pre : List Detection) (a : Detection) (rest : List Detection) (c : Int) :
    ((List.range' (pre.length + 1) rest.length).foldl (suppressAt thresh pre.length)
      (pre ++ a :: rest, c)).1 = pre ++ a :: mark alive (overlaps thresh) kill a rest := by
  have hstep (mid : List Detection) (b : Detection) (rest : List Detection) (c : Int) :
      (suppressAt thresh pre.length (pre ++ [a] ++ mid ++ b :: rest, c)
        (pre ++ [a] ++ mid).length).1 = pre ++ [a] ++ mid ++
          (if alive b && overlaps thresh a b then kill b else b) :: rest := by
    have hi : (pre ++ [a] ++ mid ++ b :: rest)[pre.length]? = some a := by simp
    have hj : (pre ++ [a] ++ mid ++ b :: rest)[(pre ++ [a] ++ mid).length]? = some b := by simp
    rw [suppressAt, hi, hj]
    by_cases h : b.score ≠ 0 ∧ overlaps thresh a b
    · simp only [if_pos h]
      rw [List.set_append_right _ _ (Nat.le_refl _)]
      simp [alive, kill, h.1, h.2]
    · simp only [if_neg h]
      have hb : (alive b && overlaps thresh a b) = false := by simpa [alive] using h
      rw [hb]; rfl
  simpa [mark] using foldl_positions hstep rest c

/-- A row of the loops marks what the detection at its position suppresses,
when it is not marked itself. -/
theorem suppressRow_fst {total : Nat} (pre : List Detection) (a : Detection)
    (rest : List Detection) (c : Int) (ht : (pre ++ a :: rest).length = total) :
    (suppressRow thresh total (pre ++ a :: rest, c) pre.length).1 =
      pre ++ a :: if alive a then mark alive (overlaps thresh) kill a rest else rest := by
  have hi : (pre ++ a :: rest)[pre.length]? = some a := by simp
  have hn : total - (pre.length + 1) = rest.length := by
    rw [← ht, List.length_append, List.length_cons]
    omega
  rw [suppressRow, hi, hn]
  by_cases h : a.score = 0
  · simp [alive, h]
  · simpa [alive, h] using foldl_suppressAt pre a rest c

/-- `new_count` and the number of detections not marked change together. -/
theorem suppressAt_count (i j : Nat) (s : List Detection × Int) :
    (suppressAt thresh i s j).2 - ((suppressAt thresh i s j).1.countP alive : Int) =
      s.2 - (s.1.countP alive : Int) := by
  rw [suppressAt]
  split
  · rename_i a b _ hb
    split_ifs with h
    · obtain ⟨hlt, hb⟩ := List.getElem?_eq_some_iff.mp hb
      have hpos : 0 < s.1.countP alive :=
        List.countP_pos_iff.mpr ⟨b, hb ▸ List.getElem_mem hlt, by simp [alive, h.1]⟩
      have hc : (s.1.set j { b with score := 0 }).countP alive = s.1.countP alive - 1 := by
        rw [List.countP_set hlt, hb]
        simp [alive, h.1]
      rw [hc]
      omega
    · rfl
  · rfl

theorem suppressRow_count (total i : Nat) (s : List Detection × Int) :
    (suppressRow thresh total s i).2 - ((suppressRow thresh total s i).1.countP alive : Int) =
      s.2 - (s.1.countP alive : Int) := by
  rw [suppressRow]
  split
  · split_ifs
    · rfl
    · exact List.foldlRecOn (motive := fun t => t.2 - (t.1.countP alive : Int) = _) _ _ rfl
        fun t ht j _ => (suppressAt_count i j t).trans ht
  · rfl

end Loops

/-! ## NMS -/

section Nms

variable (std : StdSort) {dets : List Detection} (hpos : ∀ d ∈ dets, 0 < d.score) (thresh : Rat)

include hpos

/-- Before the loops no detection is marked. -/
theorem filter_alive_sort : (std.sort dets).filter alive = std.sort dets := by
  refine List.filter_eq_self.mpr fun d hd => ?_
  have := hpos d ((std.perm dets).mem_iff.mp hd)
  simp [alive, this.ne']

/-- What `NMS` leaves. -/
theorem nms_fst : (nms std dets dets.length thresh).1 =
    greedy (overlaps thresh) (std.sort dets) := by
  have hlen := (std.perm dets).length_eq
  rw [nms]
  split_ifs with h
  · have := filter_loop alive_kill (@suppressRow_fst thresh dets.length) dets.length []
      (std.sort dets) (dets.length : Int) hlen hlen
    rw [filter_alive_sort std hpos] at this
    simpa [eraseZero_eq] using this
  · have hs : std.sort dets = [] := List.length_eq_zero_iff.mp (by omega)
    rw [hs, greedy_nil]
    exact List.length_eq_zero_iff.mp (not_not.mp h)

/-- `NMS` only erases. -/
theorem mem_of_mem_nms {d : Detection} (hd : d ∈ (nms std dets dets.length thresh).1) :
    d ∈ dets := by
  rw [nms_fst std hpos] at hd
  exact (std.perm dets).mem_iff.mp ((greedy_sublist ..).subset hd)

/-- `*total` after `NMS`. -/
theorem nms_snd :
    (nms std dets dets.length thresh).2 = (nms std dets dets.length thresh).1.length := by
  rw [nms]
  split_ifs with h
  · have hc := List.foldlRecOn (motive := fun t : List Detection × Int =>
      t.2 - (t.1.countP alive : Int) = dets.length - ((std.sort dets).countP alive : Int))
      (List.range' 0 dets.length) (suppressRow thresh dets.length)
      (b := (std.sort dets, (dets.length : Int))) rfl
      fun t ht i _ => (suppressRow_count dets.length i t).trans ht
    rw [List.countP_eq_length_filter (l := std.sort dets), filter_alive_sort std hpos,
      (std.perm dets).length_eq] at hc
    simp only [eraseZero_eq, ← List.countP_eq_length_filter]
    omega
  · rfl

end Nms

/-- `a` suppresses `b`: they are of one class and one batch, and overlap by
more than `thresh`. -/
def Suppresses (thresh : Rat) (a b : Detection) : Prop :=
  a.cls = b.cls ∧ a.batchIdx = b.batchIdx ∧ (calIou a.bbox b.bbox).gt thresh = true

theorem overlaps_iff {thresh : Rat} {a b : Detection} :
    overlaps thresh a b = true ↔ Suppresses thresh a b := by
  simp only [overlaps, Suppresses, Bool.and_eq_true, decide_eq_true_eq]
  tauto

/-- What `NMS` is for: of the detections `dets`, it leaves those that no better
one suppresses. -/
structure Suppressed (dets : List Detection) (thresh : Rat) (out : List Detection) (total : Int) :
    Prop where
  total_eq : total = out.length
  sorted : out.Pairwise fun a b => b.score ≤ a.score
  apart : out.Pairwise fun a b => ¬Suppresses thresh a b
  /-- Each detection that is gone is suppressed by one that is left and scores
  no less, and the others are left as they were. -/
  removed : ∃ gone, (out ++ gone).Perm dets ∧
    ∀ b ∈ gone, ∃ a ∈ out, Suppresses thresh a b ∧ b.score ≤ a.score

/-- `NMS` is greedy suppression, in any order `std::sort` leaves ties in. -/
theorem nms_suppresses (std : StdSort) (dets : List Detection)
    (hpos : ∀ d ∈ dets, 0 < d.score) (thresh : Rat) :
    Suppressed dets thresh (nms std dets dets.length thresh).1
      (nms std dets dets.length thresh).2 := by
  have hs : (std.sort dets).Pairwise fun a b => b.score ≤ a.score :=
    (std.sorted dets).imp fun h => not_lt.mp h
  refine ⟨nms_snd std hpos thresh, ?_, ?_, ?_⟩ <;> rw [nms_fst std hpos]
  · exact hs.sublist (greedy_sublist ..)
  · refine (greedy_pairwise (overlaps thresh) _).imp fun {a b} h => ?_
    rw [← overlaps_iff, h]
    exact Bool.false_ne_true
  · obtain ⟨gone, hp, hr⟩ := greedy_removed (overlaps thresh) _ hs
    refine ⟨gone, hp.trans (std.perm dets), fun b hb => ?_⟩
    obtain ⟨a, ha, hk, hle⟩ := hr b hb
    exact ⟨a, ha, overlaps_iff.mp hk, hle⟩

/-- A merge sort can stand for `std::sort`. -/
def mergeByScore : StdSort where
  sort dets := dets.mergeSort fun a b => decide (b.score ≤ a.score)
  perm dets := List.mergeSort_perm dets _
  sorted dets := by
    refine (List.pairwise_mergeSort ?_ ?_ dets).imp fun {a b} h => ?_
    · intro a b c hab hbc
      simp only [decide_eq_true_eq] at hab hbc ⊢
      exact hbc.trans hab
    · intro a b
      simpa using le_total b.score a.score
    · exact not_lt.mpr (of_decide_eq_true h)

/-- Two detections of one ball, the better one second, and one of another. -/
def threeDetections : List Detection :=
  [⟨⟨100, 100, 40, 40⟩, 0, 3 / 5, 0⟩, ⟨⟨102, 100, 40, 40⟩, 0, 9 / 10, 0⟩,
    ⟨⟨300, 100, 40, 40⟩, 0, 7 / 10, 0⟩]

theorem nms_suppresses_threeDetections :
    Suppressed threeDetections (9 / 20) (nms mergeByScore threeDetections 3 (9 / 20)).1
      (nms mergeByScore threeDetections 3 (9 / 20)).2 :=
  nms_suppresses mergeByScore threeDetections (by decide +kernel) (9 / 20)

end TR.Proof.Detect
