import TennisRobot.Proof.Detect.Nms

/-!
# Runs of non-maximum suppression

When no two scores are the same, there is one order by score (`eq_of_sorted`), and
what `NMS` leaves depends on neither the order it is given nor on `std::sort`.
Then runs on related lists have related results (`nms_runs`): a permutation of the
list, one group of it, and what a run has left.
-/

namespace TR.Proof.Detect

open TR.Impl.Detect

/-- `NMS` on all detections of a list. -/
def nmsAll (std : StdSort) (dets : List Detection) (thresh : Rat) : List Detection × Int :=
  nms std dets dets.length thresh

/-- Of the batch `b` and the class `c`. -/
def inGroup (b c : Int) (d : Detection) : Bool := d.batchIdx = b && d.cls = c

theorem inGroup_of_overlaps {thresh : Rat} {d e : Detection} (b c : Int)
    (h : overlaps thresh d e = true) : inGroup b c d = inGroup b c e := by
  obtain ⟨hc, hb, -⟩ := overlaps_iff.mp h
  unfold inGroup
  rw [hc, hb]

/-- No two detections have the same score. -/
def ScoresDistinct (dets : List Detection) : Prop :=
  dets.Pairwise fun a b => a.score ≠ b.score

theorem ScoresDistinct.perm {dets dets' : List Detection} (h : ScoresDistinct dets)
    (hp : dets'.Perm dets) : ScoresDistinct dets' :=
  (hp.symm.pairwise_iff fun h => h.symm).mp h

/-- By score there is one order. -/
theorem eq_of_sorted {l l' : List Detection} (hd : ScoresDistinct l) (hp : l'.Perm l)
    (hl : l.Pairwise fun a b => ¬a.score < b.score)
    (hl' : l'.Pairwise fun a b => ¬a.score < b.score) : l' = l := by
  have hsame : ∀ a ∈ l, ∀ b ∈ l, a.score = b.score → a = b := by
    intro a ha b hb
    exact List.inj_on_of_nodup_map (List.pairwise_map.mpr hd) ha hb
  refine hp.eq_of_pairwise (fun a b ha hb hab hba => ?_) hl' hl
  exact hsame a (hp.mem_iff.mp ha) b hb (le_antisymm (not_lt.mp hba) (not_lt.mp hab))

section Runs

variable {dets : List Detection} (hpos : ∀ d ∈ dets, 0 < d.score) (thresh : Rat)

include hpos

/-- A run, from what it leaves. -/
theorem nmsAll_eq (std : StdSort) : nmsAll std dets thresh =
    (greedy (overlaps thresh) (std.sort dets), ↑(greedy (overlaps thresh) (std.sort dets)).length) :=
  Prod.ext (nms_fst std hpos thresh) (by
    rw [← nms_fst std hpos thresh]
    exact nms_snd std hpos thresh)

variable (hd : ScoresDistinct dets)

include hd

theorem nmsAll_eq_of_sorted (std : StdSort) {l : List Detection} (hp : l.Perm dets)
    (hl : l.Pairwise fun a b => ¬a.score < b.score) : nmsAll std dets thresh =
      (greedy (overlaps thresh) l, ↑(greedy (overlaps thresh) l).length) := by
  rw [nmsAll_eq hpos, eq_of_sorted (hd.perm hp) ((std.perm dets).trans hp.symm) hl (std.sorted dets)]

/-- Runs of `NMS` on a permutation of a list, on a group of it, and on what a run has
left; each with a `std::sort` of its own. -/
theorem nms_runs (std std' : StdSort) :
    (∀ dets', dets'.Perm dets → nmsAll std' dets' thresh = nmsAll std dets thresh) ∧
    (∀ b c, (nmsAll std dets thresh).1.filter (inGroup b c) =
      (nmsAll std' (dets.filter (inGroup b c)) thresh).1) ∧
    nmsAll std' (nmsAll std dets thresh).1 thresh = nmsAll std dets thresh := by
  have hrun := nmsAll_eq hpos thresh std
  have hsub : (greedy (overlaps thresh) (std.sort dets)).Sublist (std.sort dets) :=
    greedy_sublist _ _
  have hposOf {l : List Detection} (h : l ⊆ dets) : ∀ d ∈ l, 0 < d.score :=
    fun d hd => hpos d (h hd)
  have hsort := hd.perm (std.perm dets)
  refine ⟨fun dets' hp => ?_, fun b c => ?_, ?_⟩
  · rw [hrun]
    exact nmsAll_eq_of_sorted (hposOf hp.subset) thresh (hd.perm hp) std'
      ((std.perm dets).trans hp.symm) (std.sorted dets)
  · have hgroup := nmsAll_eq_of_sorted (l := (std.sort dets).filter (inGroup b c))
      (hposOf (List.filter_subset_self _)) thresh (hd.sublist List.filter_sublist) std'
      ((std.perm dets).filter _) ((std.sorted dets).sublist List.filter_sublist)
    rw [hrun, hgroup]
    exact greedy_filter (overlaps thresh) (fun _ _ => inGroup_of_overlaps b c) _
  · have hin : greedy (overlaps thresh) (std.sort dets) ⊆ dets :=
      fun _ hd => (std.perm dets).subset (hsub.subset hd)
    have hleft := nmsAll_eq_of_sorted (hposOf hin) thresh
      (hsort.sublist hsub) std' (List.Perm.refl _) ((std.sorted dets).sublist hsub)
    rw [hrun, hleft, greedy_greedy]

end Runs

theorem nms_runs_threeDetections :
    (∀ dets', dets'.Perm threeDetections →
      nmsAll mergeByScore dets' (9 / 20) = nmsAll mergeByScore threeDetections (9 / 20)) ∧
    (∀ b c, (nmsAll mergeByScore threeDetections (9 / 20)).1.filter (inGroup b c) =
      (nmsAll mergeByScore (threeDetections.filter (inGroup b c)) (9 / 20)).1) ∧
    nmsAll mergeByScore (nmsAll mergeByScore threeDetections (9 / 20)).1 (9 / 20) =
      nmsAll mergeByScore threeDetections (9 / 20) :=
  nms_runs (by decide +kernel) (9 / 20)
    (by unfold ScoresDistinct; decide +kernel) mergeByScore mergeByScore

end TR.Proof.Detect
