import TennisRobot.Framework.Loop
import TennisRobot.Proof.Detect.Dequantize

/-!
# The output of the model

The output is a tensor of batches, of channels and of boxes, which
`getDetections` reads from one flat buffer. Every index it computes is that of an
entry (`getElem_index`), so that its loops collect what `findBox` finds in the
columns of the tensor (`getDetections_eq`): a detection for each column with a
score above the threshold (`getDetections_decodes`), the entries read as the format
of the tensor says (`valueAt`).
-/

namespace TR.Proof.Detect

open TR.Impl.Detect
open TR.Spec (entry)

/-- What is found in a column: the best of its scores, if it is above the
threshold. -/
def findBox (e : Nat → Nat → Nat → Rat) (classesNum : Nat) (confThresh : Rat) (cell : Nat × Nat) :
    Option Detection :=
  let best := (List.range classesNum).foldl (keepMax fun c => e cell.1 (4 + c) cell.2) (-1, 0)
  if best.1 ≤ confThresh then none
  else
    some ⟨⟨e cell.1 0 cell.2, e cell.1 1 cell.2, e cell.1 2 cell.2, e cell.1 3 cell.2⟩,
      best.2, best.1, cell.1⟩

/-! ## The loops -/

section Loops

variable {data : List Rat} {shape : Shape} {classesNum : Nat} {e : Nat → Nat → Nat → Rat}
  (hread : ∀ b < shape.batch, ∀ c < shape.channels, ∀ j < shape.numBoxes,
    data[(b * shape.channels + c) * shape.numBoxes + j]? = some (e b c j))
  (hch : 4 + classesNum ≤ shape.channels)

include hread

/-- What is read at the index of an entry. -/
theorem getElem_index {b c j : Nat} (hb : b < shape.batch) (hc : c < shape.channels)
    (hj : j < shape.numBoxes) {i : Nat}
    (hi : i = b * shape.channels * shape.numBoxes + (c * shape.numBoxes + j)) :
    data[i]? = some (e b c j) := by
  have hi : i = (b * shape.channels + c) * shape.numBoxes + j := by rw [hi]; ring
  rw [hi]
  exact hread b hb c hc j hj

include hch

theorem maxScore_eq {b j : Nat} (hb : b < shape.batch) (hj : j < shape.numBoxes) :
    maxScore data (b * shape.channels * shape.numBoxes) shape.numBoxes classesNum j =
      some ((List.range classesNum).foldl (keepMax fun c => e b (4 + c) j) (-1, 0)) := by
  refine foldlM_eq_some _ _ fun c hc best => ?_
  have hc := List.mem_range.mp hc
  rw [getElem_index hread hb (show 4 + c < shape.channels by omega) hj rfl]
  rfl

theorem decodeBox_eq {b j : Nat} (hb : b < shape.batch) (hj : j < shape.numBoxes)
    (confThresh : Rat) (s : List Detection × Nat) :
    decodeBox data shape classesNum confThresh b s j =
      some (collect (fun j => findBox e classesNum confThresh (b, j)) s j) := by
  unfold decodeBox collect findBox
  have hrow (c : Nat) (hc : c < 4) :=
    getElem_index hread hb (show c < shape.channels by omega) hj (Nat.add_assoc _ (c * _) j)
  dsimp only
  rw [maxScore_eq hread hch hb hj, hrow 0 (by decide), hrow 1 (by decide), hrow 2 (by decide),
    hrow 3 (by decide)]
  show (if _ then _ else _) = some _
  split <;> rfl

end Loops

/-- The loops of `getDetections` collect what is found in the columns. -/
theorem getDetections_eq {output : Tensor} {shape : Shape} {classesNum : Nat}
    (hcount : output.data.count = shape.batch * shape.channels * shape.numBoxes)
    (hch : 4 + classesNum ≤ shape.channels) (confThresh : Rat) (dets : List Detection) :
    let found := (List.range shape.batch ×ˢ List.range shape.numBoxes).filterMap
      (findBox (entry output shape) classesNum confThresh)
    getDetections output classesNum shape confThresh dets =
      some (dets ++ found, found.length) := by
  unfold getDetections
  rw [foldlM_eq_some (g := fun s b => (List.range shape.numBoxes).foldl
    (collect fun j => findBox (entry output shape) classesNum confThresh (b, j)) s),
    foldl_collect_product, foldl_collect, Nat.zero_add]
  intro b hb s
  refine foldlM_eq_some _ _ fun j hj s => ?_
  exact decodeBox_eq (fun _ hb _ hc _ hj => getElem_entry hcount hb hc hj) hch
    (List.mem_range.mp hb) (List.mem_range.mp hj) confThresh s

/-! ## What is decoded -/

/-- One of the scores of a column is above the threshold. -/
def Exceeds (e : Nat → Nat → Nat → Rat) (classesNum : Nat) (confThresh : Rat)
    (cell : Nat × Nat) : Prop :=
  ∃ c < classesNum, confThresh < e cell.1 (4 + c) cell.2

instance (e : Nat → Nat → Nat → Rat) (classesNum : Nat) (confThresh : Rat) :
    DecidablePred (Exceeds e classesNum confThresh) :=
  fun _ => inferInstanceAs (Decidable (∃ c < classesNum, _))

/-- The detection of a column: its first four rows, and the first of the classes
that score best in it. -/
structure Decodes (e : Nat → Nat → Nat → Rat) (classesNum : Nat) (cell : Nat × Nat)
    (d : Detection) : Prop where
  batchIdx : d.batchIdx = cell.1
  bbox : d.bbox =
    ⟨e cell.1 0 cell.2, e cell.1 1 cell.2, e cell.1 2 cell.2, e cell.1 3 cell.2⟩
  best : ∃ c : Nat, d.cls = c ∧ d.score = e cell.1 (4 + c) cell.2 ∧
    FirstMax (fun c => e cell.1 (4 + c) cell.2) classesNum c

variable {confThresh : Rat}

/-- A column is found exactly when a score of it is above the threshold. -/
theorem findBox_decodes (e : Nat → Nat → Nat → Rat) (classesNum : Nat) (ht : 0 ≤ confThresh)
    (cell : Nat × Nat) :
    if Exceeds e classesNum confThresh cell then
      ∃ d, findBox e classesNum confThresh cell = some d ∧ Decodes e classesNum cell d
    else findBox e classesNum confThresh cell = none := by
  have h := scanMax_spec (fun c => e cell.1 (4 + c) cell.2) (-1) classesNum
  unfold findBox
  generalize (List.range classesNum).foldl _ _ = best at h
  have hlo : (-1 : Rat) ≤ confThresh := le_trans (by decide) ht
  rcases h with ⟨rfl, hle⟩ | ⟨hlt, heq, hmax⟩
  · -- No score is above -1, and so none is above the threshold.
    rw [if_neg, if_pos hlo]
    rintro ⟨c, hc, hex⟩
    exact absurd (hex.trans_le (hle c hc)) (not_lt.mpr hlo)
  · by_cases hex : best.1 ≤ confThresh
    · rw [if_neg, if_pos hex]
      rintro ⟨c, hc, hlt⟩
      exact absurd (hlt.trans_le (hmax.le c hc)) (not_lt.mpr (heq ▸ hex))
    · rw [if_pos ⟨best.2, hmax.lt, heq ▸ not_le.mp hex⟩, if_neg hex]
      exact ⟨_, rfl, rfl, rfl, best.2, rfl, heq, hmax⟩

/-- `getDetections` appends the detections of the columns with a score above the
threshold, in order, and those only; and reads no element that is not there. -/
theorem getDetections_decodes (output : Tensor) (shape : Shape) (classesNum : Nat)
    (hch : 4 + classesNum ≤ shape.channels)
    (hcount : output.data.count = shape.batch * shape.channels * shape.numBoxes)
    (confThresh : Rat) (ht : 0 ≤ confThresh) (dets : List Detection) :
    ∃ found, getDetections output classesNum shape confThresh dets =
        some (dets ++ found, found.length) ∧
      List.Forall₂ (Decodes (entry output shape) classesNum)
        ((List.range shape.batch ×ˢ List.range shape.numBoxes).filter fun cell =>
          Exceeds (entry output shape) classesNum confThresh cell) found ∧
      ∀ fmt count, output.data = .unsupported fmt count → found = [] := by
  have hall : List.Forall₂ (Decodes (entry output shape) classesNum) _ _ :=
    forall₂_filterMap (p := fun cell => Exceeds (entry output shape) classesNum confThresh
      cell) (List.range shape.batch ×ˢ List.range shape.numBoxes) fun cell _ => by
        simpa only [decide_eq_true_eq] using findBox_decodes _ classesNum ht cell
  refine ⟨_, getDetections_eq hcount hch confThresh dets, hall, fun fmt count hu => ?_⟩
  -- Every entry is 0, which is not above the threshold.
  refine List.filterMap_eq_nil_iff.mpr fun cell _ => ?_
  have h := findBox_decodes (entry output shape) classesNum ht cell
  rwa [if_neg] at h
  rintro ⟨c, -, hlt⟩
  rw [entry_unsupported hu] at hlt
  exact absurd hlt (not_lt.mpr ht)

/-- Two columns of a quantized model with two classes, the second without a ball. -/
def twoColumns : Tensor :=
  ⟨.uint8 [100, 200, 110, 210, 120, 220, 130, 230, 180, 128, 190, 129], 1 / 128, 128⟩

theorem getDetections_decodes_twoColumns :
    ∃ found, getDetections twoColumns 2 ⟨1, 6, 2⟩ (1 / 4) [] = some ([] ++ found, found.length) ∧
      List.Forall₂ (Decodes (entry twoColumns ⟨1, 6, 2⟩) 2)
        ((List.range 1 ×ˢ List.range 2).filter fun cell =>
          Exceeds (entry twoColumns ⟨1, 6, 2⟩) 2 (1 / 4) cell) found ∧
      ∀ fmt count, twoColumns.data = .unsupported fmt count → found = [] :=
  getDetections_decodes twoColumns ⟨1, 6, 2⟩ 2 (by decide) (by decide) (1 / 4)
    (by decide +kernel) []

end TR.Proof.Detect
