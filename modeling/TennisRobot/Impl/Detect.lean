import TennisRobot.Framework.Float
import Mathlib.Data.List.Perm.Basic

/-!
# Detections

`detect.cpp` behind the model: the reading of its output (`getDetections`), the
suppression of overlapping detections (`NMS`) and the way from the model's input
back to the picture it was made from (`correctYoloBoxes`). Floats are read as exact
rationals, and `int`s as integers. `std::sort` is any function that returns a sorted
permutation (`StdSort`).
-/

namespace TR.Impl.Detect

/-- `box`: a centre and a size. -/
structure Box where
  x : Rat
  y : Rat
  w : Rat
  h : Rat
deriving DecidableEq, Repr

/-- `x1`, `y1`, `x2` and `y2` of a box. -/
def Box.left (b : Box) : Rat := b.x - b.w / 2
def Box.top (b : Box) : Rat := b.y - b.h / 2
def Box.right (b : Box) : Rat := b.x + b.w / 2
def Box.bottom (b : Box) : Rat := b.y + b.h / 2

/-- The box between four edges. -/
def Box.ofEdges (x1 y1 x2 y2 : Rat) : Box := ⟨(x1 + x2) / 2, (y1 + y2) / 2, x2 - x1, y2 - y1⟩

/-- `detection`. -/
structure Detection where
  bbox : Box
  cls : Int
  score : Rat
  batchIdx : Int
deriving DecidableEq, Repr

/-- `calIou`. -/
def calIou (a b : Box) : FloatQuot :=
  let area1 := a.w * a.h
  let area2 := b.w * b.h
  let wi := min (a.x + a.w / 2) (b.x + b.w / 2) - max (a.x - a.w / 2) (b.x - b.w / 2)
  let hi := min (a.y + a.h / 2) (b.y + b.h / 2) - max (a.y - a.h / 2) (b.y - b.h / 2)
  let areaI := max wi 0 * max hi 0
  fdiv areaI (area1 + area2 - areaI)

/-- `std::sort` with the comparison `b.score < a.score`. -/
structure StdSort where
  sort : List Detection → List Detection
  perm : ∀ dets, (sort dets).Perm dets
  sorted : ∀ dets, (sort dets).Pairwise fun a b => ¬a.score < b.score

/-! ## getDetections -/

/-- The number that the bits of a float stand for, where it is neither an infinity
nor a NaN. -/
def floatOfBits (v : UInt32) (_ : v >>> 23 &&& 0xff ≠ 0xff) : Rat :=
  let sign : Rat := if v >>> 31 = 1 then -1 else 1
  let exp := (v >>> 23 &&& 0xff).toNat
  let frac := (v &&& 0x7fffff).toNat
  if exp = 0 then sign * (frac / 2 ^ 149) else sign * ((2 ^ 23 + frac) * 2 ^ exp / 2 ^ 150)

/-- An element of a BF16 tensor, the upper half of a float that is a number. -/
structure Bf16 where
  src : UInt16
  finite : src.toUInt32 <<< (16 : UInt32) >>> 23 &&& 0xff ≠ 0xff
deriving DecidableEq, Repr

/-- The float of a BF16 element. -/
def Bf16.toFloat (x : Bf16) : Rat := floatOfBits (x.src.toUInt32 <<< (16 : UInt32)) x.finite

/-- What `CVI_NN_TensorPtr` points to, in the format of the tensor: `count`
elements, the floats among them numbers. -/
inductive TensorData
  | fp32 (src : List Rat)
  | int8 (src : List Int8)
  | uint8 (src : List UInt8)
  | bf16 (src : List Bf16)
  | int16 (src : List Int16)
  | unsupported (fmt : Int) (count : Nat)
deriving DecidableEq, Repr

def TensorData.count : TensorData → Nat
  | .fp32 src => src.length
  | .int8 src => src.length
  | .uint8 src => src.length
  | .bf16 src => src.length
  | .int16 src => src.length
  | .unsupported _ count => count

/-- `CVI_TENSOR`. -/
structure Tensor where
  data : TensorData
  qscale : Rat
  zeroPoint : Int
deriving DecidableEq, Repr

/-- `CVI_SHAPE`: its first three dimensions. -/
structure Shape where
  batch : Nat
  channels : Nat
  numBoxes : Nat
deriving DecidableEq, Repr

/-- `data`: the elements of a tensor as floats. -/
def Tensor.toFloats (t : Tensor) : List Rat :=
  match t.data with
  | .fp32 src => src
  | .int8 src => src.map fun x => (x.toInt : Rat) * t.qscale
  | .uint8 src => src.map fun x => (((x.toNat : Int) - t.zeroPoint : Int) : Rat) * t.qscale
  | .bf16 src => src.map Bf16.toFloat
  | .int16 src => src.map fun x => (x.toInt : Rat) * t.qscale
  | .unsupported _ count => List.replicate count 0

/-- The loop over the classes: `max_score` and `max_cls`. -/
def maxScore (data : List Rat) (base numBoxes classesNum j : Nat) : Option (Rat × Nat) :=
  (List.range classesNum).foldlM (fun best c => do
    let s ← data[base + ((4 + c) * numBoxes + j)]?
    return if s > best.1 then (s, c) else best) (-1, 0)

/-- The body of the loop over `j`: `dets` and `det_count`. -/
def decodeBox (data : List Rat) (shape : Shape) (classesNum : Nat) (confThresh : Rat) (b : Nat)
    (s : List Detection × Nat) (j : Nat) : Option (List Detection × Nat) := do
  let base := b * shape.channels * shape.numBoxes
  let best ← maxScore data base shape.numBoxes classesNum j
  if best.1 ≤ confThresh then return s
  else
    let x ← data[base + 0 * shape.numBoxes + j]?
    let y ← data[base + 1 * shape.numBoxes + j]?
    let w ← data[base + 2 * shape.numBoxes + j]?
    let h ← data[base + 3 * shape.numBoxes + j]?
    return (s.1 ++ [⟨⟨x, y, w, h⟩, best.2, best.1, b⟩], s.2 + 1)

/-- The body of the loop over `b`. -/
def decodeBatch (data : List Rat) (shape : Shape) (classesNum : Nat) (confThresh : Rat)
    (s : List Detection × Nat) (b : Nat) : Option (List Detection × Nat) :=
  (List.range shape.numBoxes).foldlM (decodeBox data shape classesNum confThresh b) s

/-- `getDetections`: `dets` afterwards and what is returned, if no element is read
that is not there. -/
def getDetections (output : Tensor) (classesNum : Nat) (outputShape : Shape) (confThresh : Rat)
    (dets : List Detection) : Option (List Detection × Nat) :=
  (List.range outputShape.batch).foldlM
    (decodeBatch output.toFloats outputShape classesNum confThresh) (dets, 0)

/-! ## NMS -/

/-- The condition of `NMS` on two detections, but for the score of the
second. -/
def overlaps (thresh : Rat) (a b : Detection) : Bool :=
  a.batchIdx = b.batchIdx && a.cls = b.cls && (calIou a.bbox b.bbox).gt thresh

/-- The body of the loop over `j`. -/
def suppressAt (thresh : Rat) (i : Nat) (s : List Detection × Int) (j : Nat) :
    List Detection × Int :=
  match s.1[i]?, s.1[j]? with
  | some a, some b =>
    if b.score ≠ 0 ∧ overlaps thresh a b then (s.1.set j { b with score := 0 }, s.2 - 1) else s
  | _, _ => s

/-- The body of the loop over `i`. -/
def suppressRow (thresh : Rat) (total : Nat) (s : List Detection × Int) (i : Nat) :
    List Detection × Int :=
  match s.1[i]? with
  | some a =>
    if a.score = 0 then s
    else (List.range' (i + 1) (total - (i + 1))).foldl (suppressAt thresh i) s
  | none => s

/-- The loop that erases the detections with score zero. -/
def eraseZero : List Detection → List Detection
  | [] => []
  | d :: dets => if d.score = 0 then eraseZero dets else d :: eraseZero dets

/-- `NMS`: the detections and `*total` afterwards. -/
def nms (std : StdSort) (dets : List Detection) (total : Nat) (thresh : Rat) :
    List Detection × Int :=
  if total ≠ 0 then
    let (dets, newCount) :=
      (List.range' 0 total).foldl (suppressRow thresh total) (std.sort dets, (total : Int))
    (eraseZero dets, newCount)
  else (dets, total)

/-! ## correctYoloBoxes -/

/-- A letterbox: the size a picture is scaled to, and where it lies in the
frame. -/
structure Letterbox where
  scale : Rat
  nw : Int
  nh : Int
  padX : Int
  padY : Int
deriving DecidableEq, Repr

/-- The letterbox of a picture in a frame, the same four lines in
`tennis.cpp` (twice), `test_yolo.cpp` and `correctYoloBoxes`. -/
def Letterbox.of (srcW srcH outW outH : Int) : Letterbox :=
  let scale := min ((outW : Rat) / srcW) ((outH : Rat) / srcH)
  let nw := castInt (srcW * scale)
  let nh := castInt (srcH * scale)
  ⟨scale, nw, nh, (outW - nw).tdiv 2, (outH - nh).tdiv 2⟩

/-- No letterbox. -/
def Letterbox.none (w h : Int) : Letterbox := ⟨1, w, h, 0, 0⟩

/-- The way back, the same lines in `tennis.cpp`, `test_yolo.cpp` and
`correctYoloBoxes`: the edges of a box are shifted by the padding, divided by
the scale and clamped, the near ones to zero and the far ones to the size of
the picture. -/
def Letterbox.undo (lb : Letterbox) (imageW imageH : Int) (b : Box) : Box :=
  let x1 := max 0 ((b.left - lb.padX) / lb.scale)
  let y1 := max 0 ((b.top - lb.padY) / lb.scale)
  let x2 := min (imageW : Rat) ((b.right - lb.padX) / lb.scale)
  let y2 := min (imageH : Rat) ((b.bottom - lb.padY) / lb.scale)
  .ofEdges x1 y1 x2 y2

/-- The first `detNum` detections with their boxes rewritten. -/
def mapBoxes (f : Box → Box) (dets : List Detection) (detNum : Nat) : List Detection :=
  (dets.take detNum).map (fun d => { d with bbox := f d.bbox }) ++ dets.drop detNum

/-- `correctYoloBoxes`. -/
def correctYoloBoxes (dets : List Detection) (detNum : Nat)
    (imageH imageW inputHeight inputWidth : Int) : List Detection :=
  let lb := Letterbox.of imageW imageH inputWidth inputHeight
  mapBoxes (lb.undo imageW imageH) dets detNum

end TR.Impl.Detect
