import TennisRobot.Impl.Detect
import TennisRobot.Impl.Game
import TennisRobot.Impl.UvcCapture

/-!
# From a picture to a frame of the loop

What an iteration of `tennis.cpp` does with a picture before it decides
(`observe`), in each of the three builds: the letterbox of the camera
(`uvcGrabBgr`) and of the model (`modelLetterbox`), the ball (`findBalls`,
`bestBall`) and the bucket (`detectBucketBgr`). The pixels are not modelled: a
picture is its size, the outer contours of its red regions and what
`getDetections` makes of the model's output. No picture is empty. Where it comes from is
modelled for the USB camera: `uvcGrab` decodes the bytes of a frame, and rounds where the
code does. `testYolo` is the same for the calibration tool.
-/

namespace TR.Impl.Perception

open TR.Impl.Detect
open TR.Impl.Game (BucketResult Ball Frame)

def FRAME_WIDTH : Int := 640
def FRAME_HEIGHT : Int := 640

def BUCKET_MIN_AREA : Int := 1000

/-- The camera, a choice of the build. -/
inductive Build
  | esp32
  | uvc
  | vi
deriving DecidableEq, Repr

/-- `cv::Rect`. -/
structure Rect where
  x : Int
  y : Int
  width : Int
  height : Int
deriving DecidableEq, Repr

/-- An outer contour: its `contourArea` and its `boundingRect`. -/
structure Contour where
  area : Rat
  rect : Rect
deriving DecidableEq, Repr

/-- A picture of the camera: its size, the contours of the red mask of the
frame made from it, and the detections of the model. -/
structure Shot where
  cols : Int
  rows : Int
  contours : List Contour
  dets : List Detection
deriving DecidableEq, Repr

/-- What does not change between iterations: the build, the size of the model's
input and `std::sort`. -/
structure Config where
  build : Build
  modelW : Int
  modelH : Int
  std : StdSort

/-! ## The USB camera -/

def UVC_CAP_WIDTH : Int := 640
def UVC_CAP_HEIGHT : Int := 480

/-- The size of the buffer of `uvc_grab_bgr`. -/
def uvcBufSize : Nat := (UVC_CAP_WIDTH * UVC_CAP_HEIGHT * 2 + 65536).toNat

/-- A decoded picture: the way it is decoded, and its size. -/
structure Decoded where
  decoder : UvcCapture.PixelFormat
  cols : Int
  rows : Int
deriving DecidableEq, Repr

/-- The size of a picture that is not empty. -/
structure PictureSize where
  cols : Int
  rows : Int
  cols_pos : 0 < cols
  rows_pos : 0 < rows
deriving DecidableEq, Repr

/-- What `uvc_grab_bgr` makes of `n` bytes in `buf`: the picture, or nothing where it
returns `false`. `imdecode` is the size of the picture in a text, unless it is empty. -/
def uvcDecode (imdecode : List UInt8 → Option PictureSize) (buf : List UInt8) (n : Int) :
    Option Decoded :=
  if n ≤ 0 then none
  else if n ≥ 2 ∧ buf[0]? = some 0xFF ∧ buf[1]? = some 0xD8 then
    (imdecode (buf.take n.toNat)).map fun size => ⟨.MJPEG, size.cols, size.rows⟩
  else if n = UVC_CAP_WIDTH * UVC_CAP_HEIGHT * 2 then
    some ⟨.YUYV, UVC_CAP_WIDTH, UVC_CAP_HEIGHT⟩
  else none

/-- `scale` of `letterbox`, rounded as a `float` is. -/
def letterboxScale (srcW srcH outW outH : Int) : Rat :=
  min (float (float outW / float srcW)) (float (float outH / float srcH))

/-- `nw` and `nh` of `letterbox`. -/
def letterboxSide (src : Int) (scale : Rat) : Int := castInt (float (float src * scale))

/-- `letterbox`. It throws where `cv::resize` is given an empty size, or the picture does
not lie in the frame. -/
def letterbox (srcW srcH outW outH : Int) : Option Letterbox :=
  let scale := letterboxScale srcW srcH outW outH
  let nw := letterboxSide srcW scale
  let nh := letterboxSide srcH scale
  let padX := (outW - nw).tdiv 2
  let padY := (outH - nh).tdiv 2
  if nw ≤ 0 ∨ nh ≤ 0 then none
  else if padX < 0 ∨ padY < 0 ∨ outW < padX + nw ∨ outH < padY + nh then none
  else some ⟨scale, nw, nh, padX, padY⟩

/-- The letterbox that `uvc_grab_bgr` leaves for a decoded picture. -/
def uvcLetterbox (decoded : Decoded) : Option Letterbox :=
  if decoded.cols ≠ FRAME_WIDTH ∨ decoded.rows ≠ FRAME_HEIGHT then
    letterbox decoded.cols decoded.rows FRAME_WIDTH FRAME_HEIGHT
  else some (.none FRAME_WIDTH FRAME_HEIGHT)

/-- `uvc_grab_bgr`: the picture and its letterbox, or nothing where it returns `false`;
`held` is what `buf` holds from before. It has no result where a copy leaves a buffer, or
`letterbox` throws. -/
def uvcGrab (imdecode : List UInt8 → Option PictureSize) (cam : UvcCapture.State)
    (mem held : Nat → UInt8) (o : UvcCapture.FrameOutcome) :
    Option (Option (Decoded × Letterbox)) := do
  let buf := (List.range uvcBufSize).map held
  let (buf, n) ← UvcCapture.getFrameInto cam mem buf 300 o
  match uvcDecode imdecode buf n with
  | none => return none
  | some decoded => return some (decoded, ← uvcLetterbox decoded)

/-! ## Letterboxes -/

/-- The letterbox that `uvc_grab_bgr` leaves in `g_lb_scale`, `g_lb_pad_x` and
`g_lb_pad_y`. -/
def uvcGrabBgr (camW camH : Int) : Letterbox :=
  if camW ≠ FRAME_WIDTH ∨ camH ≠ FRAME_HEIGHT then Letterbox.of camW camH FRAME_WIDTH FRAME_HEIGHT
  else Letterbox.none FRAME_WIDTH FRAME_HEIGHT

/-- The letterbox of a frame in the input of the model. -/
def modelLetterbox (imgW imgH modelW modelH : Int) : Letterbox :=
  if imgW = modelW ∧ imgH = modelH then Letterbox.none imgW imgH
  else Letterbox.of imgW imgH modelW modelH

/-- Undo the letterbox of the camera, unless there is none. -/
def undoCamera (lb : Letterbox) (camW camH : Int) (dets : List Detection) (detNum : Nat) :
    List Detection :=
  if lb.scale ≠ 1 ∨ lb.padX ≠ 0 ∨ lb.padY ≠ 0 then mapBoxes (lb.undo camW camH) dets detNum
  else dets

/-! ## The ball -/

/-- The size of the frame. -/
def frameSize (cfg : Config) (s : Shot) : Int × Int :=
  match cfg.build with
  | .uvc => (FRAME_WIDTH, FRAME_HEIGHT)
  | _ => (s.cols, s.rows)

/-- From the input of the model to the camera's picture. -/
def cameraBoxes (cfg : Config) (s : Shot) (dets : List Detection) (detNum : Nat) :
    List Detection :=
  let (imgW, imgH) := frameSize cfg s
  let dets := correctYoloBoxes dets detNum imgH imgW cfg.modelH cfg.modelW
  match cfg.build with
  | .uvc => undoCamera (uvcGrabBgr s.cols s.rows) s.cols s.rows dets detNum
  | _ => dets

/-- The detections of a picture. -/
def findBalls (cfg : Config) (s : Shot) : List Detection :=
  let (dets, detNum) := nms cfg.std s.dets s.dets.length (45 / 100)
  cameraBoxes cfg s dets detNum.toNat

/-- The largest detection. -/
def bestBall : List Detection → Option Detection
  | [] => none
  | d :: dets => some (dets.foldl
      (fun best d => if d.bbox.w * d.bbox.h > best.bbox.w * best.bbox.h then d else best) d)

/-! ## The bucket -/

/-- The loop over the contours: the largest area and where it was found. -/
def bestContour (contours : List Contour) : Option Contour × Rat :=
  contours.foldl (fun (best, bestArea) c =>
    if c.area > bestArea then (some c, c.area) else (best, bestArea)) (none, 0)

/-- `detect_bucket_bgr` on a frame of `cols` times `rows` pixels. -/
def detectBucketBgr (cols rows : Int) (contours : List Contour) (minArea : Int) :
    Option BucketResult :=
  match bestContour contours with
  | (none, _) => none
  | (some c, bestArea) =>
    if bestArea < minArea then none
    else
      let r := c.rect
      some {
        areaRatio := bestArea / (cols * rows : Int)
        x := r.x
        y := r.y
        w := r.width
        h := r.height
        cx := r.x + r.width.tdiv 2
        cy := r.y + r.height.tdiv 2 }

/-! ## The frame -/

/-- What an iteration sees of a picture. The area of the ball is a part of the
camera's picture in the UVC build, else of the frame; the area of the bucket is
always a part of the frame. -/
def observe (cfg : Config) (s : Shot) : Frame :=
  let (imgW, imgH) := frameSize cfg s
  let (ballW, ballH) : Int × Int :=
    match cfg.build with
    | .uvc => (s.cols, s.rows)
    | _ => (imgW, imgH)
  { halfW := imgW.tdiv 2
    camHalfW := ballW.tdiv 2
    bucket := detectBucketBgr imgW imgH s.contours BUCKET_MIN_AREA
    ball := (bestBall (findBalls cfg s)).map fun d =>
      { areaRatio := d.bbox.w * d.bbox.h / (ballW * ballH : Int)
        cx := castInt d.bbox.x } }

/-- What an iteration sees of a picture for which the model puts out `output`; the only class
is the ball. There is no result where an element is read that is not there. -/
def observeOutput (cfg : Config) (s : Shot) (output : Tensor) (outputShape : Shape) :
    Option Frame := do
  let (dets, _) ← getDetections output 1 outputShape (1 / 2) []
  return observe cfg { s with dets := dets }

/-! ## The calibration tool (`test_yolo.cpp`) -/

def MODEL_W : Int := 640
def MODEL_H : Int := 640

/-- The letterbox of `main`. -/
def testYoloLetterbox (camW camH : Int) : Letterbox :=
  if camW ≠ MODEL_W ∨ camH ≠ MODEL_H then Letterbox.of camW camH MODEL_W MODEL_H
  else Letterbox.none MODEL_W MODEL_H

/-- From the input of the model to the camera's picture, as the tool does it. -/
def testYoloBoxes (cfg : Config) (s : Shot) (dets : List Detection) (detNum : Nat) :
    List Detection :=
  let dets := correctYoloBoxes dets detNum s.rows s.cols cfg.modelH cfg.modelW
  undoCamera (testYoloLetterbox s.cols s.rows) s.cols s.rows dets dets.length

/-- The detections that the tool reports. -/
def testYolo (cfg : Config) (s : Shot) : List Detection :=
  let (dets, detNum) := nms cfg.std s.dets s.dets.length (45 / 100)
  testYoloBoxes cfg s dets detNum.toNat

end TR.Impl.Perception
