import Mathlib.Algebra.Group.Int.Defs
import Mathlib.Data.List.Basic
import TennisRobot.Framework.Machine

/-!
# The camera on the ESP32 (`esp32_capture.cpp`)

`ESP32Capture` as a machine (`esp32Capture`): a step is a call of one of its methods, its
input the arguments and what the system returns in it, its outputs the system calls and the
picture that is handed to the caller. The name of the device, the log and the pixels are
left out.
-/

namespace TR.Impl.Esp32Capture

/-- `ESP32CameraInfo`. -/
structure ESP32CameraInfo where
  width : UInt16
  height : UInt16
  format : UInt8
  connected : UInt8
deriving DecidableEq, Repr

/-- The fields of `ESP32Capture`; `frameBuf` is where the buffer is. -/
structure State where
  fd : Int := -1
  initialized : Bool := false
  frameBuf : Option Nat := none
  targetW : Int := 640
  targetH : Int := 640
  camInfo : ESP32CameraInfo := ⟨0, 0, 0, 0⟩
deriving DecidableEq, Repr

/-- A system call, with what it returns; and a picture of a size for the caller. -/
inductive SysCall
  | openDev (fd : Option Nat)
  | closeDev (fd : Int)
  | camInit (fd : Int) (ret : Int)
  | camGetInfo (fd : Int) (ret : Int)
  | camGetFrame (fd : Int) (frameBuf : Option Nat) (ret : Int)
  | malloc (frameBuf : Option Nat)
  | free (frameBuf : Nat)
  | picture (cols rows : Int)
deriving DecidableEq, Repr

open SysCall

/-- What the system returns in `init`: `fd` is none where `open` fails, and `frameBuf` where
`malloc` does. -/
structure InitOutcome where
  fd : Option Nat
  camInit : Int
  camGetInfo : Int
  camInfo : ESP32CameraInfo
  frameBuf : Option Nat
deriving DecidableEq, Repr

/-- `ESP32Capture::init`: the object afterwards, the calls and what is returned. -/
def init (s : State) (o : InitOutcome) : State × List SysCall × Int :=
  if s.initialized then (s, [], 0)
  else
    let s := { s with fd := o.fd.elim (-1) Nat.cast }
    let calls := [openDev o.fd]
    if s.fd < 0 then (s, calls, -1)
    else
      -- Initialize camera
      let calls := calls ++ [camInit s.fd o.camInit]
      if o.camInit < 0 then ({ s with fd := -1 }, calls ++ [closeDev s.fd], -1)
      else
        -- Get camera info
        let calls := calls ++ [camGetInfo s.fd o.camGetInfo]
        let s := { s with camInfo := ⟨0, 0, 0, 0⟩ }
        if o.camGetInfo < 0 then ({ s with fd := -1 }, calls ++ [closeDev s.fd], -1)
        else
          let s := { s with camInfo := o.camInfo }
          -- Allocate frame buffer
          let s := { s with frameBuf := o.frameBuf }
          let calls := calls ++ [malloc o.frameBuf]
          if s.frameBuf.isNone then ({ s with fd := -1 }, calls ++ [closeDev s.fd], -1)
          else ({ s with initialized := true }, calls, 0)

/-- `ESP32Capture::deinit`. -/
def deinit (s : State) : State × List SysCall :=
  let calls := match s.frameBuf with
    | some a => [free a]
    | none => []
  let calls := if s.fd ≥ 0 then calls ++ [closeDev s.fd] else calls
  ({ s with frameBuf := none, fd := if s.fd ≥ 0 then -1 else s.fd, initialized := false }, calls)

/-- `ESP32Capture::setResize`. -/
def setResize (s : State) (targetW targetH : Int) : State :=
  { s with targetW := targetW, targetH := targetH }

/-- What the system returns in `getFrameAsBGR`; `decoded` is the size of the picture, unless
it is empty. -/
structure FrameOutcome where
  camGetFrame : Int
  decoded : Option (Int × Int)
deriving DecidableEq, Repr

/-- `ESP32Capture::getFrameAsBGR`: the calls and what is returned, if anything is:
`cv::resize` throws where the target is empty, and the caller gets no picture. -/
def getFrameAsBGR (s : State) (o : FrameOutcome) : List SysCall × Option Int :=
  if !s.initialized || s.fd < 0 then ([], some (-1))
  else
    -- Get JPEG frame from kernel driver
    let calls := [camGetFrame s.fd s.frameBuf o.camGetFrame]
    if o.camGetFrame < 0 then (calls, some (-1))
    else if o.camGetFrame = 0 then (calls, some (-1))
    else
      match o.decoded with
      | none => (calls, some (-1))
      | some (cols, rows) =>
        -- Resize to target dimensions
        if cols ≠ s.targetW ∨ rows ≠ s.targetH then
          if s.targetW ≤ 0 ∨ s.targetH ≤ 0 then (calls, none)
          else (calls ++ [picture s.targetW s.targetH], some 0)
        else (calls ++ [picture cols rows], some 0)

/-- A call of a method, with its outcome. -/
inductive Call
  | init (o : InitOutcome)
  | deinit
  | setResize (targetW targetH : Int)
  | getFrameAsBGR (o : FrameOutcome)

/-- A call: the object afterwards, and the system calls. A call that throws leaves the object
as it is, for a caller that goes on. -/
def step (s : State) : Call → State × List SysCall
  | .init o => ((init s o).1, (init s o).2.1)
  | .deinit => deinit s
  | .setResize targetW targetH => (setResize s targetW targetH, [])
  | .getFrameAsBGR o => (s, (getFrameAsBGR s o).1)

/-- `ESP32Capture::ESP32Capture`. -/
def initial : State := {}

/-- `ESP32Capture`. -/
def esp32Capture : Machine State Call SysCall := ⟨step⟩

end TR.Impl.Esp32Capture
