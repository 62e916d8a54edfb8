import Mathlib.Algebra.Group.Int.Defs
import Mathlib.Algebra.Group.Nat.Defs
import Mathlib.Data.List.Basic
import TennisRobot.Framework.Copy
import TennisRobot.Framework.Machine

/-!
# The USB camera (`uvc_capture.cpp`)

`UvcCapture` as a machine (`uvcCapture`): a step is a call of one of its methods, its
input the arguments and what the kernel returns in it (the outcome of the call), its
outputs the system calls, and the copy of a frame. The name of the device and the log are
left out. There is memory for every `calloc`. What a frame holds stands beside the machine,
in `getFrameInto`.
-/

namespace TR.Impl.UvcCapture

def BUFFER_COUNT : Nat := 4

/-- `__u32` to `int`. -/
def toInt (x : UInt32) : Int := x.toInt32.toInt

/-- `int` to `size_t`, of 64 bits. -/
def toSizeT (n : Int) : Nat := (n % 2 ^ 64).toNat

/-- What the `void*` of a buffer holds; no mapping is at `nullptr`. -/
inductive Start
  | nullptr
  | MAP_FAILED
  | mapped (address : Nat)
deriving DecidableEq, Repr

/-- `UvcCapture::Buffer`. -/
structure Buffer where
  start : Start
  length : Nat
deriving DecidableEq, Repr

def Buffer.zero : Buffer := ⟨.nullptr, 0⟩

/-- The fields of `UvcCapture`; `buffers` is what `buffers_` points to. -/
structure State where
  fd : Int := -1
  buffers : Option (List Buffer) := none
  bufferCount : Int := 0
  width : Int := 640
  height : Int := 480
deriving DecidableEq, Repr

inductive PixelFormat
  | MJPEG
  | YUYV
deriving DecidableEq, Repr

/-- A system call, with what it returns; the copy of a frame; and `outOfBounds`, an access
to `buffers_` where there is no buffer. -/
inductive SysCall
  | openDev (deviceIndex : Int) (fd : Option Nat)
  | closeDev (fd : Int)
  | queryCap (ret : Int)
  | sFmt (pixelformat : PixelFormat) (width height : Int) (ret : Int)
  | gFmt (ret : Int)
  | reqBufs (count : Nat) (ret : Int)
  | calloc (buffers : Option Nat)
  | free (buffers : Nat)
  | queryBuf (index : Nat) (ret : Int)
  | mmap (length : Nat) (start : Start)
  | munmap (start : Start) (length : Nat)
  | qBuf (index : Nat) (ret : Int)
  | dqBuf (index : Nat) (ret : Int)
  | streamOn (ret : Int)
  | streamOff
  | select (tvSec tvUsec : Int) (ret : Int)
  | memcpy (start : Start) (length : Nat)
  | outOfBounds
deriving DecidableEq, Repr

open SysCall

/-! ## Closing -/

/-- A round of the loop of `close`, for the buffer at its index. -/
def unmap : Option Buffer → List SysCall
  | some ⟨.mapped a, length⟩ => [munmap (.mapped a) length]
  | some _ => []
  | none => [outOfBounds]

/-- `UvcCapture::close`. -/
def close (s : State) : State × List SysCall :=
  let calls := if 0 ≤ s.fd then [streamOff] else []
  let calls := match s.buffers with
    | some buffers =>
      calls ++ (List.range s.bufferCount.toNat).flatMap (fun i => unmap buffers[i]?) ++
        [free buffers.length]
    | none => calls
  let calls := if 0 ≤ s.fd then calls ++ [closeDev s.fd] else calls
  ({ s with buffers := none, bufferCount := 0, fd := if 0 ≤ s.fd then -1 else s.fd }, calls)

/-! ## Opening -/

/-- What the kernel returns in `open`. `fd` is none where `::open` fails, with -1, and
`mmap` none where `mmap` fails, with `MAP_FAILED`. -/
structure OpenOutcome where
  fd : Option Nat
  queryCap : Int
  sFmtMjpeg : Int
  sFmtYuyv : Int
  gFmt : Int
  pixWidth : UInt32
  pixHeight : UInt32
  reqBufs : Int
  count : UInt32
  queryBuf : Nat → Int
  length : Nat → UInt32
  mmap : Nat → Option Nat
  qBuf : Nat → Int
  streamOn : Int

/-- `buffers_ = calloc(buffer_count_, sizeof(Buffer))`; of a negative count the size
overflows. -/
def State.allocate (s : State) : State :=
  { s with
    buffers := if s.bufferCount < 0 then none else some (List.replicate s.bufferCount.toNat .zero) }

/-- `buffers_[i]` is written. -/
def State.setBuffer (s : State) (i : Nat) (b : Buffer) : State :=
  { s with buffers := s.buffers.map (·.set i b) }

/-- `n` rounds of the loop that maps the buffers, the first for buffer `i`, and whether
they went through. -/
def mapBuffers (o : OpenOutcome) : Nat → Nat → State → State × List SysCall × Bool
  | 0, _, s => (s, [], true)
  | n + 1, i, s =>
    let calls := [queryBuf i (o.queryBuf i)]
    if o.queryBuf i < 0 then (s, calls, false)
    else
      let length := (o.length i).toNat
      match o.mmap i with
      | none => (s.setBuffer i ⟨.MAP_FAILED, length⟩, calls ++ [mmap length .MAP_FAILED], false)
      | some a =>
        let r := mapBuffers o n (i + 1) (s.setBuffer i ⟨.mapped a, length⟩)
        (r.1, calls ++ [mmap length (.mapped a)] ++ r.2.1, r.2.2)

/-- `n` rounds of the loop that enqueues the buffers. -/
def queueBuffers (o : OpenOutcome) : Nat → Nat → List SysCall × Bool
  | 0, _ => ([], true)
  | n + 1, i =>
    let calls := [qBuf i (o.qBuf i)]
    if o.qBuf i < 0 then (calls, false)
    else
      let r := queueBuffers o n (i + 1)
      (calls ++ r.1, r.2)

/-- `close(); return -1;` -/
def closeAndFail (s : State) (calls : List SysCall) : State × List SysCall × Int :=
  ((close s).1, calls ++ (close s).2, -1)

/-- `UvcCapture::open`, from "5. Map buffers" on. -/
def openBuffers (s : State) (calls : List SysCall) (o : OpenOutcome) :
    State × List SysCall × Int :=
  let s := s.allocate
  let calls := calls ++ [calloc (s.buffers.map List.length)]
  let m := mapBuffers o s.bufferCount.toNat 0 s
  let s := m.1
  let calls := calls ++ m.2.1
  if m.2.2 = false then closeAndFail s calls
  else
    -- 6. Enqueue all buffers
    let q := queueBuffers o s.bufferCount.toNat 0
    let calls := calls ++ q.1
    if q.2 = false then closeAndFail s calls
    else
      -- 7. Start streaming
      let calls := calls ++ [streamOn o.streamOn]
      if o.streamOn < 0 then closeAndFail s calls else (s, calls, 0)

/-- `UvcCapture::open`: the object afterwards, the calls and what is returned. -/
def open_ (s : State) (deviceIndex width height : Int) (o : OpenOutcome) :
    State × List SysCall × Int :=
  let s := { s with width := width, height := height }
  -- 1. Open device
  let s := { s with fd := o.fd.elim (-1) Nat.cast }
  let calls := [openDev deviceIndex o.fd]
  if s.fd < 0 then (s, calls, -1)
  else
    -- 2. Query capability
    let calls := calls ++ [queryCap o.queryCap]
    if o.queryCap < 0 then closeAndFail s calls
    else
      -- 3. Set format
      let calls := calls ++ [sFmt .MJPEG width height o.sFmtMjpeg]
      let calls := if o.sFmtMjpeg < 0 then calls ++ [sFmt .YUYV width height o.sFmtYuyv] else calls
      if o.sFmtMjpeg < 0 ∧ o.sFmtYuyv < 0 then closeAndFail s calls
      else
        let calls := calls ++ [gFmt o.gFmt]
        if o.gFmt < 0 then closeAndFail s calls
        else
          let s := { s with width := toInt o.pixWidth, height := toInt o.pixHeight }
          -- 4. Request buffers
          let calls := calls ++ [reqBufs BUFFER_COUNT o.reqBufs]
          if o.reqBufs < 0 ∨ o.count < 2 then closeAndFail s calls
          else openBuffers { s with bufferCount := toInt o.count } calls o

/-! ## Frames -/

/-- What the kernel returns in `getFrame`. -/
structure FrameOutcome where
  select : Int
  dqBuf : Int
  index : UInt32
  bytesused : UInt32
  qBuf : Int
deriving DecidableEq, Repr

/-- `UvcCapture::getFrame`: the calls and what is returned. -/
def getFrame (s : State) (cap : Nat) (timeoutMs : Int) (o : FrameOutcome) :
    List SysCall × Int :=
  if s.fd < 0 then ([], -1)
  else
    let calls := [select (timeoutMs.tdiv 1000) (timeoutMs.tmod 1000 * 1000) o.select]
    if o.select ≤ 0 then (calls, -1)
    else
      let calls := calls ++ [dqBuf o.index.toNat o.dqBuf]
      if o.dqBuf < 0 then (calls, -1)
      else
        let size := toInt o.bytesused
        let copyLen := if toSizeT size < cap then toSizeT size else cap
        let calls := calls ++ match s.buffers.bind (·[o.index.toNat]?) with
          | some b => [memcpy b.start copyLen]
          | none => [outOfBounds]
        (calls ++ [qBuf o.index.toNat o.qBuf], (copyLen : Int).bmod (2 ^ 32))

/-- What a system call leaves in the caller's buffer, with `mem` in the memory of the
process; nothing where a copy leaves the buffer, or nothing is mapped. -/
def copyCall (mem : Nat → UInt8) (buf : List UInt8) : SysCall → Option (List UInt8)
  | .memcpy (.mapped a) length =>
    blit buf 0 ((List.range length).map fun k => mem (a + k)) 0 length
  | .memcpy _ _ => none
  | .outOfBounds => none
  | _ => some buf

/-- `UvcCapture::getFrame`, with the caller's buffer: what is in it then, and what is
returned. -/
def getFrameInto (s : State) (mem : Nat → UInt8) (buf : List UInt8) (timeoutMs : Int)
    (o : FrameOutcome) : Option (List UInt8 × Int) := do
  let r := getFrame s buf.length timeoutMs o
  return (← r.1.foldlM (copyCall mem) buf, r.2)

/-! ## The machine -/

/-- A call of a method, with its outcome. -/
inductive Call
  | open_ (deviceIndex width height : Int) (o : OpenOutcome)
  | close
  | getFrame (cap : Nat) (timeoutMs : Int) (o : FrameOutcome)

/-- A call: the object afterwards, and the system calls. -/
def step (s : State) : Call → State × List SysCall
  | .open_ deviceIndex width height o =>
    ((open_ s deviceIndex width height o).1, (open_ s deviceIndex width height o).2.1)
  | .close => close s
  | .getFrame cap timeoutMs o => (s, (getFrame s cap timeoutMs o).1)

/-- `UvcCapture::UvcCapture`. -/
def initial : State := {}

/-- `UvcCapture`. -/
def uvcCapture : Machine State Call SysCall := ⟨step⟩

end TR.Impl.UvcCapture
