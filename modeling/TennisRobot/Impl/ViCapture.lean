import TennisRobot.Framework.Copy
import TennisRobot.Framework.Machine

/-!
# The camera of the board (`vi_capture.cpp`)

`VICapture`, built with `USE_VPSS_RESIZE`, as a machine (`viCapture`): a step is a
call of one of its methods, its input what the calls of the vendor's library in it
return (the outcome of the call), its outputs these calls. With it goes what `init` calls
of `sample_common_platform.c`, which tears down by itself where it fails. The log, the
timing and the attributes that are set are left out.

What a call for a frame does with the mapped picture stands beside the machine:
`bgrCopy`, `yuvContinuous` and `nv21Copy`. They compute with `int`s by a parameter
`int`, the value of an operation if it has one. Copies are checked: there is no picture
where one leaves a buffer.
-/

namespace TR.Impl.ViCapture

def CVI_SUCCESS : Int := 0
def CVI_FAILURE : Int := -1

/-- A call of the vendor's library, with what it returns where the code looks at it;
and `readResized`, where fields of `stResizedFrame` are read. -/
inductive CviCall
  | viSetDevNum
  | iniToViCfg (ret : Int)
  | getSizeBySensor (ret : Int)
  | getPicSize (ret : Int)
  | commSysInit (ret : Int)
  /-- What `SAMPLE_PLAT_VI_INIT` calls to start sensors, devices, pipes and channels, up to
  the first that fails. -/
  | viStart (ret : Int)
  | destroyIsp
  | destroyVi
  | sysExit
  | createGrp (ret : Int)
  | setChnAttr (ret : Int)
  | enableChn (ret : Int)
  | startGrp (ret : Int)
  | stopGrp
  | disableChn
  | destroyGrp
  | viGetChnFrame (ret : Int)
  | viReleaseChnFrame
  | vpssSendFrame (ret : Int)
  | vpssGetChnFrame (ret : Int)
  | readResized
  | vpssReleaseChnFrame
  | mmapCache (virAddr : Nat) (size : Int)
  | munmap (virAddr : Nat) (size : Int)
deriving DecidableEq, Repr

/-! ## Lifetime -/

open CviCall

/-- `_SAMPLE_PLAT_ERR_Exit`; `sysViNum` is `stViConfigSys.s32WorkingViNum`. -/
def platErrExit (sysViNum : Int) : List CviCall :=
  if sysViNum ≠ 0 then [destroyIsp, destroyVi, sysExit] else [sysExit]

/-- `SAMPLE_PLAT_SYS_INIT`, which returns `ret`. -/
def platSysInit (sysViNum ret : Int) : List CviCall :=
  let calls := [commSysInit ret]
  if ret ≠ CVI_SUCCESS then calls ++ platErrExit sysViNum else calls

/-- `SAMPLE_PLAT_VI_INIT`, which returns `ret`: `stViConfigSys.s32WorkingViNum` afterwards
and the calls. -/
def platViInit (workingViNum ret : Int) : Int × List CviCall :=
  let sysViNum := workingViNum
  let calls := [viStart ret]
  (sysViNum, if ret ≠ CVI_SUCCESS then calls ++ platErrExit sysViNum else calls)

/-- What the calls of `init` return, and what `SAMPLE_COMM_VI_IniToViCfg` leaves in
`m_stViConfig.s32WorkingViNum`. -/
structure InitOutcome where
  iniToViCfg : Int
  workingViNum : Int
  getSizeBySensor : Int
  getPicSize : Int
  commSysInit : Int
  viStart : Int
deriving DecidableEq, Repr

/-- `VICapture::init`: `stViConfigSys.s32WorkingViNum` afterwards, the calls and what is
returned. -/
def init (sysViNum : Int) (o : InitOutcome) : Int × List CviCall × Int :=
  let calls := [viSetDevNum, iniToViCfg o.iniToViCfg]
  if o.iniToViCfg ≠ CVI_SUCCESS then (sysViNum, calls, o.iniToViCfg)
  else
    let calls := calls ++ [getSizeBySensor o.getSizeBySensor]
    if o.getSizeBySensor ≠ CVI_SUCCESS then (sysViNum, calls, o.getSizeBySensor)
    else
      let calls := calls ++ [getPicSize o.getPicSize]
      if o.getPicSize ≠ CVI_SUCCESS then (sysViNum, calls, o.getPicSize)
      else
        let calls := calls ++ platSysInit sysViNum o.commSysInit
        if o.commSysInit ≠ CVI_SUCCESS then (sysViNum, calls, o.commSysInit)
        else
          let (sysViNum, viCalls) := platViInit o.workingViNum o.viStart
          let calls := calls ++ viCalls
          if o.viStart ≠ CVI_SUCCESS then (sysViNum, calls, o.viStart)
          else (sysViNum, calls, CVI_SUCCESS)

/-- `VICapture::deinit`. -/
def deinit : List CviCall := [destroyIsp, destroyVi, sysExit]

/-- What the calls of `initVpssResize` return. -/
structure VpssOutcome where
  createGrp : Int
  setChnAttr : Int
  setChnAttrFallback : Int
  enableChn : Int
  startGrp : Int
deriving DecidableEq, Repr

/-- `VICapture::initVpssResize`: `m_bVpssInited` afterwards, the calls and what is
returned. -/
def initVpssResize (vpssInited : Bool) (o : VpssOutcome) : Bool × List CviCall × Int :=
  if vpssInited then (vpssInited, [], CVI_SUCCESS)
  else
    let calls := [createGrp o.createGrp]
    if o.createGrp ≠ CVI_SUCCESS then (vpssInited, calls, o.createGrp)
    else
      let calls := calls ++ [setChnAttr o.setChnAttr]
      let calls := if o.setChnAttr ≠ CVI_SUCCESS then calls ++ [setChnAttr o.setChnAttrFallback]
        else calls
      if o.setChnAttr ≠ CVI_SUCCESS ∧ o.setChnAttrFallback ≠ CVI_SUCCESS then
        (vpssInited, calls ++ [destroyGrp], o.setChnAttrFallback)
      else
        let calls := calls ++ [enableChn o.enableChn]
        if o.enableChn ≠ CVI_SUCCESS then (vpssInited, calls ++ [destroyGrp], o.enableChn)
        else
          let calls := calls ++ [startGrp o.startGrp]
          if o.startGrp ≠ CVI_SUCCESS then
            (vpssInited, calls ++ [disableChn, destroyGrp], o.startGrp)
          else (true, calls, CVI_SUCCESS)

/-- `VICapture::deinitVpssResize`: `m_bVpssInited` afterwards and the calls. -/
def deinitVpssResize (vpssInited : Bool) : Bool × List CviCall :=
  if vpssInited then (false, [stopGrp, disableChn, destroyGrp]) else (vpssInited, [])

/-! ## Frames -/

/-- The fields of `stResizedFrame` that are read. -/
structure ResizedFrame where
  height : Int
  strideY : Int
  strideUv : Int
  bgr888 : Bool
deriving DecidableEq, Repr

/-- What the calls of `getFrameAsBGR` and `getFrameAsNV21` return. `resized` is what
stands in `stResizedFrame`, also when no frame was written to it, and `virAddr` what
the mapping returns, 0 when it fails. -/
structure FrameOutcome where
  viGetChnFrame : Int
  vpssSendFrame : Int
  vpssGetChnFrame : Int
  resized : ResizedFrame
  virAddr : Nat
deriving DecidableEq, Repr

/-- From the mapping of a frame of the scaler to the end of a call. The mapping is not
looked at: where there is none, the copy from it kills the process, and nothing is
returned. -/
def copyMapped (calls : List CviCall) (virAddr : Nat) (imageSize : Int) :
    List CviCall × Option Int :=
  let calls := calls ++ [mmapCache virAddr imageSize]
  if virAddr = 0 then (calls, none)
  else
    (calls ++ [munmap virAddr imageSize, vpssReleaseChnFrame, viReleaseChnFrame],
      some CVI_SUCCESS)

/-- `VICapture::getFrameAsBGR`: the calls and what is returned. -/
def getFrameAsBGR (vpssInited : Bool) (o : FrameOutcome) : List CviCall × Option Int :=
  let calls := [viGetChnFrame o.viGetChnFrame]
  if o.viGetChnFrame = 0 then
    if !vpssInited then (calls ++ [viReleaseChnFrame], some CVI_FAILURE)
    else
      let calls := calls ++ [vpssSendFrame o.vpssSendFrame]
      if o.vpssSendFrame ≠ CVI_SUCCESS then (calls ++ [viReleaseChnFrame], some CVI_FAILURE)
      else
        -- a failure is logged, and that is all
        let calls := calls ++ [vpssGetChnFrame o.vpssGetChnFrame, readResized]
        if o.resized.bgr888 then
          let imageSize := o.resized.strideY * o.resized.height
          copyMapped calls o.virAddr imageSize
        else
          let ySize := o.resized.strideY * o.resized.height
          let uvSize := (o.resized.strideUv * o.resized.height).tdiv 2
          let imageSize := ySize + uvSize
          copyMapped calls o.virAddr imageSize
  else (calls, some CVI_FAILURE)

/-- `VICapture::getFrameAsNV21`: the calls and what is returned. -/
def getFrameAsNV21 (vpssInited : Bool) (o : FrameOutcome) : List CviCall × Option Int :=
  let calls := [viGetChnFrame o.viGetChnFrame]
  if o.viGetChnFrame ≠ 0 then (calls, some CVI_FAILURE)
  else if !vpssInited then (calls ++ [viReleaseChnFrame], some CVI_FAILURE)
  else
    let calls := calls ++ [vpssSendFrame o.vpssSendFrame]
    if o.vpssSendFrame ≠ CVI_SUCCESS then (calls ++ [viReleaseChnFrame], some CVI_FAILURE)
    else
      let calls := calls ++ [vpssGetChnFrame o.vpssGetChnFrame]
      if o.vpssGetChnFrame ≠ CVI_SUCCESS then (calls ++ [viReleaseChnFrame], some CVI_FAILURE)
      else
        let calls := calls ++ [readResized]
        let ySize := o.resized.strideY * o.resized.height
        let uvSize := (o.resized.strideUv * o.resized.height).tdiv 2
        let imageSize := ySize + uvSize
        copyMapped calls o.virAddr imageSize

/-! ## Pictures -/

/-- The type of a picture's elements. -/
inductive MatType
  | cv8UC1
  | cv8UC3
  | other (bytes : Nat) (pos : 0 < bytes)
deriving DecidableEq, Repr

/-- How many bytes an element has. -/
def MatType.bytes : MatType → Nat
  | .cv8UC1 => 1
  | .cv8UC3 => 3
  | .other bytes _ => bytes

/-- `cv::Mat`, its rows without a gap between them. -/
structure Mat where
  rows : Nat
  cols : Nat
  type : MatType
  data : List UInt8
  length_data : data.length = rows * cols * type.bytes
deriving Repr

/-- `Mat::empty`. -/
def Mat.empty (m : Mat) : Prop := m.rows * m.cols = 0

instance (m : Mat) : Decidable m.empty := inferInstanceAs (Decidable (_ = _))

/-- `Mat::create`; `junk` is what stands in new memory. -/
def Mat.create (rows cols : Nat) (type : MatType) (junk : Nat → UInt8) : Mat where
  rows := rows
  cols := cols
  type := type
  data := (List.range (rows * cols * type.bytes)).map junk
  length_data := by simp

/-- The picture after writes to its memory, which keep its size. -/
def Mat.withData (m : Mat) (data : List UInt8) : Option Mat :=
  if h : data.length = m.data.length then
    some { m with data := data, length_data := h.trans m.length_data }
  else none

/-- The fields of `stResizedFrame.stVFrame` that are read for a copy, as `int`s. -/
structure VFrame where
  width : Nat
  height : Nat
  strideY : Nat
  strideUv : Nat
deriving DecidableEq, Repr

/-- What is mapped at `vir_addr`; `phys` is what stands from `u64PhyAddr[0]` on. -/
def mmapped (phys : Nat → UInt8) (imageSize : Nat) : List UInt8 := (List.range imageSize).map phys

section Copies

variable (int : Nat → Option Nat) (f : VFrame)

/-! ### BGR -/

def copyBgrFast (imageSize : Nat) (vir data : List UInt8) : Option (List UInt8) :=
  blit data 0 vir 0 imageSize

def copyBgrRows (vir data : List UInt8) : Option (List UInt8) := do
  let rowSize ← int (f.width * 3)
  copyRows int data 0 vir 0 f.strideY rowSize f.height

def copyBgr (imageSize : Nat) (vir data : List UInt8) : Option (List UInt8) := do
  let rowSize ← int (f.width * 3)
  if f.strideY = rowSize then copyBgrFast imageSize vir data else copyBgrRows int f vir data

/-- The BGR_888 path of `getFrameAsBGR`: what it makes of `bgr_image`. -/
def bgrCopy (phys junk : Nat → UInt8) (bgrImage : Mat) : Option Mat := do
  let imageSize ← int (f.strideY * f.height)
  let vir := mmapped phys imageSize
  let bgrImage :=
    if bgrImage.empty ∨ bgrImage.rows ≠ f.height ∨ bgrImage.cols ≠ f.width ∨
        bgrImage.type ≠ .cv8UC3 then
      Mat.create f.height f.width .cv8UC3 junk
    else bgrImage
  let data ← copyBgr int f imageSize vir bgrImage.data
  bgrImage.withData data

/-! ### NV21 -/

def copyYFast (vir data : List UInt8) : Option (List UInt8) := do
  blit data 0 vir 0 (← int (f.width * f.height))

def copyYRows (vir data : List UInt8) : Option (List UInt8) :=
  copyRows int data 0 vir 0 f.strideY f.width f.height

def copyY (vir data : List UInt8) : Option (List UInt8) :=
  if f.strideY = f.width then copyYFast int f vir data else copyYRows int f vir data

def copyUvFast (ySize : Nat) (vir data : List UInt8) : Option (List UInt8) := do
  let yBytes ← int (f.width * f.height)
  blit data yBytes vir ySize (yBytes / 2)

def copyUvRows (ySize : Nat) (vir data : List UInt8) : Option (List UInt8) := do
  let yBytes ← int (f.width * f.height)
  copyRows int data yBytes vir ySize f.strideUv f.width (f.height / 2)

def copyUv (ySize : Nat) (vir data : List UInt8) : Option (List UInt8) :=
  if f.strideUv = f.width then copyUvFast int f ySize vir data else copyUvRows int f ySize vir data

/-- Both planes at once. -/
def copyPlanesFast (vir data : List UInt8) : Option (List UInt8) := do
  let yBytes ← int (f.width * f.height)
  blit data 0 vir 0 ((← int (yBytes * 3)) / 2)

def copyPlanesRows (ySize : Nat) (vir data : List UInt8) : Option (List UInt8) := do
  let data ← copyYRows int f vir data
  copyUvRows int f ySize vir data

def copyPlanes (ySize : Nat) (vir data : List UInt8) : Option (List UInt8) :=
  if f.strideY = f.width ∧ f.strideUv = f.width then copyPlanesFast int f vir data
  else copyPlanesRows int f ySize vir data

/-- The NV21 path of `getFrameAsBGR`: `yuv_continuous`, from which it converts. -/
def yuvContinuous (phys junk : Nat → UInt8) : Option Mat := do
  let ySize ← int (f.strideY * f.height)
  let uvSize := (← int (f.strideUv * f.height)) / 2
  let vir := mmapped phys (ySize + uvSize)
  let yuv := Mat.create ((← int (f.height * 3)) / 2) f.width .cv8UC1 junk
  let data ← copyPlanes int f ySize vir yuv.data
  yuv.withData data

/-- `getFrameAsNV21`: what it makes of `nv21_image`, whose type it does not look at. -/
def nv21Copy (phys junk : Nat → UInt8) (nv21Image : Mat) : Option Mat := do
  let ySize ← int (f.strideY * f.height)
  let uvSize := (← int (f.strideUv * f.height)) / 2
  let vir := mmapped phys (ySize + uvSize)
  let rows := (← int (f.height * 3)) / 2
  let nv21Image :=
    if nv21Image.empty ∨ nv21Image.rows ≠ rows ∨ nv21Image.cols ≠ f.width then
      Mat.create rows f.width .cv8UC1 junk
    else nv21Image
  let data ← copyY int f vir nv21Image.data
  let data ← copyUv int f ySize vir data
  nv21Image.withData data

end Copies

/-! ## The machine -/

/-- A call of a method, with its outcome. -/
inductive Call
  | init (o : InitOutcome)
  | initVpssResize (o : VpssOutcome)
  | deinitVpssResize
  | deinit
  | getFrameAsBGR (o : FrameOutcome)
  | getFrameAsNV21 (o : FrameOutcome)
deriving DecidableEq, Repr

/-- `m_bVpssInited`, and `stViConfigSys.s32WorkingViNum`, which is the process's. -/
structure State where
  vpssInited : Bool
  sysViNum : Int
deriving DecidableEq, Repr

/-- A call: the state afterwards, unless the process has died, and the calls that it
makes. -/
def stepAlive (s : State) : Call → Option State × List CviCall
  | .init o => (some { s with sysViNum := (init s.sysViNum o).1 }, (init s.sysViNum o).2.1)
  | .initVpssResize o =>
    (some { s with vpssInited := (initVpssResize s.vpssInited o).1 },
      (initVpssResize s.vpssInited o).2.1)
  | .deinitVpssResize =>
    (some { s with vpssInited := (deinitVpssResize s.vpssInited).1 },
      (deinitVpssResize s.vpssInited).2)
  | .deinit => (some s, deinit)
  | .getFrameAsBGR o =>
    ((getFrameAsBGR s.vpssInited o).2.map fun _ => s, (getFrameAsBGR s.vpssInited o).1)
  | .getFrameAsNV21 o =>
    ((getFrameAsNV21 s.vpssInited o).2.map fun _ => s, (getFrameAsNV21 s.vpssInited o).1)

/-- A call; once the process has died there is none. -/
def step (s : Option State) (c : Call) : Option State × List CviCall :=
  match s with
  | none => (none, [])
  | some s => stepAlive s c

/-- `VICapture`. -/
def viCapture : Machine (Option State) Call CviCall := ⟨step⟩

/-- `VICapture::VICapture`, in a process in which there may have been another before. -/
def construct (sysViNum : Int) : Option State := some ⟨false, sysViNum⟩

/-- `VICapture::~VICapture`. -/
def destructor : List Call := [.deinit, .deinitVpssResize]

/-- Everything that is called from the constructor to the end of the destructor. -/
def lifetime (sysViNum : Int) (calls : List Call) : List CviCall :=
  viCapture.outputs (construct sysViNum) (calls ++ destructor)

end TR.Impl.ViCapture
