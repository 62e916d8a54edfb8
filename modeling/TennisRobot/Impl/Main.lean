import TennisRobot.Impl.Game
import TennisRobot.Impl.Uart
import TennisRobot.Impl.ViCapture

/-!
# The process (`tennis.cpp`)

`main` from its first line on, as what it does to the world (`Act`): the handlers it
installs for `SIGINT` and `SIGTERM`, the globals it sets for them, and what it writes to the
ports of the chassis and of the arm, one `write` at a time. A signal comes between two
acts. Its handler is `signal_handler`, which calls `cleanup_and_exit`, or, once
`VICapture::init` has gone as far as `SAMPLE_PLAT_SYS_INIT`, the one that this installs
(`sample_common_platform.c`). No handler returns to `main`.

`main` ends where it fails to start, with the destructors of its objects, or runs the loop
until a signal. A signal that comes while these destructors run still finds the objects that
the globals point to. The loop's pulses are written out: with each frame comes how often the
body of a pulse is run. The log, the pauses and the calls of the camera are left out;
`closeCamera` stands for what is called of it in the end.
-/

namespace TR.Impl.Main

open TR.Impl.Arm (ArmCall)
open TR.Impl.Game (Cmd Frame LoopState loopBody)
open TR.Impl.Motor (DriverCall MotorCall)
open TR.Impl.Uart (UartMotorDriver)
open TR.Impl.ViCapture (CviCall CVI_SUCCESS)

/-- The signals that are handled. -/
inductive Signal
  | SIGINT
  | SIGTERM
deriving DecidableEq, Repr

/-- What is done with a signal. -/
inductive Handler
  | default
  | signalHandler
  | platSysHandleSig
deriving DecidableEq, Repr

/-- Something that the process does. -/
inductive Act
  | sigaction (sig : Signal) (h : Handler)
  /-- `g_motor`, `g_capture` (or its like in the other builds) and `g_model` are set. -/
  | setMotor
  | setCapture
  | setModel
  | chassis (bytes : List UInt8)
  | servo (text : List Char)
  | closeCamera
  | cleanupModel
  /-- `_SAMPLE_PLAT_ERR_Exit`. -/
  | platErrExit
deriving DecidableEq, Repr

/-- How the camera starts, in each build. -/
inductive Camera
  | esp32 (inited : Bool)
  | uvc (opened : Bool)
  | vi (init : ViCapture.InitOutcome) (vpss : ViCapture.VpssOutcome)
deriving DecidableEq, Repr

/-- What `main` finds when it starts: the files of the chassis and of the arm, with a
negative number where the port is not opened, the offset of the command line, the camera, and
whether the model loads. -/
structure Config where
  motorFd : Int
  armFd : Int
  stopCenterOffset : Int
  camera : Camera
  modelLoads : Bool
deriving DecidableEq, Repr

/-- `Motor::Motor`: the driver, with the default arguments of its constructor. -/
def Config.motor (cfg : Config) : UartMotorDriver := ⟨cfg.motorFd, 150, 4680, 20000⟩

/-- `motor.set_min_speed(15)`. -/
def MIN_SPEED : Int := 15

/-! ## The ports -/

/-- A call of `Motor`. -/
def motorActs (d : UartMotorDriver) (c : MotorCall) : Option (List Act) := do
  return (← d.writes (c.driverCall MIN_SPEED)).map .chassis

/-- A movement of the arm, with the buffer of `set_angle`. -/
def armActs (fd : Int) (c : ArmCall) : List Act :=
  (c.servoCmds.map fun s => Arm.sendCommand fd (snprintf 32 s.text)).filter (· ≠ []) |>.map .servo

/-- A command of the loop, with a pulse whose body is run `n` times. -/
def cmdActs (cfg : Config) (n : Nat) : Cmd → Option (List Act)
  | .motor c => motorActs cfg.motor c
  | .pulse c _ => return (List.replicate n (← motorActs cfg.motor c)).flatten
  | .arm c => some (armActs cfg.armFd c)

/-! ## Handlers -/

/-- What is done with a signal after some acts. -/
def handlerOf (sig : Signal) (acts : List Act) : Handler :=
  acts.foldl (fun h act =>
    match act with
    | .sigaction sig' h' => if sig' = sig then h' else h
    | _ => h) .default

/-- `cleanup_and_exit`. -/
def cleanupActs (cfg : Config) (acts : List Act) : Option (List Act) := do
  let motor ← if .setMotor ∈ acts then motorActs cfg.motor .standby else some []
  let camera := if .setCapture ∈ acts then [.closeCamera] else []
  let model := if .setModel ∈ acts then [.cleanupModel] else []
  return motor ++ camera ++ model

/-- What a signal makes the process do, after which it ends. -/
def onSignal (cfg : Config) (sig : Signal) (acts : List Act) : Option (List Act) :=
  match handlerOf sig acts with
  | .default => some []
  | .signalHandler => cleanupActs cfg acts
  | .platSysHandleSig => some [.platErrExit]

/-! ## main -/

/-- Both signals are handled by `h`. -/
def handleBoth (h : Handler) : List Act := [.sigaction .SIGINT h, .sigaction .SIGTERM h]

/-- The calls of `VICapture::init`: before it starts the system `SAMPLE_PLAT_SYS_INIT`
installs handlers, and only `_SAMPLE_PLAT_ERR_Exit` ends it. -/
def viInitActs (calls : List CviCall) : List Act :=
  calls.flatMap fun
    | .commSysInit _ => handleBoth .platSysHandleSig
    | .sysExit => [.platErrExit]
    | _ => []

/-- The start of the camera, and whether it succeeds. -/
def cameraActs : Camera → List Act × Bool
  | .esp32 inited => ([.setCapture], inited)
  | .uvc opened => ([.setCapture], opened)
  | .vi init vpss =>
    -- `stViConfigSys` is still zero
    let (_, calls, ret) := ViCapture.init 0 init
    let acts := .setCapture :: viInitActs calls
    if ret ≠ CVI_SUCCESS then (acts, false)
    else if (ViCapture.initVpssResize false vpss).2.2 ≠ CVI_SUCCESS then
      (acts ++ [.closeCamera], false)
    else (acts, true)

/-- The destructors of the camera, of the arm and of the motor, when `main` returns. -/
def destructActs (cfg : Config) : Option (List Act) := do
  return .closeCamera :: (← cfg.motor.destructWrites).map .chassis

/-- Up to the camera, and whether it has started. -/
def startActs (cfg : Config) : Option (List Act × Bool) := do
  let motor := (← cfg.motor.constructWrites).map .chassis
  let (camera, started) := cameraActs cfg.camera
  return (handleBoth .signalHandler ++ motor ++ [.setMotor] ++ armActs cfg.armFd .grabPos ++ camera,
    started)

/-- The loop, on frames and the number of times that a pulse is run there. -/
def loopActs (cfg : Config) (s : LoopState) : List (Option Frame × Nat) → Option (List Act)
  | [] => some []
  | (f, n) :: fs => do
    let (s, cmds) := loopBody cfg.stopCenterOffset s f
    let acts ← cmds.mapM (cmdActs cfg n)
    return acts.flatten ++ (← loopActs cfg s fs)

/-- What `main` does when the loop sees `fs`. -/
def mainActs (cfg : Config) (fs : List (Option Frame × Nat)) : Option (List Act) := do
  let (start, started) ← startActs cfg
  if !started then return start ++ (← destructActs cfg)
  else if !cfg.modelLoads then
    return start ++ (← cleanupActs cfg start) ++ (← destructActs cfg)
  else return start ++ [.setModel] ++ (← loopActs cfg .init fs)

/-- The whole life of a process that gets a signal after `k` acts. -/
def killedActs (cfg : Config) (fs : List (Option Frame × Nat)) (k : Nat) (sig : Signal) :
    Option (List Act) := do
  let acts := (← mainActs cfg fs).take k
  return acts ++ (← onSignal cfg sig acts)

end TR.Impl.Main
