import TennisRobot.Proof.Motor.Overflow
import TennisRobot.Proof.Motor.Pwm
import TennisRobot.Proof.Uart.Commands

/-!
# The two drivers agree

After a call of the `Motor` API a wheel is in the state that the call says, whatever
came before: on the PWM driver because every call sets the enables of all channels
(`bridgeState_call`), on the UART driver because every call sends a command to both
motors (`lastCmd_toldAll`). Both maps of a speed keep its sign, so these are the
same states (`backends_agree`). The speeds of a call are those of its range, for which
the `int`s of `Motor::drive` do not overflow (`driveInt_of_inRange`).
-/

namespace TR.Proof.Motor

open TR.Impl TR.Impl.Motor TR.Impl.Uart TR.Spec TR.Reader
open TR.Impl.Pwm (PwmId Registers LEFT_WHEEL_FORWARD LEFT_WHEEL_BACKWARD RIGHT_WHEEL_FORWARD
  RIGHT_WHEEL_BACKWARD)
open TR.Proof.Uart (Packet calls_callPackets decode_callPackets port)

/-! ## The states -/

/-- The states that a call of a driver says, on the left and on the right. -/
def wheelStates : DriverCall → WheelState × WheelState
  | .drive l r => (speedState l, speedState r)
  | .brake => (.braking, .braking)
  | .standby => (.off, .off)

/-- The channels of a wheel that is driven show its speed. -/
theorem bridgeState_speed (v : Int) :
    bridgeState (decide (0 < v)) (decide (0 < -v)) = speedState v := by
  unfold speedState
  rcases Int.lt_trichotomy v 0 with h | rfl | h
  · simp [bridgeState, h, show ¬ 0 < v by omega]
  · rfl
  · simp [bridgeState, h, show ¬ v < 0 by omega]

/-- After a call the H-bridge has both wheels in the states it says. -/
theorem bridgeState_call (r : Registers) (c : DriverCall) :
    (bridgeState ((Pwm.call r c).enable LEFT_WHEEL_FORWARD)
        ((Pwm.call r c).enable LEFT_WHEEL_BACKWARD),
      bridgeState ((Pwm.call r c).enable RIGHT_WHEEL_FORWARD)
        ((Pwm.call r c).enable RIGHT_WHEEL_BACKWARD)) = wheelStates c := by
  simp only [call_enable]
  cases c with
  | drive left right => exact Prod.ext (bridgeState_speed left) (bridgeState_speed right)
  | brake => rfl
  | standby => rfl

section Speed

variable {m : Int} (h1 : 1 ≤ m) (hm : m ≤ 100)

include h1 hm

/-- What is sent for a speed has the sign of what it is mapped to. -/
theorem speedState_sentSpeed (v : Int) : speedState (sentSpeed m v) = speedState (mapSpeed m v) := by
  unfold speedState
  simp only [gt_iff_lt, sentSpeed_pos_iff h1 hm, sentSpeed_neg_iff h1 hm, mapSpeed_pos_iff h1 hm,
    mapSpeed_neg_iff h1 hm]

/-- The commands of a call tell the wheels the states it says. -/
theorem told_state (c : ApiCall) :
    ((told (sentSpeed m) c).1.state, (told (sentSpeed m) c).2.state) =
      wheelStates (c.motorCall.driverCall m) := by
  cases c with
  | forward s | backward s | left s | right s | drive l r =>
    exact Prod.ext (speedState_sentSpeed h1 hm _) (speedState_sentSpeed h1 hm _)
  | brake => rfl
  | standby => rfl

end Speed

/-- The last commands for the wheels are those of the last call. -/
theorem lastCmd_toldAll (speed : Int → Int) (earlier : List (UInt8 × WheelCmd)) (cs : List ApiCall)
    (c : ApiCall) :
    lastCmd 0 (earlier ++ toldAll speed (cs ++ [c])) = some (told speed c).1 ∧
      lastCmd 1 (earlier ++ toldAll speed (cs ++ [c])) = some (told speed c).2 := by
  have hsnoc : earlier ++ toldAll speed (cs ++ [c]) =
      (earlier ++ toldAll speed cs) ++ [(0, (told speed c).1), (1, (told speed c).2)] := by
    simp [toldAll]
  rw [hsnoc]
  simp [lastCmd]

/-- After the calls `cs` each wheel is in the same state on both drivers: the enables
of its channels, which started as `r`, show the state in which the last command for
it puts the wheel, of those sent `earlier` and those read off what the UART driver has
written. -/
def BackendsAgree (d : UartMotorDriver) (minSpeed : Int) (r : Registers)
    (earlier : List (UInt8 × WheelCmd)) (cs : List ApiCall) : Prop :=
  ∃ (bytes : List (List UInt8)) (ps : List Packet) (cmds : List (UInt8 × WheelCmd)),
    (cs.map fun c => d.call (c.motorCall.driverCall minSpeed)) = bytes.map some ∧
    calls (recvFrame d (some 8) 100) (2 * cs.length) (bytes.flatten.map some) =
      .done (ps.map fun p => (.accepted p.cmd p.len p.payload, 5 + p.payload.length)) [] ∧
    (ps.map fun p => decode p.cmd p.payload) = cmds.map some ∧
    let r' := (cs.map fun c => c.motorCall.driverCall minSpeed).foldl Pwm.call r
    (lastCmd 0 (earlier ++ cmds)).map WheelCmd.state =
        some (bridgeState (r'.enable LEFT_WHEEL_FORWARD) (r'.enable LEFT_WHEEL_BACKWARD)) ∧
      (lastCmd 1 (earlier ++ cmds)).map WheelCmd.state =
        some (bridgeState (r'.enable RIGHT_WHEEL_FORWARD) (r'.enable RIGHT_WHEEL_BACKWARD))

/-- The `int`s of a call with speeds of the range do not overflow. -/
theorem driveInt_of_inRange {m : Int} (h1 : 1 ≤ m) (hm : m ≤ 100) {c : ApiCall} (hc : InRange c)
    {l r : Int} (hd : c.motorCall = .drive l r) :
    driveInt m l r = some (c.motorCall.driverCall m) := by
  have hrange : SpeedInRange l ∧ SpeedInRange r := by
    cases c <;> cases hd <;> unfold InRange SpeedInRange at * <;> omega
  have hmap (v : Int) (hv : SpeedInRange v) : mapSpeedInt m v = some (mapSpeed m v) := by
    obtain ⟨hlo, hhi⟩ := hv
    have hfit : FitsInt v := by
      unfold FitsInt INT_MIN INT_MAX
      omega
    have hprod : ((v.natAbs : Int) - 1) * (100 - m) ≤ 99 * 99 := by
      calc ((v.natAbs : Int) - 1) * (100 - m) ≤ 99 * (100 - m) :=
            Int.mul_le_mul_of_nonneg_right (by omega) (by omega)
        _ ≤ 99 * 99 := Int.mul_le_mul_of_nonneg_left (by omega) (by decide)
    have hproduct : ProductFits m v := by
      unfold ProductFits INT_MIN INT_MAX
      omega
    exact (mapSpeedInt_eq_some_iff (by omega) hm hfit).mpr ⟨hproduct, rfl⟩
  rw [hd]
  exact driveInt_eq_some_iff.mpr ⟨hmap l hrange.1, hmap r hrange.2⟩

/-- After every call of the `Motor` API, with speeds of the range, the two drivers agree,
whatever came before; and no `int` overflows on the way to them. -/
theorem backends_agree (d : UartMotorDriver) (hfd : 0 ≤ d.fd) (hs : d.speedScale = 150)
    (minSpeed : Int) (h1 : 1 ≤ minSpeed) (hm : minSpeed ≤ 100) (r : Registers)
    (earlier : List (UInt8 × WheelCmd)) (cs : List ApiCall) (c : ApiCall)
    (hin : ∀ c' ∈ cs ++ [c], InRange c') :
    BackendsAgree d minSpeed r earlier (cs ++ [c]) ∧
      ∀ c' ∈ cs ++ [c], ∀ l r, c'.motorCall = .drive l r →
        driveInt minSpeed l r = some (c'.motorCall.driverCall minSpeed) := by
  refine ⟨?_, fun c' hc' _ _ hd => driveInt_of_inRange h1 hm (hin c' hc') hd⟩
  obtain ⟨bytes, hbytes, hcalls⟩ :=
    calls_callPackets hfd hs minSpeed (by decide : (0 : Int) < 100) (cs ++ [c])
  refine ⟨bytes, _, _, hbytes, hcalls, decode_callPackets minSpeed (cs ++ [c]), ?_⟩
  obtain ⟨hl, hr⟩ := lastCmd_toldAll (sentSpeed minSpeed) earlier cs c
  have hpwm := bridgeState_call
    ((cs.map fun c' => c'.motorCall.driverCall minSpeed).foldl Pwm.call r)
    (c.motorCall.driverCall minSpeed)
  rw [← told_state h1 hm, Prod.mk.injEq] at hpwm
  dsimp only
  rw [hl, hr, List.map_append, List.foldl_append]
  exact ⟨congrArg some hpwm.1.symm, congrArg some hpwm.2.symm⟩

theorem backends_agree_two :
    BackendsAgree port 15 idle [(0, .brake)] ([.drive (-1) 0] ++ [.right 40]) ∧
      ∀ c' ∈ [ApiCall.drive (-1) 0] ++ [.right 40], ∀ l r, c'.motorCall = .drive l r →
        driveInt 15 l r = some (c'.motorCall.driverCall 15) :=
  backends_agree port (by decide) rfl 15 (by decide) (by decide) idle [(0, .brake)] [.drive (-1) 0]
    (.right 40) (by simp [InRange, SpeedInRange])

end TR.Proof.Motor
