import TennisRobot.Impl.Pwm
import TennisRobot.Spec.Wheels
import Mathlib.Data.Fintype.Basic
import Mathlib.Tactic.FinCases

/-!
# The registers of the PWM driver

A call of the driver sets the enable of every channel (`call_enable`), but not
every duty cycle: `drive` writes that of a channel only when it drives the wheel
its way, and `brake` writes none (`call_dutyCycle`). A duty cycle is therefore the
last one written (`dutyCycle_calls`), and the channels that `brake` enables put out
what earlier calls have left there: after it both wheels are braked, but two histories
with the same last call have the same outputs exactly when that call is not `brake`, or
when they have last written the same duty cycles (`outputs_eq_iff`, `brake_keeps_duty`).
The duty cycle of a speed is `PERIOD` less a hundredth of it for each unit, but one less
for three of them (`dutyOf_eq`).
-/

namespace TR.Proof.Motor

open TR.Impl.Pwm TR.Spec
open TR.Impl.Motor (DriverCall)

/-! ## What a call sets -/

/-- At 56, 68 and 81 the `double` is just below the duty cycle that was meant. -/
theorem dutyOf_eq (speed : Int) : dutyOf speed =
    PERIOD - 100 * max 0 (min speed 100) -
      if max 0 (min speed 100) ∈ [56, 68, 81] then 1 else 0 := by
  have hall : ∀ v : Fin 101, castInt (double (PERIOD - double (double ((v : Int) / 100) * PERIOD))) =
      PERIOD - 100 * v - if (v : Int) ∈ [56, 68, 81] then 1 else 0 := by decide +kernel
  have hclamp : (if (if speed < 0 then 0 else speed) > 100 then 100
      else if speed < 0 then 0 else speed) = max 0 (min speed 100) := by
    split_ifs <;> omega
  have hv := hall ⟨(max 0 (min speed 100)).toNat, by omega⟩
  rw [show (((⟨(max 0 (min speed 100)).toNat, by omega⟩ : Fin 101) : Nat) : Int) =
    max 0 (min speed 100) from Int.toNat_of_nonneg (le_max_left ..)] at hv
  dsimp only [dutyOf]
  rw [hclamp]
  exact hv

/-- The speed at which a call of `drive` turns a wheel the way of a channel. -/
def along (ch : PwmId) (leftSpeed rightSpeed : Int) : Int :=
  if ch = LEFT_WHEEL_FORWARD then leftSpeed
  else if ch = LEFT_WHEEL_BACKWARD then -leftSpeed
  else if ch = RIGHT_WHEEL_FORWARD then rightSpeed
  else -rightSpeed

/-- What is added to the speed of a channel. -/
def trim (ch : PwmId) : Int :=
  if ch = RIGHT_WHEEL_FORWARD ∨ ch = RIGHT_WHEEL_BACKWARD then 2 else 0

/-- The duty cycle a call writes to a channel, if it writes one. -/
def dutyWritten (ch : PwmId) : DriverCall → Option Int
  | .drive l r => if 0 < along ch l r then some (dutyOf (along ch l r + trim ch)) else none
  | .brake => none
  | .standby => none

/-- Whether a call enables a channel. -/
def enabled (ch : PwmId) : DriverCall → Bool
  | .drive l r => decide (0 < along ch l r)
  | .brake => true
  | .standby => false

/-! ## The registers after a call -/

section Registers

variable (r : Registers) (id ch : PwmId) (on : Bool) (v : Int)

@[simp] theorem setPwmEnable_enable :
    (setPwmEnable id on r).enable ch = if ch = id then on else r.enable ch :=
  Function.update_apply ..

@[simp] theorem setPwmEnable_dutyCycle : (setPwmEnable id on r).dutyCycle = r.dutyCycle := rfl

@[simp] theorem setSpeed_enable : (setSpeed id v r).enable = r.enable := rfl

@[simp] theorem setSpeed_dutyCycle :
    (setSpeed id v r).dutyCycle ch = if ch = id then dutyOf v else r.dutyCycle ch :=
  Function.update_apply ..

end Registers

section Wheel

variable {fwd bwd : PwmId} (t v : Int) (r : Registers) (ch : PwmId)

theorem driveWheel_enable (hne : fwd ≠ bwd) : (driveWheel fwd bwd t v r).enable ch =
    if ch = fwd then decide (0 < v) else if ch = bwd then decide (0 < -v) else r.enable ch := by
  unfold driveWheel
  rcases Int.lt_trichotomy v 0 with h | rfl | h
  · have h' : ¬ 0 < v := by omega
    by_cases hf : ch = fwd <;> by_cases hb : ch = bwd <;> simp [h, h', hf, hb]
  · by_cases hf : ch = fwd <;> by_cases hb : ch = bwd <;> simp [hf, hb]
  · have h' : ¬ v < 0 := by omega
    by_cases hf : ch = fwd <;> by_cases hb : ch = bwd <;> simp [h, h', hf, hb, hne, hne.symm]

theorem driveWheel_dutyCycle : (driveWheel fwd bwd t v r).dutyCycle ch =
    if ch = fwd ∧ 0 < v then dutyOf (v + t)
    else if ch = bwd ∧ 0 < -v then dutyOf (-v + t) else r.dutyCycle ch := by
  unfold driveWheel
  rcases Int.lt_trichotomy v 0 with h | rfl | h
  · have h' : ¬ 0 < v := by omega
    simp [h, h']
  · simp
  · have h' : ¬ v < 0 := by omega
    simp [h, h']

end Wheel

/-- Every channel is enabled or disabled by every call. -/
theorem call_enable (r : Registers) (c : DriverCall) (ch : PwmId) :
    (call r c).enable ch = enabled ch c := by
  cases c with
  | drive left right =>
    show (drive left right r).enable ch = decide (0 < along ch left right)
    unfold drive
    rw [driveWheel_enable _ _ _ _ (by decide), driveWheel_enable _ _ _ _ (by decide)]
    fin_cases ch <;> rfl
  | brake => fin_cases ch <;> rfl
  | standby => fin_cases ch <;> rfl

/-- A duty cycle changes when a call writes it. -/
theorem call_dutyCycle (r : Registers) (c : DriverCall) (ch : PwmId) :
    (call r c).dutyCycle ch = (dutyWritten ch c).getD (r.dutyCycle ch) := by
  cases c with
  | drive left right =>
    show (drive left right r).dutyCycle ch = _
    unfold drive dutyWritten along trim
    rw [driveWheel_dutyCycle, driveWheel_dutyCycle]
    fin_cases ch <;> dsimp only [Fin.mk_one, Fin.zero_eta, Fin.reduceFinMk] <;>
      simp [LEFT_WHEEL_FORWARD, LEFT_WHEEL_BACKWARD, RIGHT_WHEEL_FORWARD, RIGHT_WHEEL_BACKWARD] <;>
      split_ifs <;> rfl
  | brake => rfl
  | standby => rfl

/-! ## Histories -/

/-- The duty cycle last written to a channel, from the registers `r` on. -/
def lastDuty (r : Registers) (cs : List DriverCall) (ch : PwmId) : Int :=
  ((cs.filterMap (dutyWritten ch)).getLast?).getD (r.dutyCycle ch)

/-- The duty cycles are those last written. -/
theorem dutyCycle_calls (r : Registers) (cs : List DriverCall) (ch : PwmId) :
    (cs.foldl call r).dutyCycle ch = lastDuty r cs ch := by
  induction cs using List.reverseRecOn with
  | nil => rfl
  | append_singleton cs c ih =>
    rw [List.foldl_append, List.foldl_cons, List.foldl_nil, call_dutyCycle, ih, lastDuty, lastDuty,
      List.filterMap_append]
    cases h : dutyWritten ch c <;> simp [h]

/-- What the channels put out after a call that writes the duty cycle of every
channel it enables. -/
theorem outputs_call_of_ne_brake (r s : Registers) {c : DriverCall} (hc : c ≠ .brake) :
    (call r c).outputs = (call s c).outputs := by
  funext ch
  unfold Registers.outputs
  rw [call_enable, call_enable, call_dutyCycle, call_dutyCycle]
  cases c with
  | drive left right =>
    unfold enabled dutyWritten
    by_cases h : 0 < along ch left right <;> simp [h]
  | brake => exact absurd rfl hc
  | standby => rfl

/-- After `brake` every channel puts out its duty cycle. -/
theorem outputs_call_brake (r : Registers) (ch : PwmId) :
    (call r .brake).outputs ch = some (r.dutyCycle ch) := by
  unfold Registers.outputs
  rw [call_enable, call_dutyCycle]
  rfl

/-- The state of the wheel with these channels. -/
def wheelOf (fwd bwd : PwmId) (r : Registers) : WheelState :=
  bridgeState (r.enable fwd) (r.enable bwd)

/-- Both wheels are locked. -/
structure Locked (r : Registers) : Prop where
  left : wheelOf LEFT_WHEEL_FORWARD LEFT_WHEEL_BACKWARD r = .braking
  right : wheelOf RIGHT_WHEEL_FORWARD RIGHT_WHEEL_BACKWARD r = .braking

theorem locked_brake (r : Registers) : Locked (call r .brake) := by
  constructor <;> simp only [wheelOf, call_enable] <;> rfl

/-- After two histories with the same last call both wheels are locked if that call is
`brake`; but the outputs are the same exactly when it is not, or every channel was last
written the same duty cycle. -/
theorem outputs_eq_iff (r s : Registers) (hr hs : List DriverCall) (c : DriverCall) :
    (c = .brake → Locked ((hr ++ [c]).foldl call r) ∧ Locked ((hs ++ [c]).foldl call s)) ∧
      (((hr ++ [c]).foldl call r).outputs = ((hs ++ [c]).foldl call s).outputs ↔
        c ≠ .brake ∨ ∀ ch, lastDuty r hr ch = lastDuty s hs ch) := by
  simp only [List.foldl_append, List.foldl_cons, List.foldl_nil]
  by_cases hc : c = .brake
  · subst hc
    refine ⟨fun _ => ⟨locked_brake _, locked_brake _⟩, ?_⟩
    simp only [ne_eq, not_true_eq_false, false_or, funext_iff, outputs_call_brake, Option.some.injEq,
      dutyCycle_calls]
  · exact ⟨fun h => absurd h hc, iff_of_true (outputs_call_of_ne_brake _ _ hc) (.inl hc)⟩

/-- Registers of zeros. -/
def idle : Registers := ⟨fun _ => 0, fun _ => false⟩

/-- A wheel that was driven at half and at full speed is braked with half and with
full duty. -/
theorem brake_keeps_duty :
    ([DriverCall.drive 50 0, .brake].foldl call idle).outputs ≠
      ([DriverCall.drive 100 0, .brake].foldl call idle).outputs :=
  fun h => absurd (congrFun h LEFT_WHEEL_FORWARD) (by decide +kernel)

end TR.Proof.Motor
