import TennisRobot.Proof.Motor.Backends

/-!
# Between the writes of the PWM driver

A call of the PWM driver is several `write`s (`after_writes`), and between them the bridge is
in states of its own. A wheel that is driven the other way brakes for a moment, and a drive
never enables a channel before its duty cycle is written. But a brake from standby first
drives a wheel forward, and a standby from a brake first drives it backward, with the duty
cycle of some earlier drive; and that is all there is between the state before a call and
the one after it (`wheel_moments`).
-/

namespace TR.Proof.Motor

open TR.Impl.Pwm TR.Spec
open TR.Impl.Motor (DriverCall)

/-- The channel of a `write`. -/
def writeChannel : Write → PwmId
  | .dutyCycle pwmId _ => pwmId
  | .enable pwmId _ => pwmId

/-- The registers after `write`s. -/
def after (r : Registers) (ws : List Write) : Registers := ws.foldl Write.apply r

theorem after_append (r : Registers) (as bs : List Write) :
    after r (as ++ bs) = after (after r as) bs :=
  List.foldl_append

/-- The `write`s of a call make up the call. -/
theorem after_writes (r : Registers) (c : DriverCall) : after r (writes c) = call r c := by
  have wheel (fwd bwd : PwmId) (t v : Int) (r : Registers) :
      after r (driveWheelWrites fwd bwd t v) = driveWheel fwd bwd t v r := by
    unfold driveWheelWrites driveWheel
    split_ifs <;> rfl
  cases c with
  | drive left right =>
    rw [writes, after_append, wheel, wheel]
    rfl
  | brake => rfl
  | standby => rfl

/-- A state in which a wheel is on its way from one to another. -/
inductive OnTheWay (old new : WheelState) : WheelState → Prop
  | old : OnTheWay old new old
  | new : OnTheWay old new new
  /-- From one way to the other through the brake. -/
  | turn (h : old = .forward ∧ new = .backward ∨ old = .backward ∧ new = .forward) :
    OnTheWay old new .braking
  | release (h : old = .braking ∧ new = .off) : OnTheWay old new .backward
  | brake (h : old = .off ∧ new = .braking) : OnTheWay old new .forward

instance (old new now : WheelState) : Decidable (OnTheWay old new now) :=
  decidable_of_iff (now = old ∨ now = new ∨
      (now = .braking ∧ (old = .forward ∧ new = .backward ∨ old = .backward ∧ new = .forward)) ∨
      (now = .backward ∧ old = .braking ∧ new = .off) ∨ now = .forward ∧ old = .off ∧ new = .braking)
    ⟨by
      rintro (rfl | rfl | ⟨rfl, h⟩ | ⟨rfl, h⟩ | ⟨rfl, h⟩)
      exacts [.old, .new, .turn h, .release h, .brake h],
    fun h => by
      cases h with
      | old => exact .inl rfl
      | new => exact .inr (.inl rfl)
      | turn h => exact .inr (.inr (.inl ⟨rfl, h⟩))
      | release h => exact .inr (.inr (.inr (.inl ⟨rfl, h⟩)))
      | brake h => exact .inr (.inr (.inr (.inr ⟨rfl, h⟩)))⟩

/-! ## One wheel -/

@[simp] theorem setPwmDutyCycle_enable (r : Registers) (id : PwmId) (v : Int) :
    (setPwmDutyCycle id v r).enable = r.enable :=
  rfl

section Wheel

variable {fwd bwd : PwmId} {r : Registers}

/-- The other channels do not matter. -/
theorem wheelOf_after {ws : List Write}
    (h : ∀ w ∈ ws, writeChannel w ≠ fwd ∧ writeChannel w ≠ bwd) (r : Registers) :
    wheelOf fwd bwd (after r ws) = wheelOf fwd bwd r := by
  induction ws generalizing r with
  | nil => rfl
  | cons w ws ih =>
    obtain ⟨⟨hf, hb⟩, hws⟩ := List.forall_mem_cons.mp h
    refine (ih hws (w.apply r)).trans ?_
    cases w with
    | dutyCycle id v => rfl
    | enable id on =>
      have hf : fwd ≠ id := Ne.symm hf
      have hb : bwd ≠ id := Ne.symm hb
      unfold wheelOf
      rw [Write.apply, setPwmEnable_enable, setPwmEnable_enable, if_neg hf, if_neg hb]

variable (hne : fwd ≠ bwd)

include hne

/-- Both channels enabled, or both disabled, one after the other. -/
theorem onTheWay_enables (on : Bool) (k : Nat) :
    OnTheWay (wheelOf fwd bwd r) (bridgeState on on)
      (wheelOf fwd bwd (after r ([.enable fwd on, .enable bwd on].take k))) := by
  unfold wheelOf
  rcases k with _ | _ | k <;>
    simp only [List.take_zero, List.take_succ_cons, List.take_nil, after, List.foldl_cons,
      List.foldl_nil, Write.apply, setPwmEnable_enable, if_true, if_neg hne, if_neg hne.symm] <;>
    cases r.enable fwd <;> cases r.enable bwd <;> cases on <;> decide

/-- A wheel, at any moment of `drive`. -/
theorem onTheWay_driveWheel (t v : Int) (k : Nat) :
    OnTheWay (wheelOf fwd bwd r) (speedState v)
      (wheelOf fwd bwd (after r ((driveWheelWrites fwd bwd t v).take k))) := by
  unfold driveWheelWrites speedState
  split_ifs with hpos hneg
  · unfold wheelOf
    rcases k with _ | _ | _ | k <;>
      simp only [List.take_zero, List.take_succ_cons, List.take_nil, after, List.foldl_cons,
        List.foldl_nil, Write.apply, setPwmEnable_enable, setPwmDutyCycle_enable, if_true,
        if_neg hne, if_neg hne.symm] <;>
      cases r.enable fwd <;> cases r.enable bwd <;> decide
  · unfold wheelOf
    rcases k with _ | _ | _ | k <;>
      simp only [List.take_zero, List.take_succ_cons, List.take_nil, after, List.foldl_cons,
        List.foldl_nil, Write.apply, setPwmEnable_enable, setPwmDutyCycle_enable, if_true,
        if_neg hne, if_neg hne.symm] <;>
      cases r.enable fwd <;> cases r.enable bwd <;> decide
  · exact onTheWay_enables hne false k

end Wheel

/-! ## One channel -/

section Channel

variable {ch : PwmId}

/-- A `write` to another channel. -/
theorem apply_of_ne {w : Write} (h : writeChannel w ≠ ch) (r : Registers) :
    (w.apply r).enable ch = r.enable ch ∧ (w.apply r).dutyCycle ch = r.dutyCycle ch := by
  have h : ch ≠ writeChannel w := Ne.symm h
  cases w with
  | dutyCycle id v => exact ⟨rfl, Function.update_of_ne h ..⟩
  | enable id on => exact ⟨Function.update_of_ne h .., rfl⟩

/-- A `write` to a channel depends on nothing but what the files of that channel hold. -/
theorem apply_congr {r r' : Registers} (he : r.enable ch = r'.enable ch)
    (hd : r.dutyCycle ch = r'.dutyCycle ch) (w : Write) :
    (w.apply r).enable ch = (w.apply r').enable ch ∧
      (w.apply r).dutyCycle ch = (w.apply r').dutyCycle ch := by
  cases w with
  | dutyCycle id v => exact ⟨he, by simp only [Write.apply, setPwmDutyCycle, Function.update_apply, hd]⟩
  | enable id on => exact ⟨by simp only [Write.apply, setPwmEnable_enable, he], hd⟩

/-- A channel puts out what the `write`s to it make of it. -/
theorem outputs_filter (ws : List Write) {r r' : Registers} (he : r.enable ch = r'.enable ch)
    (hd : r.dutyCycle ch = r'.dutyCycle ch) :
    (after r ws).outputs ch = (after r' (ws.filter (writeChannel · = ch))).outputs ch := by
  induction ws generalizing r r' with
  | nil =>
    show r.outputs ch = r'.outputs ch
    unfold Registers.outputs
    rw [he, hd]
  | cons w ws ih =>
    by_cases hw : writeChannel w = ch
    · rw [List.filter_cons_of_pos (by simpa using hw)]
      obtain ⟨he', hd'⟩ := apply_congr he hd w
      exact ih he' hd'
    · rw [List.filter_cons_of_neg (by simpa using hw)]
      obtain ⟨he', hd'⟩ := apply_of_ne hw r
      exact ih (he'.trans he) (hd'.trans hd)

/-- A call writes to a channel once, or first its duty cycle and then enables it. -/
theorem filter_writes (c : DriverCall) (ch : PwmId) :
    (∃ on, (writes c).filter (writeChannel · = ch) = [.enable ch on]) ∨
      ∃ v, (writes c).filter (writeChannel · = ch) = [.dutyCycle ch v, .enable ch true] := by
  cases c with
  | drive left right =>
    dsimp only [writes, driveWheelWrites]
    split_ifs <;> fin_cases ch <;>
      first
      | exact .inl ⟨_, rfl⟩
      | exact .inr ⟨_, rfl⟩
  | brake => fin_cases ch <;> exact .inl ⟨_, rfl⟩
  | standby => fin_cases ch <;> exact .inl ⟨_, rfl⟩

/-- A channel whose duty cycle is written before it is enabled puts out nothing else on the
way. -/
theorem outputs_dutyCycle (r : Registers) (v : Int) :
    (after r [.dutyCycle ch v]).outputs ch = r.outputs ch ∨
      (after r [.dutyCycle ch v]).outputs ch =
        (after r [.dutyCycle ch v, .enable ch true]).outputs ch := by
  simp only [after, List.foldl_cons, List.foldl_nil, Write.apply, Registers.outputs,
    setPwmDutyCycle_enable, setPwmEnable_enable, setPwmEnable_dutyCycle, if_true]
  by_cases h : r.enable ch = true
  · exact .inr (if_pos h)
  · exact .inl ((if_neg h).trans (if_neg h).symm)

/-- At any moment of a call a channel puts out what it did before the call or what it does
after it. -/
theorem outputs_moment (r : Registers) (c : DriverCall) (k : Nat) (ch : PwmId) :
    (after r ((writes c).take k)).outputs ch = r.outputs ch ∨
      (after r ((writes c).take k)).outputs ch = (call r c).outputs ch := by
  have hpre : ((writes c).take k).filter (writeChannel · = ch) <+:
      (writes c).filter (writeChannel · = ch) := (List.take_prefix k _).filter _
  rw [← after_writes, outputs_filter ((writes c).take k) rfl rfl, outputs_filter (writes c) rfl rfl]
  rcases filter_writes c ch with ⟨on, h⟩ | ⟨v, h⟩ <;> rw [h] at hpre ⊢
  · rcases List.prefix_cons_iff.mp hpre with h | ⟨t, h, ht⟩
    · exact .inl (by rw [h]; rfl)
    · exact .inr (by rw [h, List.prefix_nil.mp ht])
  · rcases List.prefix_cons_iff.mp hpre with h | ⟨t, h, ht⟩
    · exact .inl (by rw [h]; rfl)
    · rw [h]
      rcases List.prefix_cons_iff.mp ht with rfl | ⟨t', rfl, ht'⟩
      · exact outputs_dutyCycle r v
      · exact .inr (by rw [List.prefix_nil.mp ht'])

end Channel

/-! ## A call -/

/-- The registers `now`, on the way from `old` to `new`: no channel puts out anything but
what it did or what it will, and each wheel is on its way. -/
structure Between (old new now : Registers) : Prop where
  outputs (ch : PwmId) : now.outputs ch = old.outputs ch ∨ now.outputs ch = new.outputs ch
  left : OnTheWay (wheelOf LEFT_WHEEL_FORWARD LEFT_WHEEL_BACKWARD old)
    (wheelOf LEFT_WHEEL_FORWARD LEFT_WHEEL_BACKWARD new)
    (wheelOf LEFT_WHEEL_FORWARD LEFT_WHEEL_BACKWARD now)
  right : OnTheWay (wheelOf RIGHT_WHEEL_FORWARD RIGHT_WHEEL_BACKWARD old)
    (wheelOf RIGHT_WHEEL_FORWARD RIGHT_WHEEL_BACKWARD new)
    (wheelOf RIGHT_WHEEL_FORWARD RIGHT_WHEEL_BACKWARD now)

/-- The `write`s for one wheel, whose channels are `fwd` and `bwd`, take it to the state
`new`. -/
structure WheelWrites (fwd bwd : PwmId) (new : WheelState) (ws : List Write) : Prop where
  channel {w : Write} (h : w ∈ ws) : writeChannel w = fwd ∨ writeChannel w = bwd
  moment (r : Registers) (k : Nat) :
    OnTheWay (wheelOf fwd bwd r) new (wheelOf fwd bwd (after r (ws.take k)))

section Wheel

variable {fwd bwd : PwmId} (hne : fwd ≠ bwd)

include hne

theorem wheelWrites_drive (t v : Int) :
    WheelWrites fwd bwd (speedState v) (driveWheelWrites fwd bwd t v) where
  channel {w} h := by
    unfold driveWheelWrites at h
    split_ifs at h <;> simp only [List.mem_cons, List.not_mem_nil, or_false] at h <;>
      rcases h with rfl | rfl | rfl <;> simp [writeChannel]
  moment r k := onTheWay_driveWheel hne t v k

theorem wheelWrites_enables (on : Bool) :
    WheelWrites fwd bwd (bridgeState on on) [.enable fwd on, .enable bwd on] where
  channel {w} h := by
    simp only [List.mem_cons, List.not_mem_nil, or_false] at h
    rcases h with rfl | rfl <;> simp [writeChannel]
  moment r k := onTheWay_enables hne on k

end Wheel

/-- A call writes to the left wheel, then to the right one. -/
theorem writes_wheels (c : DriverCall) : ∃ lefts rights, writes c = lefts ++ rights ∧
    WheelWrites LEFT_WHEEL_FORWARD LEFT_WHEEL_BACKWARD (wheelStates c).1 lefts ∧
    WheelWrites RIGHT_WHEEL_FORWARD RIGHT_WHEEL_BACKWARD (wheelStates c).2 rights := by
  cases c with
  | drive left right =>
    exact ⟨_, _, rfl, wheelWrites_drive (by decide) 0 left, wheelWrites_drive (by decide) 2 right⟩
  | brake =>
    exact ⟨_, _, rfl, wheelWrites_enables (by decide) true, wheelWrites_enables (by decide) true⟩
  | standby =>
    exact ⟨_, _, rfl, wheelWrites_enables (by decide) false, wheelWrites_enables (by decide) false⟩

/-- The registers at a moment of a call. -/
theorem between_call (r : Registers) (c : DriverCall) (k : Nat) :
    Between r (call r c) (after r ((writes c).take k)) := by
  obtain ⟨hleft, hright⟩ := Prod.ext_iff.mp (bridgeState_call r c)
  obtain ⟨lefts, rights, hws, hl, hr⟩ := writes_wheels c
  refine ⟨outputs_moment r c k, ?_, ?_⟩ <;> rw [hws, List.take_append, after_append]
  · refine (congrArg (OnTheWay _ · _) hleft).mpr ?_
    rw [wheelOf_after]
    · exact hl.moment r k
    · intro w hw
      rcases hr.channel (List.mem_of_mem_take hw) with h | h <;> rw [h] <;> decide
  · refine (congrArg (OnTheWay _ · _) hright).mpr ?_
    have hsame : wheelOf RIGHT_WHEEL_FORWARD RIGHT_WHEEL_BACKWARD (after r (lefts.take k)) =
        wheelOf RIGHT_WHEEL_FORWARD RIGHT_WHEEL_BACKWARD r :=
      wheelOf_after (fun w hw => by
        rcases hl.channel (List.mem_of_mem_take hw) with h | h <;> rw [h] <;> decide) r
    rw [← hsame]
    exact hr.moment _ _

/-! ## A history -/

/-- The first `k` of the `write`s of calls: those of the calls `before`, and `j` of those of
the next one. -/
structure CutAt (before rest : List DriverCall) (k j : Nat) : Prop where
  cut : k = (before.flatMap writes).length + j
  within : rest ≠ [] → j ≤ ((rest.take 1).flatMap writes).length

theorem CutAt.take {before rest : List DriverCall} {k j : Nat} (h : CutAt before rest k j) :
    ((before ++ rest).flatMap writes).take k =
      before.flatMap writes ++ ((rest.take 1).flatMap writes).take j := by
  rw [h.cut, List.flatMap_append, List.take_length_add_append]
  cases rest with
  | nil => rfl
  | cons c rest =>
    have hj : j ≤ (writes c).length := by simpa using h.within (List.cons_ne_nil c rest)
    simp [List.take_append_of_le_length hj]

/-- A cut through the `write`s of calls lies within one of them. -/
theorem exists_cutAt (cs : List DriverCall) (k : Nat) :
    ∃ before rest j, cs = before ++ rest ∧ CutAt before rest k j := by
  induction cs generalizing k with
  | nil => exact ⟨[], [], k, rfl, by simp, fun h => absurd rfl h⟩
  | cons c cs ih =>
    by_cases hk : k ≤ (writes c).length
    · exact ⟨[], c :: cs, k, rfl, by simp, fun _ => by simpa using hk⟩
    · obtain ⟨before, rest, j, rfl, h⟩ := ih (k - (writes c).length)
      refine ⟨c :: before, rest, j, rfl, ?_, h.within⟩
      have hcut := h.cut
      rw [List.flatMap_cons, List.length_append]
      omega

/-- The `write`s of one call after another. -/
theorem after_flatMap (r : Registers) (cs : List DriverCall) :
    after r (cs.flatMap writes) = cs.foldl call r := by
  induction cs generalizing r with
  | nil => rfl
  | cons c cs ih => rw [List.flatMap_cons, after_append, after_writes, ih, List.foldl_cons]

/-- Whatever the driver is called to do, at any moment the registers are between those
before the call that is being made and those after it. -/
theorem wheel_moments (r : Registers) (cs : List DriverCall) (k : Nat) : ∃ before rest j,
    cs = before ++ rest ∧ CutAt before rest k j ∧
      Between (before.foldl call r) ((before ++ rest.take 1).foldl call r)
        (after r ((cs.flatMap writes).take k)) := by
  obtain ⟨before, rest, j, rfl, h⟩ := exists_cutAt cs k
  refine ⟨before, rest, j, rfl, h, ?_⟩
  rw [h.take, after_append, after_flatMap, List.foldl_append]
  cases rest with
  | nil =>
    have hnone : after (before.foldl call r) ((([] : List DriverCall).flatMap writes).take j) =
        before.foldl call r := congrArg (after _) List.take_nil
    rw [List.take_nil, hnone]
    exact ⟨fun _ => .inl rfl, .old, .old⟩
  | cons c rest => simpa using between_call (before.foldl call r) c j

/-- The first `write` of a brake drives the left wheel of a robot that stood still. -/
example : wheelOf LEFT_WHEEL_FORWARD LEFT_WHEEL_BACKWARD (after idle ((writes .brake).take 1)) =
    .forward := rfl

end TR.Proof.Motor
