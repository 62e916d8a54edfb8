import TennisRobot.Proof.Main.Trace

/-!
# A signal stops the wheels, or does not

Whenever the signal comes, the handler that is installed says what it does to the wheels
(`handlerOf_startTrace`). `signal_handler` puts them in standby, and they are off. The
handler that `SAMPLE_PLAT_SYS_INIT` puts in its place does not: with the camera of the board
the wheels go on as they were when the signal came.
-/

namespace TR.Proof.Main

open TR.Impl.Main TR.Impl.Motor TR.Impl.Uart TR.Spec
open TR.Impl.Game (Cmd Frame LoopState)
open TR.Impl.ViCapture (CviCall InitOutcome VpssOutcome CVI_SUCCESS)
open TR.Proof.Motor TR.Proof.Uart

/-! ## Handlers -/

/-- The acts install no handler. -/
def NoSigaction (acts : List Act) : Prop := ∀ sig h, .sigaction sig h ∉ acts

theorem NoSigaction.append {as bs : List Act} (ha : NoSigaction as) (hb : NoSigaction bs) :
    NoSigaction (as ++ bs) :=
  fun sig h hab => (List.mem_append.mp hab).elim (ha sig h) (hb sig h)

theorem handlerOf_append {bs : List Act} (h : NoSigaction bs) (sig : Signal) (as : List Act) :
    handlerOf sig (as ++ bs) = handlerOf sig as := by
  rw [handlerOf, List.foldl_append, ← handlerOf]
  generalize handlerOf sig as = h₀
  induction bs with
  | nil => rfl
  | cons b bs ih =>
    have hbs : NoSigaction bs := fun sig h' hb => h sig h' (List.mem_cons_of_mem _ hb)
    cases b with
    | sigaction sig' h' => exact absurd List.mem_cons_self (h sig' h')
    | _ => exact ih hbs

/-- The handler that is installed for both signals. -/
theorem handlerOf_handleBoth (h : Handler) (sig : Signal) (as : List Act) :
    handlerOf sig (as ++ handleBoth h) = h := by
  rw [handlerOf, List.foldl_append]
  cases sig <;> rfl

/-- `VICapture::init` comes to `SAMPLE_PLAT_SYS_INIT`. -/
def PlatSysInit : Camera → Prop
  | .vi init _ => init.iniToViCfg = CVI_SUCCESS ∧ init.getSizeBySensor = CVI_SUCCESS ∧
    init.getPicSize = CVI_SUCCESS
  | _ => False

instance : DecidablePred PlatSysInit
  | .vi .. => inferInstanceAs (Decidable (_ ∧ _))
  | .esp32 _ | .uvc _ => inferInstanceAs (Decidable False)

/-- `init` installs the handlers, and after them nothing but an end of the system. -/
theorem viInitActs_init (init : InitOutcome) (vpss : VpssOutcome) : ∃ tail, NoSigaction tail ∧
    viInitActs (Impl.ViCapture.init 0 init).2.1 =
      (if PlatSysInit (.vi init vpss) then handleBoth .platSysHandleSig else []) ++ tail := by
  have hnil : NoSigaction [] := fun _ _ => List.not_mem_nil
  have hexit (n : Int) : NoSigaction (viInitActs (Impl.ViCapture.platErrExit n)) := by
    unfold Impl.ViCapture.platErrExit NoSigaction
    split <;> simp [viInitActs]
  by_cases hplat : PlatSysInit (.vi init vpss)
  · have hcfg := hplat
    obtain ⟨h1, h2, h3⟩ := hcfg
    rw [if_pos hplat]
    unfold Impl.ViCapture.init Impl.ViCapture.platSysInit Impl.ViCapture.platViInit
    dsimp only
    rw [if_neg (not_not.mpr h1), if_neg (not_not.mpr h2), if_neg (not_not.mpr h3)]
    split_ifs
    · exact ⟨_, hexit 0, rfl⟩
    · exact ⟨_, hexit init.workingViNum, rfl⟩
    · exact ⟨[], hnil, rfl⟩
  · refine ⟨[], hnil, ?_⟩
    rw [if_neg hplat]
    unfold Impl.ViCapture.init
    dsimp only
    by_cases h1 : init.iniToViCfg ≠ CVI_SUCCESS
    · rw [if_pos h1]
      rfl
    by_cases h2 : init.getSizeBySensor ≠ CVI_SUCCESS
    · rw [if_neg h1, if_pos h2]
      rfl
    by_cases h3 : init.getPicSize ≠ CVI_SUCCESS
    · rw [if_neg h1, if_neg h2, if_pos h3]
      rfl
    · exact absurd ⟨not_not.mp h1, not_not.mp h2, not_not.mp h3⟩ hplat

/-- A camera that has started has called it. -/
theorem platSysInit_of_started {init : InitOutcome} {vpss : VpssOutcome}
    (h : (cameraActs (.vi init vpss)).2 = true) : PlatSysInit (.vi init vpss) := by
  have hret : (Impl.ViCapture.init 0 init).2.2 = CVI_SUCCESS := by
    by_contra hret
    simp [cameraActs, hret] at h
  unfold Impl.ViCapture.init at hret
  dsimp only at hret
  split_ifs at hret with h1 h2 h3
  · exact absurd hret h1
  · exact absurd hret h2
  · exact absurd hret h3
  all_goals exact ⟨not_not.mp h1, not_not.mp h2, not_not.mp h3⟩

/-- The handler that is installed when the camera has started, or has not. -/
theorem handlerOf_startTrace (cfg : Config) (sig : Signal) :
    handlerOf sig (startTrace cfg) =
      if PlatSysInit cfg.camera then .platSysHandleSig else .signalHandler := by
  have hmid : NoSigaction (constructTrace cfg ++ ([.setMotor] ++ armActs cfg.armFd .grabPos)) := by
    intro sig h
    rw [constructTrace]
    split <;> simp [armActs]
  have hold (camera : List Act) (hc : NoSigaction camera) :
      handlerOf sig (handleBoth .signalHandler ++
        ((constructTrace cfg ++ ([.setMotor] ++ armActs cfg.armFd .grabPos)) ++ camera)) =
      .signalHandler := by
    rw [handlerOf_append (hmid.append hc)]
    exact handlerOf_handleBoth .signalHandler sig []
  simp only [startTrace, List.append_assoc] at hold ⊢
  cases hcam : cfg.camera with
  | esp32 inited => exact hold (cameraActs (.esp32 inited)).1 fun _ _ => by simp [cameraActs]
  | uvc opened => exact hold (cameraActs (.uvc opened)).1 fun _ _ => by simp [cameraActs]
  | vi init vpss =>
    obtain ⟨exit, hexit, hinit⟩ := viInitActs_init init vpss
    obtain ⟨tail, htail, hacts⟩ : ∃ tail : List Act, NoSigaction tail ∧
        (cameraActs (.vi init vpss)).1 = ([.setCapture] ++
          if PlatSysInit (.vi init vpss) then handleBoth .platSysHandleSig else []) ++ tail := by
      simp only [cameraActs]
      rw [hinit, ← List.cons_append]
      split_ifs
      · exact ⟨exit, hexit, rfl⟩
      · exact ⟨exit, hexit, rfl⟩
      · exact ⟨exit ++ [.closeCamera], hexit.append fun _ _ => by simp, List.append_assoc ..⟩
      · exact ⟨exit ++ [.closeCamera], hexit.append fun _ _ => by simp, List.append_assoc ..⟩
      · exact ⟨exit, hexit, rfl⟩
      · exact ⟨exit, hexit, rfl⟩
    rw [hacts]
    split
    · simp only [← List.append_assoc]
      rw [handlerOf_append htail]
      exact handlerOf_handleBoth _ sig _
    · exact hold _ (NoSigaction.append (fun _ _ => by simp) htail)

/-! ## What a signal does -/

/-- What a signal tells the wheels, if anything: to stop. -/
theorem told_signalTrace (cfg : Config) (sig : Signal) (acts : List Act) :
    told (signalTrace cfg sig acts) =
      if handlerOf sig acts = .signalHandler ∧ .setMotor ∈ acts ∧ ¬cfg.motorFd < 0 then
        callCmds .standby
      else [] := by
  have hcleanup : told (cleanupTrace cfg acts) =
      told (if .setMotor ∈ acts then callActs cfg .standby else []) := by
    rw [cleanupTrace, told_append, told_append]
    split_ifs <;> simp [told, sent, actFrame?, chassisWrite?]
  rw [signalTrace]
  cases handlerOf sig acts with
  | default => rfl
  | platSysHandleSig => rfl
  | signalHandler =>
    simp only [hcleanup, true_and]
    by_cases hset : .setMotor ∈ acts
    · simp only [hset, if_true, told_callActs, true_and]
      by_cases hfd : cfg.motorFd < 0
      · simp [hfd]
      · simp [hfd]
    · simp only [hset, if_false, told_nil, false_and]

theorem framed_signalTrace (cfg : Config) (sig : Signal) (acts : List Act) :
    Framed (signalTrace cfg sig acts) := by
  rw [signalTrace]
  split
  · exact framed_of_no_write fun _ => List.not_mem_nil
  · exact framed_cleanupTrace cfg acts
  · exact framed_of_no_write fun _ => by simp

/-- Where nothing was told, a signal leaves the wheels off. -/
theorem stateAfter_signalTrace (cfg : Config) (sig : Signal) (acts : List Act) {w : UInt8}
    (hw : w = 0 ∨ w = 1) : stateAfter w (told (signalTrace cfg sig acts)) = .off := by
  rw [told_signalTrace]
  split
  · exact stateAfter_standby [] hw
  · rfl

/-- Past the start, a signal stops the wheels, or leaves them as they are. -/
theorem stateAfter_signal_late {cfg : Config} (hfd : ¬cfg.motorFd < 0) (rest : List Act)
    (hrest : NoSigaction rest) (sig : Signal) {w : UInt8} (hw : w = 0 ∨ w = 1) :
    stateAfter w (told (startTrace cfg ++ rest ++ signalTrace cfg sig (startTrace cfg ++ rest))) =
      if PlatSysInit cfg.camera then stateAfter w (told (startTrace cfg ++ rest)) else .off := by
  have hset : Act.setMotor ∈ startTrace cfg ++ rest := by simp [startTrace]
  have hhandler := (handlerOf_append hrest sig (startTrace cfg)).trans (handlerOf_startTrace cfg sig)
  rw [told_append (startTrace cfg ++ rest), told_signalTrace, hhandler]
  by_cases hplat : PlatSysInit cfg.camera
  · simp [hplat]
  · simp only [hplat, if_false, hset, hfd, not_false_eq_true, and_self, if_true]
    exact stateAfter_standby _ hw

/-- A camera of the board that has not come to `SAMPLE_PLAT_SYS_INIT` has not started, and
the wheels are told nothing. -/
theorem told_take_of_not_platSysInit {cfg : Config} {init : InitOutcome} {vpss : VpssOutcome}
    (hcam : cfg.camera = .vi init vpss) (hplat : ¬PlatSysInit cfg.camera)
    (fs : List (Option Frame × Nat)) (k : Nat) : told ((mainTrace cfg fs).take k) = [] := by
  have hstart : (cameraActs cfg.camera).2 = false := by
    rw [hcam] at hplat ⊢
    exact Bool.not_eq_true _ |>.mp fun h => hplat (platSysInit_of_started h)
  have hrest : restTrace cfg fs = destructTrace cfg := by
    rw [restTrace, hstart]
    rfl
  rw [mainTrace, hrest]
  exact (((silent_startTrace cfg).append (silent_destructTrace cfg)).take k).told

/-- Whenever a signal comes, the line to the chassis has whole frames on it, and what is
done then leaves the wheels off; but with the camera of the board, in the state in which
they were. -/
theorem signal_leaves_wheels (cfg : Config) (fs : List (Option Frame × Nat)) (k : Nat)
    (sig : Signal) : ∃ acts life, mainActs cfg fs = some acts ∧
      killedActs cfg fs k sig = some life ∧ ∀ w : UInt8, w = 0 ∨ w = 1 →
        ∃ st, stateOnLine w (chassisBytes (acts.take k)) = some st ∧
          stateOnLine w (chassisBytes life) = some (match cfg.camera with
            | .vi .. => st
            | _ => .off) := by
  refine ⟨_, _, mainActs_eq cfg fs, killedActs_eq cfg fs k sig, fun w hw => ?_⟩
  have hframed := (framed_mainTrace cfg fs).take k
  refine ⟨_, stateOnLine_acts hframed w, ?_⟩
  rw [stateOnLine_acts (hframed.append (framed_signalTrace cfg sig _)) w]
  refine congrArg some ?_
  -- Where nothing was told before, the wheels are off, and nothing but a stop is told.
  have hsilent (h : told ((mainTrace cfg fs).take k) = []) :
      stateAfter w (told ((mainTrace cfg fs).take k ++
        signalTrace cfg sig ((mainTrace cfg fs).take k))) = match cfg.camera with
          | .vi .. => stateAfter w (told ((mainTrace cfg fs).take k))
          | _ => .off := by
    rw [told_append, h, List.nil_append, stateAfter_signalTrace cfg sig _ hw, stateAfter_nil]
    cases cfg.camera <;> rfl
  by_cases hfd : cfg.motorFd < 0
  · exact hsilent (told_mainTrace_closed hfd fs k)
  by_cases hk : k ≤ (startTrace cfg).length
  · refine hsilent ?_
    rw [mainTrace, List.take_append_of_le_length hk]
    exact ((silent_startTrace cfg).take k).told
  · have htake : (mainTrace cfg fs).take k =
        startTrace cfg ++ (restTrace cfg fs).take (k - (startTrace cfg).length) := by
      rw [mainTrace, List.take_append, List.take_of_length_le (by omega)]
    have hlate := stateAfter_signal_late hfd ((restTrace cfg fs).take (k - (startTrace cfg).length))
      (fun sig h ha => RestAct.not_sigaction (restAct_of_mem (List.mem_of_mem_take ha))) sig hw
    rw [← htake] at hlate
    by_cases hplat : PlatSysInit cfg.camera
    · rw [hlate, if_pos hplat]
      cases hcam : cfg.camera with
      | vi init vpss => rfl
      | _ => exact absurd hplat (by rw [hcam]; exact id)
    · cases hcam : cfg.camera with
      | vi init vpss =>
        have h := hsilent (told_take_of_not_platSysInit hcam hplat fs k)
        rwa [hcam] at h
      | _ => rw [hlate, if_neg hplat]

-- The wheels of a robot with the camera of the board go on after an interrupt.
example : (killedActs ⟨3, -1, 0, .vi ⟨0, 1, 0, 0, 0, 0⟩ ⟨0, 0, 0, 0, 0⟩, true⟩
    [(some ⟨320, 320, none, none⟩, 0)] 20 .SIGINT).bind
      (fun life => stateOnLine 0 (chassisBytes life)) = some .forward := by
  decide +kernel

end TR.Proof.Main
