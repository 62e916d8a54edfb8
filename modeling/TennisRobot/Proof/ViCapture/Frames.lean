import TennisRobot.Framework.Ledger
import TennisRobot.Impl.ViCapture

/-!
# Frames of the board's camera

A call for a frame takes one from the camera, one from the scaler and a mapping of it,
and gives all of them back on every way out (`FrameKept`). `FramePath` lists these ways:
of two functions that are alike, one goes on when the scaler has no frame for it, which is
the only failure they treat differently, and both go on when it cannot be mapped, and die.
These two break the rule (`framesKept_iff`).
-/

namespace TR.Proof.ViCapture

open TR.Impl.ViCapture

/-! ## What a call is to keep to -/

/-- What a call for a frame takes. -/
inductive FrameResource
  | viFrame
  | vpssFrame
  | mapping (virAddr : Nat) (size : Int)
deriving DecidableEq

/-- What a call of the library takes or gives back. A mapping at 0 is none. -/
def frameMove : CviCall → Option (Move FrameResource)
  | .viGetChnFrame ret => if ret = CVI_SUCCESS then some (.take .viFrame) else none
  | .viReleaseChnFrame => some (.give .viFrame)
  | .vpssGetChnFrame ret => if ret = CVI_SUCCESS then some (.take .vpssFrame) else none
  | .vpssReleaseChnFrame => some (.give .vpssFrame)
  | .mmapCache virAddr size => if virAddr = 0 then none else some (.take (.mapping virAddr size))
  | .munmap virAddr size => if virAddr = 0 then none else some (.give (.mapping virAddr size))
  | _ => none

/-- An acquisition that has failed. -/
def FailedAcquisition : CviCall → Prop
  | .viGetChnFrame ret => ret ≠ CVI_SUCCESS
  | .vpssGetChnFrame ret => ret ≠ CVI_SUCCESS
  | .mmapCache virAddr _ => virAddr = 0
  | _ => False

/-- What a call for a frame keeps to. -/
structure FrameKept (calls : List CviCall) (ret : Option Int) : Prop where
  /-- What it takes it gives back, once, and nothing else. -/
  settled : settle nothing (calls.filterMap frameMove) = some nothing
  read : Guarded .readResized (fun pre => .vpssGetChnFrame CVI_SUCCESS ∈ pre) calls
  success : ret = some CVI_SUCCESS → ∀ c ∈ calls, ¬FailedAcquisition c

theorem failure_ne_success : some CVI_FAILURE ≠ some CVI_SUCCESS := by decide

/-! ## The ways out -/

/-- A call gets as far as the scaler's frame. -/
def ReachesResized (vpssInited : Bool) (o : FrameOutcome) : Prop :=
  o.viGetChnFrame = CVI_SUCCESS ∧ vpssInited = true ∧ o.vpssSendFrame = CVI_SUCCESS

/-- What is called until there is a mapping of the scaler's frame. -/
def mapFrame (o : FrameOutcome) (size : Int) : List CviCall :=
  [.viGetChnFrame o.viGetChnFrame, .vpssSendFrame o.vpssSendFrame,
    .vpssGetChnFrame o.vpssGetChnFrame, .readResized, .mmapCache o.virAddr size]

/-- The ways out of a call for a frame; `goesOn` if the scaler's failure is not
checked. -/
inductive FramePath (goesOn : Bool) (vpssInited : Bool) (o : FrameOutcome) :
    List CviCall × Option Int → Prop
  | noFrame (h : o.viGetChnFrame ≠ CVI_SUCCESS) :
    FramePath goesOn vpssInited o ([.viGetChnFrame o.viGetChnFrame], some CVI_FAILURE)
  | notInited (h : o.viGetChnFrame = CVI_SUCCESS) (hi : vpssInited = false) :
    FramePath goesOn vpssInited o
      ([.viGetChnFrame o.viGetChnFrame, .viReleaseChnFrame], some CVI_FAILURE)
  | notSent (h : o.viGetChnFrame = CVI_SUCCESS) (hi : vpssInited = true)
    (hs : o.vpssSendFrame ≠ CVI_SUCCESS) :
    FramePath goesOn vpssInited o
      ([.viGetChnFrame o.viGetChnFrame, .vpssSendFrame o.vpssSendFrame, .viReleaseChnFrame],
        some CVI_FAILURE)
  | notResized (h : ReachesResized vpssInited o) (hr : o.vpssGetChnFrame ≠ CVI_SUCCESS)
    (hg : goesOn = false) :
    FramePath goesOn vpssInited o
      ([.viGetChnFrame o.viGetChnFrame, .vpssSendFrame o.vpssSendFrame,
        .vpssGetChnFrame o.vpssGetChnFrame, .viReleaseChnFrame], some CVI_FAILURE)
  /-- The copy from a mapping that is none ends the process. -/
  | notMapped (size : Int) (h : ReachesResized vpssInited o)
    (hr : goesOn = true ∨ o.vpssGetChnFrame = CVI_SUCCESS) (hm : o.virAddr = 0) :
    FramePath goesOn vpssInited o (mapFrame o size, none)
  | used (size : Int) (h : ReachesResized vpssInited o)
    (hr : goesOn = true ∨ o.vpssGetChnFrame = CVI_SUCCESS) (hm : o.virAddr ≠ 0) :
    FramePath goesOn vpssInited o
      (mapFrame o size ++ [.munmap o.virAddr size, .vpssReleaseChnFrame, .viReleaseChnFrame],
        some CVI_SUCCESS)

variable (vpssInited : Bool) (o : FrameOutcome)

/-- The end of a call that has a frame of the scaler, or goes on as if it had. -/
theorem copyMapped_path {goesOn : Bool} {vpssInited : Bool} {o : FrameOutcome}
    (h : ReachesResized vpssInited o) (hr : goesOn = true ∨ o.vpssGetChnFrame = CVI_SUCCESS)
    (size : Int) : FramePath goesOn vpssInited o
      (copyMapped [.viGetChnFrame o.viGetChnFrame, .vpssSendFrame o.vpssSendFrame,
        .vpssGetChnFrame o.vpssGetChnFrame, .readResized] o.virAddr size) := by
  unfold copyMapped
  by_cases hm : o.virAddr = 0
  · dsimp only
    rw [if_pos hm]
    exact .notMapped size h hr hm
  · dsimp only
    rw [if_neg hm]
    exact .used size h hr hm

theorem getFrameAsBGR_path : FramePath true vpssInited o (getFrameAsBGR vpssInited o) := by
  unfold getFrameAsBGR
  by_cases hv : o.viGetChnFrame = 0
  · dsimp only
    rw [if_pos hv]
    cases hi : vpssInited with
    | false => exact .notInited hv rfl
    | true =>
      by_cases hs : o.vpssSendFrame ≠ CVI_SUCCESS
      · rw [if_neg (by decide), if_pos hs]
        exact .notSent hv rfl hs
      · have hr : ReachesResized true o := ⟨hv, rfl, not_not.mp hs⟩
        rw [if_neg (by decide), if_neg hs]
        split
        · exact copyMapped_path hr (.inl rfl) _
        · exact copyMapped_path hr (.inl rfl) _
  · dsimp only
    rw [if_neg hv]
    exact .noFrame hv

theorem getFrameAsNV21_path : FramePath false vpssInited o (getFrameAsNV21 vpssInited o) := by
  unfold getFrameAsNV21
  by_cases hv : o.viGetChnFrame = 0
  · dsimp only
    rw [if_neg (not_not.mpr hv)]
    cases hi : vpssInited with
    | false => exact .notInited hv rfl
    | true =>
      by_cases hs : o.vpssSendFrame ≠ CVI_SUCCESS
      · rw [if_neg (by decide), if_pos hs]
        exact .notSent hv rfl hs
      · have hr : ReachesResized true o := ⟨hv, rfl, not_not.mp hs⟩
        rw [if_neg (by decide), if_neg hs]
        by_cases hg : o.vpssGetChnFrame ≠ CVI_SUCCESS
        · rw [if_pos hg]
          exact .notResized hr hg rfl
        · rw [if_neg hg]
          exact copyMapped_path hr (.inr (not_not.mp hg)) _
  · dsimp only
    rw [if_pos hv]
    exact .noFrame hv

/-! ## What the ways out keep to -/

variable {vpssInited o} {goesOn : Bool} {calls : List CviCall} {res : List CviCall × Option Int}

/-- The frame of the camera, and what is done with it. -/
theorem settle_viFrame {moves : List (Move FrameResource)}
    (h : settle (Function.update nothing .viFrame true) moves =
      some (Function.update nothing .viFrame true)) :
    settle nothing (.take .viFrame :: (moves ++ [.give .viFrame])) = some nothing :=
  settle_bracket rfl h

/-- What is taken to use a frame is given back. -/
theorem settle_frame (virAddr : Nat) (size : Int) :
    settle nothing [.take FrameResource.viFrame, .take .vpssFrame, .take (.mapping virAddr size),
      .give (.mapping virAddr size), .give .vpssFrame, .give .viFrame] = some nothing := by
  have hvpss : settle (Function.update nothing FrameResource.viFrame true)
      (.take .vpssFrame :: ([.take (.mapping virAddr size), .give (.mapping virAddr size)] ++
        [.give .vpssFrame])) = some (Function.update nothing .viFrame true) :=
    settle_bracket rfl (settle_pair rfl)
  exact settle_viFrame hvpss

/-- The scaler's frame is read once, when it is there. -/
theorem guarded_mapFrame (hr : o.vpssGetChnFrame = CVI_SUCCESS) (size : Int) {rest : List CviCall}
    (hrest : .readResized ∉ rest) :
    Guarded .readResized (fun pre => .vpssGetChnFrame CVI_SUCCESS ∈ pre)
      (mapFrame o size ++ rest) := by
  have hsplit : mapFrame o size ++ rest = [.viGetChnFrame o.viGetChnFrame,
      .vpssSendFrame o.vpssSendFrame, .vpssGetChnFrame o.vpssGetChnFrame] ++
        .readResized :: (.mmapCache o.virAddr size :: rest) := rfl
  rw [hsplit, guarded_middle (by simp) (by simpa using hrest), hr]
  simp

/-- A call that ends in a failure, and has given the camera's frame back if there was
one. -/
theorem FrameKept.of_failure (hs : settle nothing (calls.filterMap frameMove) = some nothing)
    (hr : CviCall.readResized ∉ calls) : FrameKept calls (some CVI_FAILURE) where
  settled := hs
  read := guarded_of_not_mem hr
  success h := absurd h failure_ne_success

/-- A call that dies leaves the camera's frame behind. -/
theorem not_frameKept_mapFrame (h : o.viGetChnFrame = CVI_SUCCESS) (hm : o.virAddr = 0)
    (size : Int) (ret : Option Int) : ¬FrameKept (mapFrame o size) ret := by
  intro hk
  have hset := hk.settled
  by_cases hr : o.vpssGetChnFrame = CVI_SUCCESS
  · have hmoves : (mapFrame o size).filterMap frameMove = [.take .viFrame, .take .vpssFrame] := by
      simp [mapFrame, frameMove, h, hr, hm, List.filterMap_cons]
    rw [hmoves, settle_take rfl, settle_take rfl, settle_nil, Option.some.injEq] at hset
    cases congrFun hset .viFrame
  · have hmoves : (mapFrame o size).filterMap frameMove = [.take .viFrame] := by
      simp [mapFrame, frameMove, h, hr, hm, List.filterMap_cons]
    rw [hmoves, settle_take rfl, settle_nil, Option.some.injEq] at hset
    cases congrFun hset .viFrame

/-- A way out keeps to the rules if it does not go on without a frame, or without a
mapping. -/
theorem FramePath.kept_iff (h : FramePath goesOn vpssInited o res) :
    FrameKept res.1 res.2 ↔
      ¬(goesOn = true ∧ ReachesResized vpssInited o ∧ o.vpssGetChnFrame ≠ CVI_SUCCESS) ∧
      ¬(ReachesResized vpssInited o ∧ o.vpssGetChnFrame = CVI_SUCCESS ∧ o.virAddr = 0) := by
  cases h with
  | noFrame h =>
    refine iff_of_true (.of_failure ?_ (by simp)) ⟨fun hr => h hr.2.1.1, fun hr => h hr.1.1⟩
    simp [frameMove, h]
  | notInited h hi =>
    have hno : ¬ReachesResized vpssInited o := fun hr => by cases hi.symm.trans hr.2.1
    refine iff_of_true (.of_failure ?_ (by simp)) ⟨fun hr => hno hr.2.1, fun hr => hno hr.1⟩
    simpa [frameMove, h, List.filterMap_cons] using settle_pair (k := FrameResource.viFrame) rfl
  | notSent h hi hs =>
    have hno : ¬ReachesResized vpssInited o := fun hr => hs hr.2.2
    refine iff_of_true (.of_failure ?_ (by simp)) ⟨fun hr => hno hr.2.1, fun hr => hno hr.1⟩
    simpa [frameMove, h, List.filterMap_cons] using settle_pair (k := FrameResource.viFrame) rfl
  | notResized h hr hg =>
    refine iff_of_true (.of_failure ?_ (by simp)) ⟨fun hx => ?_, fun hx => hr hx.2.1⟩
    · simpa [frameMove, h.1, hr, List.filterMap_cons] using
        settle_pair (k := FrameResource.viFrame) rfl
    · cases hg.symm.trans hx.1
  | notMapped size h hg hm =>
    refine iff_of_false (not_frameKept_mapFrame h.1 hm size none) fun ⟨hframe, hmap⟩ => ?_
    have hgot : o.vpssGetChnFrame = CVI_SUCCESS := by
      by_contra hr
      exact hg.elim (fun hg => hframe ⟨hg, h, hr⟩) hr
    exact hmap ⟨h, hgot, hm⟩
  | used size h hg hm =>
    by_cases hr : o.vpssGetChnFrame = CVI_SUCCESS
    · refine iff_of_true ⟨?_, ?_, fun _ => ?_⟩ ⟨fun hx => hx.2.2 hr, fun hx => hm hx.2.2⟩
      · simpa [mapFrame, frameMove, h.1, hr, hm, List.filterMap_cons] using
          settle_frame o.virAddr size
      · exact guarded_mapFrame hr size (by simp)
      · simp [mapFrame, FailedAcquisition, h.1, hr, hm]
    · -- The frame is read all the same.
      refine iff_of_false (fun hk => ?_) fun hx => ?_
      · have := hk.success rfl (.vpssGetChnFrame o.vpssGetChnFrame) (by simp [mapFrame])
        exact this hr
      · exact hg.elim (fun hg => hx.1 ⟨hg, h, hr⟩) hr

/-! ## Runs -/

/-- What a call for a frame returns, if it does. -/
def frameReturn (vpssInited : Bool) : Call → Option (Option Int)
  | .getFrameAsBGR o => some (getFrameAsBGR vpssInited o).2
  | .getFrameAsNV21 o => some (getFrameAsNV21 vpssInited o).2
  | _ => none

/-- Every call for a frame keeps to the rules. -/
def FramesKept (l : List (Record (Option State) Call CviCall)) : Prop :=
  ∀ r ∈ l, ∀ s ret, r.pre = some s → frameReturn s.vpssInited r.input = some ret →
    FrameKept r.out ret

/-- `getFrameAsBGR` is not given a frame by the scaler. -/
def GoesOnWithoutFrame (r : Record (Option State) Call CviCall) : Prop :=
  ∃ s o, r.pre = some s ∧ r.input = .getFrameAsBGR o ∧ ReachesResized s.vpssInited o ∧
    o.vpssGetChnFrame ≠ CVI_SUCCESS

/-- A call is given a frame by the scaler that cannot be mapped. -/
def GoesOnWithoutMapping (r : Record (Option State) Call CviCall) : Prop :=
  ∃ s o, r.pre = some s ∧ (r.input = .getFrameAsBGR o ∨ r.input = .getFrameAsNV21 o) ∧
    ReachesResized s.vpssInited o ∧ o.vpssGetChnFrame = CVI_SUCCESS ∧ o.virAddr = 0

/-- The calls, but for the mapping. -/
def withoutMapping (calls : List CviCall) : List CviCall :=
  calls.filter fun c =>
    match c with
    | .mmapCache .. => false
    | .munmap .. => false
    | _ => true

/-- The two functions make the same calls, but for the size of the mapping, and return
the same. -/
def TreatedAlike (vpssInited : Bool) (o : FrameOutcome) : Prop :=
  withoutMapping (getFrameAsBGR vpssInited o).1 = withoutMapping (getFrameAsNV21 vpssInited o).1 ∧
    (getFrameAsBGR vpssInited o).2 = (getFrameAsNV21 vpssInited o).2

/-- Calls that do not get to the scaler's frame end alike. -/
theorem FramePath.eq_of_not_reaches {goesOn' : Bool} {res' : List CviCall × Option Int}
    (h : FramePath goesOn vpssInited o res) (h' : FramePath goesOn' vpssInited o res')
    (hr : ¬ReachesResized vpssInited o) : res = res' := by
  cases h with
  | noFrame hv =>
    cases h' with
    | noFrame => rfl
    | notInited hv' | notSent hv' => exact absurd hv' hv
    | notResized hx | notMapped _ hx | used _ hx => exact absurd hx hr
  | notInited hv hi =>
    cases h' with
    | noFrame hv' => exact absurd hv hv'
    | notInited => rfl
    | notSent _ hi' => cases hi.symm.trans hi'
    | notResized hx | notMapped _ hx | used _ hx => exact absurd hx hr
  | notSent hv hi =>
    cases h' with
    | noFrame hv' => exact absurd hv hv'
    | notInited _ hi' => cases hi.symm.trans hi'
    | notSent => rfl
    | notResized hx | notMapped _ hx | used _ hx => exact absurd hx hr
  | notResized hx | notMapped _ hx | used _ hx => exact absurd hx hr

/-- Calls that do fail only where the scaler has no frame and they check it. -/
theorem FramePath.failed_iff (h : FramePath goesOn vpssInited o res)
    (hr : ReachesResized vpssInited o) :
    res.2 = some CVI_FAILURE ↔ goesOn = false ∧ o.vpssGetChnFrame ≠ CVI_SUCCESS := by
  have hno (hg : goesOn = true ∨ o.vpssGetChnFrame = CVI_SUCCESS) :
      ¬(goesOn = false ∧ o.vpssGetChnFrame ≠ CVI_SUCCESS) :=
    fun hx => hg.elim (fun hg => by cases hx.1.symm.trans hg) hx.2
  cases h with
  | noFrame hv => exact absurd hr.1 hv
  | notInited _ hi => cases hi.symm.trans hr.2.1
  | notSent _ _ hs => exact absurd hr.2.2 hs
  | notResized _ hn hg => exact iff_of_true rfl ⟨hg, hn⟩
  | notMapped _ _ hg => exact iff_of_false (fun h => by cases h) (hno hg)
  | used _ _ hg => exact iff_of_false failure_ne_success.symm (hno hg)

/-- What they do otherwise. -/
theorem FramePath.of_not_failed (h : FramePath goesOn vpssInited o res)
    (hs : res.2 ≠ some CVI_FAILURE) :
    withoutMapping res.1 = [.viGetChnFrame o.viGetChnFrame, .vpssSendFrame o.vpssSendFrame,
        .vpssGetChnFrame o.vpssGetChnFrame, .readResized] ++
          (if o.virAddr = 0 then [] else [.vpssReleaseChnFrame, .viReleaseChnFrame]) ∧
      res.2 = if o.virAddr = 0 then none else some CVI_SUCCESS := by
  cases h with
  | notMapped size _ _ hm =>
    rw [if_pos hm, if_pos hm]
    exact ⟨rfl, rfl⟩
  | used size _ _ hm =>
    rw [if_neg hm, if_neg hm]
    exact ⟨rfl, rfl⟩
  | noFrame | notInited | notSent | notResized => exact absurd rfl hs

theorem treatedAlike_iff (vpssInited : Bool) (o : FrameOutcome) : TreatedAlike vpssInited o ↔
    ¬(ReachesResized vpssInited o ∧ o.vpssGetChnFrame ≠ CVI_SUCCESS) := by
  have hb := getFrameAsBGR_path vpssInited o
  have hn := getFrameAsNV21_path vpssInited o
  by_cases hr : ReachesResized vpssInited o
  · have hbf : (getFrameAsBGR vpssInited o).2 ≠ some CVI_FAILURE :=
      fun h => by cases ((hb.failed_iff hr).mp h).1
    by_cases hg : o.vpssGetChnFrame = CVI_SUCCESS
    · have hnf : (getFrameAsNV21 vpssInited o).2 ≠ some CVI_FAILURE :=
        fun h => ((hn.failed_iff hr).mp h).2 hg
      obtain ⟨hcalls, hret⟩ := hb.of_not_failed hbf
      obtain ⟨hcalls', hret'⟩ := hn.of_not_failed hnf
      exact iff_of_true ⟨hcalls.trans hcalls'.symm, hret.trans hret'.symm⟩ fun hx => hx.2 hg
    · exact iff_of_false (fun hx => hbf (hx.2.trans ((hn.failed_iff hr).mpr ⟨rfl, hg⟩)))
        fun hx => hx ⟨hr, hg⟩
  · have he := hb.eq_of_not_reaches hn hr
    have hcalls := congrArg (fun r => withoutMapping r.1) he
    exact iff_of_true ⟨hcalls, congrArg Prod.snd he⟩ fun hx => hr hx.1

theorem out_of_mem_log {s : Option State} {calls : List Call}
    {r : Record (Option State) Call CviCall} (h : r ∈ viCapture.log s calls) :
    r.out = (step r.pre r.input).2 :=
  viCapture.log_all (I := fun _ => True) (P := fun r => r.out = (step r.pre r.input).2) trivial
    (fun _ _ _ => trivial) (fun _ _ _ => rfl) h

/-- What the record of a call for a frame says of the rules. -/
theorem frameKept_record_iff {r : Record (Option State) Call CviCall}
    (h : r.out = (step r.pre r.input).2) :
    (∀ s ret, r.pre = some s → frameReturn s.vpssInited r.input = some ret →
        FrameKept r.out ret) ↔
      ¬GoesOnWithoutFrame r ∧ ¬GoesOnWithoutMapping r := by
  unfold GoesOnWithoutFrame GoesOnWithoutMapping
  rw [h]
  obtain ⟨s, c, out⟩ := r
  cases s with
  | none => simp
  | some s =>
    cases c with
    | getFrameAsBGR o =>
      have hk : FrameKept _ _ ↔ _ := (getFrameAsBGR_path s.vpssInited o).kept_iff
      simpa [frameReturn, step, stepAlive] using hk
    | getFrameAsNV21 o =>
      have hk : FrameKept _ _ ↔ _ := (getFrameAsNV21_path s.vpssInited o).kept_iff
      simpa [frameReturn, step, stepAlive] using hk
    | init | initVpssResize | deinitVpssResize | deinit => simp [frameReturn]

/-- In every run, whatever the library returns, the calls for frames keep to the rules
exactly when none goes on without a frame, nor without a mapping; and the two functions
differ just where one goes on without a frame. -/
theorem framesKept_iff (s : Option State) (calls : List Call) :
    (FramesKept (viCapture.log s calls) ↔ ∀ r ∈ viCapture.log s calls,
      ¬GoesOnWithoutFrame r ∧ ¬GoesOnWithoutMapping r) ∧
    ∀ vpssInited o, TreatedAlike vpssInited o ↔
      ¬(ReachesResized vpssInited o ∧ o.vpssGetChnFrame ≠ CVI_SUCCESS) := by
  refine ⟨?_, treatedAlike_iff⟩
  exact forall₂_congr fun r hr => frameKept_record_iff (out_of_mem_log hr)

/-- The scaler has no frame within its time. -/
def timedOut : FrameOutcome := ⟨0, 0, -1, ⟨640, 1920, 640, true⟩, 4096⟩

/-- A frame that cannot be mapped. -/
def unmapped : FrameOutcome := ⟨0, 0, 0, ⟨640, 1920, 640, true⟩, 0⟩

/-- Without a frame `getFrameAsBGR` gives back one that it was not given, and succeeds;
without a mapping both functions die, and leave the two frames behind. -/
theorem getFrameAsBGR_timedOut :
    settle nothing ((getFrameAsBGR true timedOut).1.filterMap frameMove) = none ∧
      (getFrameAsBGR true timedOut).2 = some CVI_SUCCESS ∧
      ¬FrameKept (getFrameAsBGR true timedOut).1 (getFrameAsBGR true timedOut).2 ∧
      (getFrameAsBGR true unmapped).2 = none ∧ (getFrameAsNV21 true unmapped).2 = none ∧
      ¬FrameKept (getFrameAsBGR true unmapped).1 none ∧
      ¬FrameKept (getFrameAsNV21 true unmapped).1 none := by
  have hs : settle nothing ((getFrameAsBGR true timedOut).1.filterMap frameMove) = none := rfl
  have hdead (size : Int) : ¬FrameKept (mapFrame unmapped size) none :=
    not_frameKept_mapFrame rfl rfl size none
  refine ⟨hs, rfl, fun hk => ?_, rfl, rfl, hdead _, hdead _⟩
  cases hs.symm.trans hk.settled

end TR.Proof.ViCapture
