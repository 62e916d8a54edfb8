import TennisRobot.Proof.ViCapture.Frames

/-!
# The lifetime of the board's camera

What `init` and `initVpssResize` set up is torn down in several places: in `main`'s ways
out, in `cleanup_and_exit`, in the destructor, and by an `init` that fails late.
`TornDown` says that this is done once, and the scaler's half of it before the end of the
system. The scaler's half keeps its books, since a flag guards it (`settle_outputs`);
`deinit` has no such flag, so that what it does is all up to its callers (`tornDown_iff`).
-/

namespace TR.Proof.ViCapture

open TR.Impl.ViCapture CviCall

/-! ## What a lifetime is to keep to -/

/-- What `initVpssResize` takes. -/
inductive VpssResource
  | group
  | channel
  | running
deriving DecidableEq

/-- What a call of the library takes or gives back of the scaler. -/
def vpssMove : CviCall → Option (Move VpssResource)
  | .createGrp ret => if ret = CVI_SUCCESS then some (.take .group) else none
  | .enableChn ret => if ret = CVI_SUCCESS then some (.take .channel) else none
  | .startGrp ret => if ret = CVI_SUCCESS then some (.take .running) else none
  | .stopGrp => some (.give .running)
  | .disableChn => some (.give .channel)
  | .destroyGrp => some (.give .group)
  | _ => none

/-- What is to be done once for an `init`. -/
def teardowns : List CviCall := [.destroyIsp, .destroyVi, .sysExit]

/-- The beginning of an `init`, or a teardown. -/
inductive Mark
  | init
  | teardown
deriving DecidableEq

/-- What a call of the library is to the teardown `e`. -/
def mark (e c : CviCall) : Option Mark :=
  if c = .viSetDevNum then some .init else if c = e then some .teardown else none

/-- There have been fewer teardowns than inits. -/
def FewerThanInits (marks : List Mark) : Prop := marks.count .teardown < marks.count .init

/-- There has been an init since the last teardown. -/
def InitSince (marks : List Mark) : Prop := marks.getLast? = some .init

/-- What a lifetime keeps to; `perInit` says of the inits and teardowns so far whether
there may be one more teardown. -/
structure TornDown (perInit : List Mark → Prop) (calls : List CviCall) : Prop where
  once : ∀ e ∈ teardowns, Guarded e (fun pre => perInit (pre.filterMap (mark e))) calls
  /-- What is created, enabled or started, is destroyed, disabled or stopped, once. -/
  vpss : settle nothing (calls.filterMap vpssMove) = some nothing
  beforeExit : Guarded .sysExit
    (fun pre => settle nothing (pre.filterMap vpssMove) = some nothing) calls

/-! ## The scaler -/

/-- The ways out of `initVpssResize`: `m_bVpssInited` before and after, and what is taken
and given back. -/
inductive VpssPath : Bool → Bool → List (Move VpssResource) → Prop
  | inited : VpssPath true true []
  | noGroup : VpssPath false false []
  | noChannel : VpssPath false false [.take .group, .give .group]
  | notStarted :
    VpssPath false false [.take .group, .take .channel, .give .channel, .give .group]
  | started : VpssPath false true [.take .group, .take .channel, .take .running]

theorem initVpssResize_path (vpssInited : Bool) (o : VpssOutcome) :
    VpssPath vpssInited (initVpssResize vpssInited o).1
      ((initVpssResize vpssInited o).2.1.filterMap vpssMove) := by
  unfold initVpssResize
  cases vpssInited with
  | true => exact .inited
  | false =>
    by_cases hc : o.createGrp = CVI_SUCCESS
    · -- A second `SetChnAttr` changes nothing in what is held.
      have hattr : (if o.setChnAttr = CVI_SUCCESS then
          [createGrp CVI_SUCCESS, setChnAttr o.setChnAttr]
          else [createGrp CVI_SUCCESS, setChnAttr o.setChnAttr,
            setChnAttr o.setChnAttrFallback]).filterMap vpssMove = [.take .group] := by
        split <;> rfl
      by_cases ha : o.setChnAttr ≠ CVI_SUCCESS ∧ o.setChnAttrFallback ≠ CVI_SUCCESS
      · simpa [hc, ha, vpssMove, List.filterMap_cons] using VpssPath.noChannel
      · by_cases he : o.enableChn = CVI_SUCCESS
        · by_cases hs : o.startGrp = CVI_SUCCESS
          · simpa [hc, ha, he, hs, vpssMove, List.filterMap_append, hattr] using VpssPath.started
          · simpa [hc, ha, he, hs, vpssMove, List.filterMap_append, hattr] using VpssPath.notStarted
        · simpa [hc, ha, he, vpssMove, List.filterMap_append, hattr] using VpssPath.noChannel
    · simpa [hc, vpssMove] using VpssPath.noGroup

theorem VpssPath.settles {s s' : Bool} {moves : List (Move VpssResource)}
    (h : VpssPath s s' moves) : settle (fun _ => s) moves = some (fun _ => s') := by
  cases h with
  | inited | noGroup => rfl
  | noChannel => exact settle_pair rfl
  | notStarted =>
    show settle nothing (.take VpssResource.group ::
      ([.take .channel, .give .channel] ++ [.give .group])) = some nothing
    exact settle_bracket rfl (settle_pair rfl)
  | started =>
    rw [settle_take rfl, settle_take rfl, settle_take rfl, settle_nil]
    congr 1
    funext k
    cases k <;> rfl

/-! ## The calls of a step -/

/-- `init` fails in `SAMPLE_PLAT_SYS_INIT` or in `SAMPLE_PLAT_VI_INIT`. -/
def FailsLate (o : InitOutcome) : Prop :=
  (o.iniToViCfg = CVI_SUCCESS ∧ o.getSizeBySensor = CVI_SUCCESS ∧ o.getPicSize = CVI_SUCCESS) ∧
    (o.commSysInit ≠ CVI_SUCCESS ∨ o.viStart ≠ CVI_SUCCESS)

instance : DecidablePred FailsLate := fun _ => inferInstanceAs (Decidable (_ ∧ _))

/-- A call of a method that tears down. -/
def TearsDown : Call → Prop
  | .init o => FailsLate o
  | .deinit => True
  | _ => False

instance : DecidablePred TearsDown
  | .init o => inferInstanceAs (Decidable (FailsLate o))
  | .deinit => inferInstanceAs (Decidable True)
  | .initVpssResize _ | .deinitVpssResize | .getFrameAsBGR _ | .getFrameAsNV21 _ =>
    inferInstanceAs (Decidable False)

/-- What a call of a method begins with. -/
def startMarks : Call → List Mark
  | .init _ => [.init]
  | _ => []

/-- What a call of a method is to the end of the system. -/
def callMarks (c : Call) : List Mark := startMarks c ++ if TearsDown c then [.teardown] else []

variable {e : CviCall}

theorem mem_teardowns : e ∈ teardowns ↔ e = destroyIsp ∨ e = destroyVi ∨ e = sysExit := by
  simp [teardowns]

/-- The calls `out` of a method as to the teardown `e`: it is not among them, which it is
for the end of the system if the method tears down, or once, after what the method begins
with. -/
inductive StepTeardown (e : CviCall) (c : Call) (out : List CviCall) : Prop
  | absent (h : e ∉ out) (hmarks : out.filterMap (mark e) = startMarks c)
    (hexit : e = sysExit → ¬TearsDown c)
  | once (pre post : List CviCall) (hc : TearsDown c) (h : out = pre ++ e :: post) (hpre : e ∉ pre)
    (hpost : e ∉ post) (hmarks : pre.filterMap (mark e) = startMarks c)
    (hrest : post.filterMap (mark e) = []) (hmoves : pre.filterMap vpssMove = [])

/-- `_SAMPLE_PLAT_ERR_Exit`, behind calls with which a method begins. -/
theorem stepTeardown_platErrExit (he : e ∈ teardowns) {c : Call} (hc : TearsDown c) (n : Int)
    {start : List CviCall} (hstart : e ∉ start) (hmarks : start.filterMap (mark e) = startMarks c)
    (hmoves : start.filterMap vpssMove = []) :
    StepTeardown e c (start ++ platErrExit n) := by
  unfold platErrExit
  rcases mem_teardowns.mp he with rfl | rfl | rfl <;> split
  · exact .once start [destroyVi, sysExit] hc rfl hstart (by decide) hmarks rfl hmoves
  · exact .absent (by simpa using hstart) (by simp [hmarks, mark]) (by simp)
  · exact .once (start ++ [destroyIsp]) [sysExit] hc (by simp) (by simpa using hstart) (by decide)
      (by simp [hmarks, mark]) rfl (by simp [hmoves, vpssMove])
  · exact .absent (by simpa using hstart) (by simp [hmarks, mark]) (by simp)
  · exact .once (start ++ [destroyIsp, destroyVi]) [] hc (by simp) (by simpa using hstart)
      (by decide) (by simp [hmarks, mark]) rfl (by simp [hmoves, vpssMove])
  · exact .once start [] hc rfl hstart (by decide) hmarks rfl hmoves

/-- The calls of `init` that go on. -/
def initCalls (o : InitOutcome) : List CviCall :=
  [iniToViCfg o.iniToViCfg, getSizeBySensor o.getSizeBySensor, getPicSize o.getPicSize,
    commSysInit o.commSysInit, viStart o.viStart]

/-- The ways out of `init`. -/
inductive InitPath (o : InitOutcome) : List CviCall → Prop
  | early (k : Nat) (h : ¬FailsLate o) : InitPath o (viSetDevNum :: (initCalls o).take k)
  | late (k : Nat) (n : Int) (h : FailsLate o) :
    InitPath o (viSetDevNum :: (initCalls o).take k ++ platErrExit n)

theorem init_path (sysViNum : Int) (o : InitOutcome) : InitPath o (init sysViNum o).2.1 := by
  unfold init platSysInit platViInit
  dsimp only
  by_cases h1 : o.iniToViCfg ≠ CVI_SUCCESS
  · rw [if_pos h1]
    exact .early 1 fun h => h1 h.1.1
  rw [if_neg h1]
  by_cases h2 : o.getSizeBySensor ≠ CVI_SUCCESS
  · rw [if_pos h2]
    exact .early 2 fun h => h2 h.1.2.1
  rw [if_neg h2]
  by_cases h3 : o.getPicSize ≠ CVI_SUCCESS
  · rw [if_pos h3]
    exact .early 3 fun h => h3 h.1.2.2
  rw [if_neg h3]
  have hcfg := And.intro (not_not.mp h1) (And.intro (not_not.mp h2) (not_not.mp h3))
  by_cases h4 : o.commSysInit ≠ CVI_SUCCESS
  · rw [if_pos h4, if_pos h4]
    exact .late 4 sysViNum ⟨hcfg, .inl h4⟩
  rw [if_neg h4, if_neg h4]
  by_cases h5 : o.viStart ≠ CVI_SUCCESS
  · rw [if_pos h5, if_pos h5]
    exact .late 5 o.workingViNum ⟨hcfg, .inr h5⟩
  · rw [if_neg h5, if_neg h5]
    exact .early 5 fun h => h.2.elim h4 h5

/-- What `init` does before it tears down. -/
theorem initCalls_quiet (he : e ∈ teardowns) (o : InitOutcome) (k : Nat) :
    e ∉ viSetDevNum :: (initCalls o).take k ∧
      (viSetDevNum :: (initCalls o).take k).filterMap (mark e) = [.init] ∧
      (viSetDevNum :: (initCalls o).take k).filterMap vpssMove = [] := by
  have hall : ∀ c ∈ viSetDevNum :: (initCalls o).take k, c ∉ teardowns ∧ vpssMove c = none := by
    intro c hc
    have hmem : c ∈ viSetDevNum :: initCalls o :=
      (List.cons_subset_cons _ (List.take_subset k _)) hc
    simp only [initCalls, List.mem_cons, List.not_mem_nil, or_false] at hmem
    rcases hmem with rfl | rfl | rfl | rfl | rfl | rfl <;> simp [teardowns, vpssMove]
  have hmarks : ((initCalls o).take k).filterMap (mark e) = [] := by
    refine List.filterMap_eq_nil_iff.mpr fun c hc => ?_
    have hmem : c ∈ initCalls o := List.take_subset k _ hc
    simp only [initCalls, List.mem_cons, List.not_mem_nil, or_false] at hmem
    rcases mem_teardowns.mp he with rfl | rfl | rfl <;>
      rcases hmem with rfl | rfl | rfl | rfl | rfl <;> simp [mark]
  refine ⟨fun h => (hall e h).1 he, ?_, List.filterMap_eq_nil_iff.mpr fun c hc => (hall c hc).2⟩
  rw [List.filterMap_cons_some (by simp [mark] : mark e viSetDevNum = some .init), hmarks]

theorem FramePath.marks {g s : Bool} {o : FrameOutcome} {res : List CviCall × Option Int}
    (h : FramePath g s o res) (he : e ∈ teardowns) : res.1.filterMap (mark e) = [] := by
  rcases mem_teardowns.mp he with rfl | rfl | rfl <;> cases h <;> rfl

theorem FramePath.moves {g s : Bool} {o : FrameOutcome} {res : List CviCall × Option Int}
    (h : FramePath g s o res) : res.1.filterMap vpssMove = [] := by
  cases h <;> rfl

theorem initVpssResize_marks (he : e ∈ teardowns) (s : Bool) (o : VpssOutcome) :
    (initVpssResize s o).2.1.filterMap (mark e) = [] := by
  unfold initVpssResize
  dsimp only
  split_ifs <;> rcases mem_teardowns.mp he with rfl | rfl | rfl <;> rfl

/-- Calls without a mark have no teardown among them. -/
theorem not_mem_of_marks (he : e ∈ teardowns) {calls : List CviCall}
    (h : calls.filterMap (mark e) = []) : e ∉ calls := by
  intro hmem
  have hmark : mark e e = some .teardown := by
    rcases mem_teardowns.mp he with rfl | rfl | rfl <;> rfl
  rw [List.filterMap_eq_nil_iff.mp h e hmem] at hmark
  cases hmark

/-- What a step does as to a teardown. -/
theorem step_teardown (he : e ∈ teardowns) (s : State) (c : Call) :
    StepTeardown e c (stepAlive s c).2 := by
  have quiet {c : Call} (hc : ¬TearsDown c) (hstart : startMarks c = [])
      (h : (stepAlive s c).2.filterMap (mark e) = []) : StepTeardown e c (stepAlive s c).2 :=
    .absent (not_mem_of_marks he h) (h.trans hstart.symm) fun _ => hc
  cases c with
  | init o =>
    show StepTeardown e (.init o) (init s.sysViNum o).2.1
    have hpath := init_path s.sysViNum o
    generalize (init s.sysViNum o).2.1 = calls at hpath
    cases hpath with
    | early k h =>
      obtain ⟨hmem, hmarks, -⟩ := initCalls_quiet he o k
      exact .absent hmem hmarks fun _ => h
    | late k n h =>
      obtain ⟨hmem, hmarks, hmoves⟩ := initCalls_quiet he o k
      exact stepTeardown_platErrExit he (c := .init o) h n hmem hmarks hmoves
  | deinit =>
    -- `deinit` tears down like `_SAMPLE_PLAT_ERR_Exit`.
    exact stepTeardown_platErrExit he (c := .deinit) trivial 1 List.not_mem_nil rfl rfl
  | initVpssResize o => exact quiet id rfl (initVpssResize_marks he s.vpssInited o)
  | deinitVpssResize =>
    refine quiet id rfl ?_
    obtain ⟨vpssInited, n⟩ := s
    rcases mem_teardowns.mp he with rfl | rfl | rfl <;> cases vpssInited <;> rfl
  | getFrameAsBGR o => exact quiet id rfl ((getFrameAsBGR_path s.vpssInited o).marks he)
  | getFrameAsNV21 o => exact quiet id rfl ((getFrameAsNV21_path s.vpssInited o).marks he)

/-- Whether the scaler is held: a process dies only where it is. -/
def vpssHeld : Option State → Bool
  | none => true
  | some s => s.vpssInited

/-- A call for a frame takes nothing of the scaler that it does not give back, and dies only
where the scaler is held. -/
theorem FramePath.settles {g : Bool} {s : State} {o : FrameOutcome}
    {res : List CviCall × Option Int} (h : FramePath g s.vpssInited o res) :
    settle (fun _ => s.vpssInited) (res.1.filterMap vpssMove) =
      some (fun _ => vpssHeld (res.2.map fun _ => s)) := by
  rw [h.moves]
  cases h with
  | notMapped _ h => exact congrArg (fun b => some fun _ => b) h.2.1
  | noFrame | notInited | notSent | notResized | used => rfl

theorem init_moves (sysViNum : Int) (o : InitOutcome) :
    (init sysViNum o).2.1.filterMap vpssMove = [] := by
  have hpath := init_path sysViNum o
  generalize (init sysViNum o).2.1 = calls at hpath
  have he : sysExit ∈ teardowns := by decide
  cases hpath with
  | early k => exact (initCalls_quiet he o k).2.2
  | late k n =>
    rw [List.filterMap_append, (initCalls_quiet he o k).2.2, platErrExit]
    split <;> rfl

/-- After a step the scaler is held if `m_bVpssInited` says so. -/
theorem settle_step (s : State) (c : Call) :
    settle (fun _ => s.vpssInited) ((stepAlive s c).2.filterMap vpssMove) =
      some (fun _ => vpssHeld (stepAlive s c).1) := by
  cases c with
  | init o => exact congrArg (settle _) (init_moves s.sysViNum o)
  | initVpssResize o => exact (initVpssResize_path s.vpssInited o).settles
  | deinitVpssResize =>
    obtain ⟨vpssInited, n⟩ := s
    cases vpssInited with
    | false => rfl
    | true =>
      show settle _ [.give VpssResource.running, .give .channel, .give .group] = _
      rw [settle_give rfl, settle_give rfl, settle_give rfl, settle_nil]
      congr 1
      funext k
      cases k <;> rfl
  | deinit => rfl
  | getFrameAsBGR o => exact (getFrameAsBGR_path s.vpssInited o).settles
  | getFrameAsNV21 o => exact (getFrameAsNV21_path s.vpssInited o).settles

/-! ## Runs -/

variable (sysViNum : Int) (calls : List Call)

/-- What is held after some calls. -/
def heldAfter : Bool := vpssHeld (viCapture.run (construct sysViNum) calls)

/-- No call for a frame has died, and the destructor is run. -/
def Ends : Prop := (viCapture.run (construct sysViNum) calls).isSome = true

instance : Decidable (Ends sysViNum calls) := inferInstanceAs (Decidable (_ = _))

/-- In every run what is held of the scaler is what `m_bVpssInited` says. -/
theorem settle_outputs :
    settle nothing ((viCapture.outputs (construct sysViNum) calls).filterMap vpssMove) =
      some (fun _ => heldAfter sysViNum calls) := by
  unfold heldAfter
  induction calls using List.reverseRecOn with
  | nil => rfl
  | append_singleton calls c ih =>
    rw [viCapture.outputs_snoc, List.filterMap_append, settle_append _ ih, viCapture.run_snoc]
    cases viCapture.run (construct sysViNum) calls with
    | none => rfl
    | some s => exact settle_step s c

theorem run_none : viCapture.run none calls = none := by
  induction calls with
  | nil => rfl
  | cons c calls ih => exact ih

variable {sysViNum calls}

theorem Ends.alive {pre post : List Call} (h : Ends sysViNum calls) (hc : calls = pre ++ post) :
    ∃ s, viCapture.run (construct sysViNum) pre = some s := by
  unfold Ends at h
  rw [hc, viCapture.run_append] at h
  cases hrun : viCapture.run (construct sysViNum) pre with
  | some s => exact ⟨s, rfl⟩
  | none =>
    rw [hrun, run_none] at h
    cases h

theorem Ends.whole (h : Ends sysViNum calls) :
    Ends sysViNum (calls ++ destructor) ∧ heldAfter sysViNum (calls ++ destructor) = false := by
  obtain ⟨s, hs⟩ := h.alive (List.append_nil calls).symm
  unfold Ends heldAfter
  rw [viCapture.run_append, hs]
  obtain ⟨vpssInited, n⟩ := s
  cases vpssInited <;> exact ⟨rfl, rfl⟩

variable (sysViNum calls)

/-- The scaler is given back by the end just when there is one. -/
theorem settle_lifetime_iff :
    settle nothing ((lifetime sysViNum calls).filterMap vpssMove) = some nothing ↔
      Ends sysViNum calls := by
  rw [lifetime, settle_outputs, Option.some_inj]
  by_cases h : Ends sysViNum calls
  · rw [h.whole.2]
    exact iff_of_true rfl h
  · refine iff_of_false (fun hheld => ?_) h
    have hdead : viCapture.run (construct sysViNum) calls = none := by
      rwa [Ends, Option.not_isSome_iff_eq_none] at h
    rw [heldAfter, viCapture.run_append, hdead, run_none] at hheld
    cases congrFun hheld .group

/-! ## Teardowns -/

/-- The marks `l` are the marks `m`, but for some teardowns. -/
structure NoMore (l m : List Mark) : Prop where
  inits : l.count .init = m.count .init
  teardowns : l.count .teardown ≤ m.count .teardown
  last : m.getLast? = some .init → l.getLast? = some .init

section NoMore

variable {l m : List Mark}

theorem NoMore.append (h : NoMore l m) (a : List Mark) : NoMore (l ++ a) (m ++ a) where
  inits := by rw [List.count_append, List.count_append, h.inits]
  teardowns := by
    rw [List.count_append, List.count_append]
    exact Nat.add_le_add_right h.teardowns _
  last hlast := by
    rcases List.eq_nil_or_concat a with rfl | ⟨a, x, rfl⟩
    · rw [List.append_nil] at hlast ⊢
      exact h.last hlast
    · rw [List.concat_eq_append, ← List.append_assoc, List.getLast?_concat] at hlast ⊢
      exact hlast

theorem NoMore.teardown (h : NoMore l m) : NoMore l (m ++ [.teardown]) where
  inits := by simpa using h.inits
  teardowns := by simpa using h.teardowns.trans (Nat.le_succ _)
  last hlast := by simp at hlast

theorem FewerThanInits.of_noMore (h : NoMore l m) (hm : FewerThanInits m) : FewerThanInits l := by
  unfold FewerThanInits at hm ⊢
  exact h.inits ▸ lt_of_le_of_lt h.teardowns hm

theorem InitSince.of_noMore (h : NoMore l m) (hm : InitSince m) : InitSince l := h.last hm

end NoMore

variable {sysViNum calls}

/-- The marks of a step. -/
theorem StepTeardown.marks {c : Call} {out : List CviCall} (h : StepTeardown e c out)
    (he : e ∈ teardowns) :
    out.filterMap (mark e) = callMarks c ∨
      e ≠ sysExit ∧ out.filterMap (mark e) = startMarks c ∧ TearsDown c := by
  cases h with
  | absent _ hmarks hexit =>
    by_cases hc : TearsDown c
    · exact .inr ⟨fun h => hexit h hc, hmarks, hc⟩
    · exact .inl (by rw [hmarks, callMarks, if_neg hc, List.append_nil])
  | once pre post hc h _ _ hmarks hrest =>
    have hmark : mark e e = some .teardown := by
      rcases mem_teardowns.mp he with rfl | rfl | rfl <;> rfl
    rw [h, List.filterMap_append, List.filterMap_cons_some hmark, hmarks, hrest, callMarks,
      if_pos hc]
    exact .inl rfl

/-- The ends of the system are as many as there are calls that tear down, and the other
teardowns no more. -/
theorem noMore_outputs (he : e ∈ teardowns) (h : Ends sysViNum calls) :
    NoMore ((viCapture.outputs (construct sysViNum) calls).filterMap (mark e))
        (calls.flatMap callMarks) ∧
      (e = sysExit → (viCapture.outputs (construct sysViNum) calls).filterMap (mark e) =
        calls.flatMap callMarks) := by
  induction calls using List.reverseRecOn with
  | nil => exact ⟨⟨rfl, le_rfl, id⟩, fun _ => rfl⟩
  | append_singleton calls c ih =>
    obtain ⟨s, hs⟩ := h.alive rfl
    have hEnds : Ends sysViNum calls := by
      rw [Ends, hs]
      rfl
    obtain ⟨hno, hexit⟩ := ih hEnds
    have hstep : (viCapture.step (viCapture.run (construct sysViNum) calls) c).2 =
        (stepAlive s c).2 := by
      rw [hs]
      rfl
    rw [viCapture.outputs_snoc, hstep, List.filterMap_append, List.flatMap_append,
      List.flatMap_singleton]
    rcases (step_teardown he s c).marks he with hm | ⟨hne, hm, hc⟩ <;> rw [hm]
    · exact ⟨hno.append _, fun h => by rw [hexit h]⟩
    · refine ⟨?_, fun h => absurd h hne⟩
      rw [callMarks, if_pos hc, ← List.append_assoc]
      exact (hno.append _).teardown

/-- Before every call that tears down, the destructor's included, there may be one more
teardown, with the init of that call counted, and the scaler is not held. -/
def InOrder (perInit : List Mark → Prop) (sysViNum : Int) (calls : List Call) : Prop :=
  ∀ pre c post, calls ++ destructor = pre ++ c :: post → TearsDown c →
    perInit (pre.flatMap callMarks ++ startMarks c) ∧ heldAfter sysViNum pre = false

section InOrder

variable {perInit : List Mark → Prop} {pre post : List Call} {c : Call}

/-- The calls of a step in the lifetime. -/
theorem Ends.step (h : Ends sysViNum calls) (hc : calls ++ destructor = pre ++ c :: post) :
    Ends sysViNum pre ∧ ∃ s, (viCapture.step (viCapture.run (construct sysViNum) pre) c).2 =
      (stepAlive s c).2 := by
  obtain ⟨s, hs⟩ := h.whole.1.alive hc
  refine ⟨?_, s, ?_⟩
  · rw [Ends, hs]
    rfl
  · rw [hs]
    rfl

theorem TornDown.inOrder (h : TornDown perInit (lifetime sysViNum calls)) :
    InOrder perInit sysViNum calls := by
  intro pre c post hpost hc
  have hexit : sysExit ∈ teardowns := by decide
  have hend := (settle_lifetime_iff sysViNum calls).mp h.vpss
  obtain ⟨hpre, s, hs⟩ := hend.step hpost
  have honce := (guarded_outputs viCapture _ _).mp (h.once sysExit hexit) pre c post hpost
  have hheld := (guarded_outputs viCapture _ _).mp h.beforeExit pre c post hpost
  rw [hs] at honce hheld
  cases step_teardown hexit s c with
  | absent _ _ hno => exact absurd hc (hno rfl)
  | once start rest _ hout _ _ hmarks _ hmoves =>
    have honce := honce start rest hout
    have hheld := hheld start rest hout
    dsimp only at honce hheld
    rw [List.filterMap_append, hmarks, (noMore_outputs hexit hpre).2 rfl] at honce
    rw [List.filterMap_append, hmoves, List.append_nil, settle_outputs, Option.some_inj] at hheld
    exact ⟨honce, congrFun hheld .group⟩

theorem InOrder.tornDown (hmono : ∀ l m, NoMore l m → perInit m → perInit l)
    (hend : Ends sysViNum calls) (h : InOrder perInit sysViNum calls) :
    TornDown perInit (lifetime sysViNum calls) := by
  refine ⟨fun e he => ?_, (settle_lifetime_iff sysViNum calls).mpr hend, ?_⟩
  · refine (guarded_outputs viCapture _ _).mpr fun pre c post hpost => ?_
    obtain ⟨hpre, s, hs⟩ := hend.step hpost
    rw [hs]
    cases step_teardown he s c with
    | absent hmem => exact guarded_of_not_mem hmem
    | once start rest hc hout hstart hrest hmarks =>
      rw [hout, guarded_middle hstart hrest, List.filterMap_append, hmarks]
      exact hmono _ _ ((noMore_outputs he hpre).1.append _) (h pre c post hpost hc).1
  · refine (guarded_outputs viCapture _ _).mpr fun pre c post hpost => ?_
    obtain ⟨-, s, hs⟩ := hend.step hpost
    rw [hs]
    cases step_teardown (by decide : sysExit ∈ teardowns) s c with
    | absent hmem => exact guarded_of_not_mem hmem
    | once start rest hc hout hstart hrest _ _ hmoves =>
      rw [hout, guarded_middle hstart hrest, List.filterMap_append, hmoves, List.append_nil,
        settle_outputs, (h pre c post hpost hc).2]
      rfl

end InOrder

/-- Whatever the calls and their outcomes, the scaler is given back once by the end, if it
comes. A lifetime is torn down as it should be, whether one counts the inits or asks for one
since the last teardown, exactly when it comes to its end, and at every call that tears down
(`deinit`, the destructor's included, and an init that fails late) there is an init for it
and the scaler is not held. -/
theorem tornDown_iff (sysViNum : Int) (calls : List Call) :
    (settle nothing ((lifetime sysViNum calls).filterMap vpssMove) = some nothing ↔
      Ends sysViNum calls) ∧
    (TornDown FewerThanInits (lifetime sysViNum calls) ↔
      Ends sysViNum calls ∧ InOrder FewerThanInits sysViNum calls) ∧
    (TornDown InitSince (lifetime sysViNum calls) ↔
      Ends sysViNum calls ∧ InOrder InitSince sysViNum calls) := by
  refine ⟨settle_lifetime_iff sysViNum calls, ?_, ?_⟩
  · exact ⟨fun h => ⟨(settle_lifetime_iff sysViNum calls).mp h.vpss, h.inOrder⟩,
      fun h => h.2.tornDown (fun _ _ => .of_noMore) h.1⟩
  · exact ⟨fun h => ⟨(settle_lifetime_iff sysViNum calls).mp h.vpss, h.inOrder⟩,
      fun h => h.2.tornDown (fun _ _ => .of_noMore) h.1⟩

/-- All calls of `init` succeed, with one sensor. -/
def initDone : InitOutcome := ⟨0, 1, 0, 0, 0, 0⟩

/-- `main` when `initVpssResize` fails: it calls `deinit`, and the destructor follows. -/
def vpssInitFailed : List Call := [.init initDone, .initVpssResize ⟨-1, 0, 0, 0, 0⟩, .deinit]

/-- `main` when `init` fails to start the system: it returns, and the destructor follows. -/
def sysInitFailed : List Call := [.init ⟨0, 1, 0, 0, -1, 0⟩]

/-- A caller that leaves all of it to the destructor. -/
def leftToDestructor : List Call := [.init initDone, .initVpssResize ⟨0, 0, 0, 0, 0⟩]

/-- In the first two the system is exited twice for one init; in the last, before the
scaler is given back. -/
theorem vpssInitFailed_exits_twice :
    ((lifetime 0 vpssInitFailed).count .sysExit = 2 ∧
      (lifetime 0 vpssInitFailed).count .viSetDevNum = 1) ∧
    ((lifetime 0 sysInitFailed).count .sysExit = 2 ∧
      (lifetime 0 sysInitFailed).count .viSetDevNum = 1) ∧
    ∀ calls ∈ [vpssInitFailed, sysInitFailed, leftToDestructor],
      ¬TornDown FewerThanInits (lifetime 0 calls) ∧ ¬TornDown InitSince (lifetime 0 calls) := by
  have hfewer {calls : List Call} (pre : List Call) (hcalls : calls ++ destructor =
      pre ++ [.deinit, .deinitVpssResize]) (hmarks : pre.flatMap callMarks = [.init, .teardown]) :
      ¬TornDown FewerThanInits (lifetime 0 calls) ∧ ¬TornDown InitSince (lifetime 0 calls) := by
    refine ⟨fun h => ?_, fun h => ?_⟩
    · have hper := (h.inOrder pre .deinit _ hcalls trivial).1
      rw [hmarks] at hper
      exact absurd hper (by decide : ¬1 < 1)
    · have hper := (h.inOrder pre .deinit _ hcalls trivial).1
      rw [hmarks] at hper
      cases hper
  have hheld (perInit : List Mark → Prop) : ¬TornDown perInit (lifetime 0 leftToDestructor) :=
    fun h => by cases (h.inOrder leftToDestructor .deinit _ rfl trivial).2
  refine ⟨⟨rfl, rfl⟩, ⟨rfl, rfl⟩, fun calls hcalls => ?_⟩
  simp only [List.mem_cons, List.not_mem_nil, or_false] at hcalls
  rcases hcalls with rfl | rfl | rfl
  · exact hfewer vpssInitFailed rfl rfl
  · exact hfewer sysInitFailed rfl rfl
  · exact ⟨hheld _, hheld _⟩

end TR.Proof.ViCapture
