import TennisRobot.Framework.Ledger
import TennisRobot.Impl.Esp32Capture

/-!
# Resources of the camera on the ESP32

The object has its file and its buffer, both or neither, and `m_initialized` says which
(`Sound`). So what is live in a run is what is recorded (`esp32_run`): `init` gives back
what it has taken wherever it gives up, and `deinit` all of it, however often it is called.
No frame is asked for but of an open camera, into its buffer, and a call that succeeds hands
out a picture of the size that was set last.
-/

namespace TR.Proof.Esp32Capture

open TR.Impl.Esp32Capture SysCall

/-! ## What is recorded -/

/-- What `init` acquires. -/
inductive Resource
  | file (fd : Int)
  | buffer (address : Nat)
deriving DecidableEq

/-- What a system call acquires or releases. -/
def resourceMove : SysCall → Option (Move Resource)
  | .openDev fd => fd.map fun n => .take (.file n)
  | .closeDev fd => some (.give (.file fd))
  | .malloc frameBuf => frameBuf.map fun a => .take (.buffer a)
  | .free a => some (.give (.buffer a))
  | _ => none

/-- What is recorded in `m_frameBuf` and `m_fd`. -/
def recorded (s : State) : List Resource :=
  s.frameBuf.toList.map .buffer ++ if 0 ≤ s.fd then [.file s.fd] else []

/-- The file is open and the buffer there, or neither, as `m_initialized` says. -/
def Sound (s : State) : Prop :=
  if s.initialized then 0 ≤ s.fd ∧ s.frameBuf.isSome else s.fd = -1 ∧ s.frameBuf = none

/-- What a call does to what is live. -/
def Settles (s : State) (calls : List SysCall) (s' : State) : Prop :=
  settleAll (recorded s : Multiset Resource) (calls.filterMap resourceMove) = some ↑(recorded s')

/-- A call that neither asks for a frame nor hands one out. -/
def frameless : SysCall → Bool
  | .camGetFrame .. => false
  | .picture .. => false
  | _ => true

/-- What a call hands out, and what it asks of the camera. -/
structure CallKept (r : Record State Call SysCall) : Prop where
  /-- A frame is asked for of an open camera only, into the buffer. -/
  frame : ∀ fd buf ret, camGetFrame fd buf ret ∈ r.out →
    r.pre.initialized = true ∧ fd = r.pre.fd ∧ 0 ≤ fd ∧ buf = r.pre.frameBuf ∧ buf.isSome
  /-- A picture has the size that was set. -/
  picture : ∀ cols rows, SysCall.picture cols rows ∈ r.out →
    cols = r.pre.targetW ∧ rows = r.pre.targetH
  /-- Where there is no picture, the call has failed, and says so or throws. -/
  returned : ∀ o, r.input = .getFrameAsBGR o →
    ((∃ cols rows, SysCall.picture cols rows ∈ r.out) ↔ (getFrameAsBGR r.pre o).2 = some 0)

variable {s : State}

theorem Sound.cases (h : Sound s) :
    (s.initialized = true ∧ (∃ fd : Nat, s.fd = fd) ∧ ∃ a, s.frameBuf = some a) ∨
      s.initialized = false ∧ s.fd = -1 ∧ s.frameBuf = none := by
  unfold Sound at h
  split at h
  · exact .inl ⟨‹_›, Int.eq_ofNat_of_zero_le h.1, Option.isSome_iff_exists.mp h.2⟩
  · exact .inr ⟨Bool.not_eq_true _ |>.mp ‹_›, h.1, h.2⟩

theorem recorded_closed (hfd : s.fd = -1) (hbuf : s.frameBuf = none) : recorded s = [] := by
  rw [recorded, hfd, hbuf]
  rfl

/-! ## One call -/

/-- `deinit` gives back what is recorded. -/
theorem deinit_moves (s : State) :
    (deinit s).2.filterMap resourceMove = (recorded s).map .give := by
  unfold deinit recorded
  cases s.frameBuf <;> by_cases hfd : 0 ≤ s.fd <;> simp [hfd, resourceMove]

theorem deinit_sound (h : Sound s) : Sound (deinit s).1 := by
  have hfd : 0 ≤ s.fd ∨ s.fd = -1 := by
    rcases h.cases with ⟨-, ⟨n, hn⟩, -⟩ | ⟨-, hfd, -⟩
    · exact .inl (hn ▸ Int.natCast_nonneg n)
    · exact .inr hfd
  refine ⟨?_, rfl⟩
  show (if 0 ≤ s.fd then -1 else s.fd) = -1
  split
  · rfl
  · exact hfd.resolve_left ‹_›

theorem recorded_deinit (h : Sound s) : recorded (deinit s).1 = [] :=
  recorded_closed (deinit_sound h).1 rfl

theorem deinit_settles (h : Sound s) : Settles s (deinit s).2 (deinit s).1 := by
  rw [Settles, deinit_moves, recorded_deinit h]
  exact settleAll_gives _

theorem deinit_frameless (s : State) : (deinit s).2.all frameless = true := by
  unfold deinit
  cases s.frameBuf <;> by_cases hfd : s.fd ≥ 0 <;> simp [hfd, frameless]

/-- What `init` comes to. -/
structure InitKept (s : State) (r : State × List SysCall × Int) : Prop where
  sound : Sound r.1
  settles : Settles s r.2.1 r.1
  frameless : r.2.1.all frameless = true

/-- `init` gives the file back where it gives up. -/
theorem init_kept (h : Sound s) (o : InitOutcome) : InitKept s (init s o) := by
  rcases h.cases with ⟨hi, -⟩ | ⟨hi, hfd, hbuf⟩
  · have hinit : init s o = (s, [], 0) := by simp [init, hi]
    rw [hinit]
    exact ⟨h, rfl, rfl⟩
  obtain ⟨fd, initialized, frameBuf, targetW, targetH, camInfo⟩ := s
  obtain rfl : initialized = false := hi
  obtain rfl : fd = -1 := hfd
  obtain rfl : frameBuf = none := hbuf
  unfold init
  cases hopen : o.fd with
  | none => exact ⟨⟨rfl, rfl⟩, rfl, rfl⟩
  | some n =>
    have hneg : ¬((n : Int) < 0) := Int.not_lt.mpr (Int.natCast_nonneg n)
    have pair : settleAll (0 : Multiset Resource)
        [.take (.file n), .give (.file n)] = some 0 :=
      (settleAll_take _).trans (settleAll_gives [Resource.file n])
    rw [if_neg Bool.false_ne_true]
    dsimp only [Option.elim_some]
    rw [if_neg hneg]
    split_ifs with h1 h2 h3
    · exact ⟨⟨rfl, rfl⟩, pair, rfl⟩
    · exact ⟨⟨rfl, rfl⟩, pair, rfl⟩
    · rw [Option.isNone_iff_eq_none] at h3
      rw [h3]
      exact ⟨⟨rfl, rfl⟩, pair, rfl⟩
    · obtain ⟨a, ha⟩ := Option.ne_none_iff_exists'.mp (mt Option.isNone_iff_eq_none.mpr h3)
      rw [ha]
      refine ⟨⟨Int.natCast_nonneg n, rfl⟩, ?_, rfl⟩
      show settleAll (0 : Multiset Resource) [.take (.file n), .take (.buffer a)] = _
      rw [settleAll_take, settleAll_take, settleAll_nil, recorded, if_pos (Int.natCast_nonneg n)]
      rfl

/-- A call for a frame asks an open camera, and hands a picture out or fails. -/
theorem getFrameAsBGR_cases (h : Sound s) (o : FrameOutcome) :
    getFrameAsBGR s o = ([], some (-1)) ∨
      (s.initialized = true ∧ 0 ≤ s.fd ∧ s.frameBuf.isSome) ∧
        ((∃ ret ≠ some 0,
            getFrameAsBGR s o = ([camGetFrame s.fd s.frameBuf o.camGetFrame], ret)) ∨
          getFrameAsBGR s o =
            ([camGetFrame s.fd s.frameBuf o.camGetFrame, .picture s.targetW s.targetH],
              some 0)) := by
  rcases h.cases with ⟨hi, ⟨n, hn⟩, a, ha⟩ | ⟨hi, -⟩
  · have hgo : ¬(!s.initialized || decide (s.fd < 0)) = true := by
      rw [hi, hn]
      simp
    refine .inr ⟨⟨hi, hn ▸ Int.natCast_nonneg n, ha ▸ rfl⟩, ?_⟩
    have hfail : some (-1 : Int) ≠ some 0 := by decide
    unfold getFrameAsBGR
    rw [if_neg hgo]
    dsimp only
    by_cases h1 : o.camGetFrame < 0
    · exact .inl ⟨_, hfail, if_pos h1⟩
    by_cases h2 : o.camGetFrame = 0
    · exact .inl ⟨_, hfail, (if_neg h1).trans (if_pos h2)⟩
    rw [if_neg h1, if_neg h2]
    cases o.decoded with
    | none => exact .inl ⟨_, hfail, rfl⟩
    | some size =>
      dsimp only
      split_ifs with h3 h4
      · exact .inl ⟨none, nofun, rfl⟩
      · exact .inr rfl
      · rw [not_or, not_not, not_not] at h3
        rw [h3.1, h3.2]
        exact .inr rfl
  · exact .inl (if_pos (by rw [hi]; rfl))

theorem getFrameAsBGR_quiet (h : Sound s) (o : FrameOutcome) :
    (getFrameAsBGR s o).1.filterMap resourceMove = [] := by
  rcases getFrameAsBGR_cases h o with hc | ⟨-, ⟨ret, -, hc⟩ | hc⟩ <;> rw [hc] <;> rfl

theorem step_kept (h : Sound s) (c : Call) :
    Sound (step s c).1 ∧ Settles s (step s c).2 (step s c).1 := by
  cases c with
  | init o => exact ⟨(init_kept h o).sound, (init_kept h o).settles⟩
  | deinit => exact ⟨deinit_sound h, deinit_settles h⟩
  | setResize targetW targetH => exact ⟨h, rfl⟩
  | getFrameAsBGR o =>
    refine ⟨h, ?_⟩
    show settleAll _ ((getFrameAsBGR s o).1.filterMap resourceMove) = _
    rw [getFrameAsBGR_quiet h]
    rfl

/-- A call with no frame in it keeps to the rules. -/
theorem callKept_of_frameless {c : Call} (hc : ∀ o, c ≠ .getFrameAsBGR o)
    (h : (step s c).2.all frameless = true) : CallKept (esp32Capture.record s c) := by
  have hall := List.all_eq_true.mp h
  exact ⟨fun fd buf ret hm => absurd (hall _ hm) Bool.false_ne_true,
    fun cols rows hm => absurd (hall _ hm) Bool.false_ne_true, fun o ho => absurd ho (hc o)⟩

theorem callKept_getFrameAsBGR (h : Sound s) (o : FrameOutcome) :
    CallKept (esp32Capture.record s (.getFrameAsBGR o)) := by
  have hout : (esp32Capture.record s (.getFrameAsBGR o)).out = (getFrameAsBGR s o).1 := rfl
  have hpre : (esp32Capture.record s (.getFrameAsBGR o)).pre = s := rfl
  refine ⟨fun fd buf ret hm => ?_, fun cols rows hm => ?_, fun o' ho => ?_⟩
  · rw [hout] at hm
    rcases getFrameAsBGR_cases h o with hc | ⟨⟨hi, hfd, hbuf⟩, ⟨ret, -, hc⟩ | hc⟩ <;>
      rw [hc] at hm <;> simp only [List.mem_cons, List.not_mem_nil, or_false, reduceCtorEq,
        SysCall.camGetFrame.injEq] at hm
    all_goals
      obtain ⟨rfl, rfl, -⟩ := hm
      exact ⟨hi, rfl, hfd, rfl, hbuf⟩
  · rw [hout] at hm
    rcases getFrameAsBGR_cases h o with hc | ⟨-, ⟨ret, -, hc⟩ | hc⟩ <;> rw [hc] at hm <;>
      simp only [List.mem_cons, List.not_mem_nil, or_false, false_or, reduceCtorEq,
        SysCall.picture.injEq] at hm
    exact hm
  · cases Call.getFrameAsBGR.inj ho
    rw [hout, hpre]
    rcases getFrameAsBGR_cases h o with hc | ⟨-, ⟨ret, hne, hc⟩ | hc⟩ <;> rw [hc] <;> simp
    exact hne

theorem callKept (h : Sound s) (c : Call) : CallKept (esp32Capture.record s c) := by
  cases c with
  | init o => exact callKept_of_frameless (fun _ => by simp) (init_kept h o).frameless
  | deinit => exact callKept_of_frameless (fun _ => by simp) (deinit_frameless s)
  | setResize targetW targetH => exact callKept_of_frameless (fun _ => by simp) rfl
  | getFrameAsBGR o => exact callKept_getFrameAsBGR h o

/-! ## Runs -/

theorem initial_sound : Sound initial := ⟨rfl, rfl⟩

/-- A run keeps the object sound, and what is live what is recorded. -/
theorem run_settles (calls : List Call) :
    Sound (esp32Capture.run initial calls) ∧
      settleAll 0 ((esp32Capture.outputs initial calls).filterMap resourceMove) =
        some ↑(recorded (esp32Capture.run initial calls)) := by
  induction calls using List.reverseRecOn with
  | nil => exact ⟨initial_sound, rfl⟩
  | append_singleton calls c ih =>
    obtain ⟨hs, hset⟩ := ih
    obtain ⟨hs', hset'⟩ := step_kept hs c
    rw [esp32Capture.run_snoc, esp32Capture.outputs_snoc, List.filterMap_append,
      settleAll_append _ hset]
    exact ⟨hs', hset'⟩

/-- In every run what is live is what is recorded, the buffer with the file, every call keeps
to its rules, and when the object is gone nothing is live. -/
theorem esp32_run (calls : List Call) :
    Sound (esp32Capture.run initial calls) ∧
      settleAll 0 ((esp32Capture.outputs initial calls).filterMap resourceMove) =
        some ↑(recorded (esp32Capture.run initial calls)) ∧
      (∀ r ∈ esp32Capture.log initial calls, CallKept r) ∧
      settleAll 0 ((esp32Capture.outputs initial (calls ++ [.deinit])).filterMap resourceMove) =
        some 0 := by
  obtain ⟨hs, hset⟩ := run_settles calls
  refine ⟨hs, hset, fun r hr => ?_, ?_⟩
  · exact esp32Capture.log_all (I := Sound) initial_sound (fun _ c h => (step_kept h c).1)
      (fun _ c h => callKept h c) hr
  · have hend := (run_settles (calls ++ [.deinit])).2
    rw [esp32Capture.run_snoc] at hend
    exact hend.trans (congrArg (fun l : List Resource => some (l : Multiset Resource))
      (recorded_deinit hs))

end TR.Proof.Esp32Capture
