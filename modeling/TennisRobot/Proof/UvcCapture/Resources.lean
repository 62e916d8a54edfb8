import TennisRobot.Framework.Ledger
import TennisRobot.Framework.Loop
import TennisRobot.Impl.UvcCapture

/-!
# Resources of the USB camera

What `open` acquires is recorded in `fd_`, `buffers_` and `buffer_count_`, a mapping
after the other, and `close` releases what is recorded (`close_moves`), wherever `open`
gives up. So in every run what is live is what is recorded (`resources_kept`).
-/

namespace TR.Proof.UvcCapture

open TR.Impl.UvcCapture SysCall

/-! ## What is recorded -/

/-- What `open` acquires; an allocation, with the buffers it has room for. -/
inductive Resource
  | file (fd : Int)
  | allocation (buffers : Nat)
  | mapping (start : Start) (length : Nat)
deriving DecidableEq

/-- What a system call acquires or releases. -/
def resourceMove : SysCall → Option (Move Resource)
  | .openDev _ fd => fd.map fun n => .take (.file n)
  | .closeDev fd => some (.give (.file fd))
  | .calloc buffers => buffers.map fun n => .take (.allocation n)
  | .free buffers => some (.give (.allocation buffers))
  | .mmap length (.mapped a) => some (.take (.mapping (.mapped a) length))
  | .munmap start length => some (.give (.mapping start length))
  | _ => none

/-- The mapping that a buffer records. -/
def bufferMapping : Buffer → Option Resource
  | ⟨.mapped a, length⟩ => some (.mapping (.mapped a) length)
  | _ => none

def recordedMappings (s : State) : List Resource :=
  ((s.buffers.getD []).take s.bufferCount.toNat).filterMap bufferMapping

def recordedAllocation (s : State) : List Resource :=
  if s.buffers.isSome then [.allocation s.bufferCount.toNat] else []

def recordedFile (s : State) : List Resource := if 0 ≤ s.fd then [.file s.fd] else []

/-- What is recorded in `fd_`, `buffers_` and `buffer_count_`. -/
def recorded (s : State) : List Resource :=
  recordedMappings s ++ recordedAllocation s ++ recordedFile s

/-- The object is closed. -/
def Closed (s : State) : Prop := s.fd = -1 ∧ s.buffers = none ∧ s.bufferCount = 0

/-- There are as many buffers as are counted, and a file is none only as -1. -/
structure Sound (s : State) : Prop where
  room : s.bufferCount.toNat = (s.buffers.getD []).length
  file : 0 ≤ s.fd ∨ s.fd = -1

/-- The calls make what `s'` records of what `s` records, and access no buffer where there
is none. -/
structure Tracks (s : State) (calls : List SysCall) (s' : State) : Prop where
  settled : settleAll (recorded s : Multiset Resource) (calls.filterMap resourceMove) =
    some ↑(recorded s')
  inBounds : outOfBounds ∉ calls

variable {s s' s'' : State} {calls : List SysCall}

theorem Tracks.trans {calls' : List SysCall} (h : Tracks s calls s') (h' : Tracks s' calls' s'') :
    Tracks s (calls ++ calls') s'' := by
  refine ⟨?_, fun hmem => (List.mem_append.mp hmem).elim h.inBounds h'.inBounds⟩
  rw [List.filterMap_append, settleAll_append _ h.settled]
  exact h'.settled

/-- A call that only asks the driver for something. -/
def Quiet (c : SysCall) : Prop := resourceMove c = none ∧ c ≠ outOfBounds

/-- Such calls leave all as it is. -/
theorem Tracks.of_quiet (hq : ∀ c ∈ calls, Quiet c) (hr : recorded s = recorded s') :
    Tracks s calls s' := by
  refine ⟨?_, fun hmem => (hq _ hmem).2 rfl⟩
  rw [List.filterMap_eq_nil_iff.mpr fun c hc => (hq c hc).1, hr, settleAll_nil]

theorem Tracks.refl (s : State) : Tracks s [] s :=
  .of_quiet (fun _ h => absurd h List.not_mem_nil) rfl

theorem Tracks.snoc_quiet (h : Tracks s calls s') {c : SysCall} (hq : Quiet c) :
    Tracks s (calls ++ [c]) s' :=
  h.trans (.of_quiet (fun _ hc => List.mem_singleton.mp hc ▸ hq) rfl)

theorem Closed.recorded_eq (h : Closed s) : recorded s = [] := by
  obtain ⟨hfd, hb, -⟩ := h
  simp [recorded, recordedMappings, recordedAllocation, recordedFile, hfd, hb]

theorem Closed.sound (h : Closed s) : Sound s :=
  ⟨by rw [h.2.1, h.2.2]; rfl, .inr h.1⟩

/-! ## Closing -/

theorem unmap_moves (b : Buffer) :
    (unmap (some b)).filterMap resourceMove = (bufferMapping b).toList.map .give := by
  obtain ⟨start, length⟩ := b
  cases start <;> rfl

/-- The loop of `close` releases the mappings. -/
theorem unmap_all_moves (bs : List Buffer) :
    ((List.range bs.length).flatMap fun i => unmap bs[i]?).filterMap resourceMove =
      (bs.filterMap bufferMapping).map .give := by
  rw [flatMap_range_getElem?]
  induction bs with
  | nil => rfl
  | cons b bs ih =>
    rw [List.flatMap_cons, List.filterMap_append, unmap_moves, ih, ← List.map_append]
    cases hb : bufferMapping b <;> simp [hb]

/-- `close` releases what is recorded. -/
theorem close_moves (h : Sound s) :
    (close s).2.filterMap resourceMove = (recorded s).map .give := by
  obtain ⟨fd, buffers, bufferCount, width, height⟩ := s
  cases buffers with
  | none =>
    by_cases hf : 0 ≤ fd <;> simp [close, recorded, recordedMappings, recordedAllocation,
      recordedFile, resourceMove, hf, List.filterMap_cons]
  | some bs =>
    have hlen : bufferCount.toNat = bs.length := h.room
    have hloop := unmap_all_moves bs
    unfold close
    dsimp only
    rw [hlen]
    generalize (List.range bs.length).flatMap (fun i => unmap bs[i]?) = loop at hloop ⊢
    by_cases hf : 0 ≤ fd <;> simp [recorded, recordedMappings, recordedAllocation,
      recordedFile, resourceMove, hf, hlen, hloop, List.filterMap_cons]

/-- `close` reads no more buffers than there are. -/
theorem close_inBounds (h : Sound s) : outOfBounds ∉ (close s).2 := by
  obtain ⟨fd, buffers, bufferCount, width, height⟩ := s
  cases buffers with
  | none => by_cases hf : 0 ≤ fd <;> simp [close, hf]
  | some bs =>
    have hlen : bufferCount.toNat = bs.length := h.room
    have hloop : outOfBounds ∉ (List.range bs.length).flatMap fun i => unmap bs[i]? := by
      rw [flatMap_range_getElem?, List.mem_flatMap]
      rintro ⟨⟨start, length⟩, -, hmem⟩
      cases start <;> simp [unmap] at hmem
    unfold close
    dsimp only
    rw [hlen]
    generalize (List.range bs.length).flatMap (fun i => unmap bs[i]?) = loop at hloop ⊢
    by_cases hf : 0 ≤ fd <;> simp [hf, hloop]

theorem close_closed (h : Sound s) : Closed (close s).1 := by
  refine ⟨?_, rfl, rfl⟩
  show (if 0 ≤ s.fd then -1 else s.fd) = -1
  split
  · rfl
  · exact h.file.resolve_left ‹_›

theorem close_tracks (h : Sound s) : Tracks s (close s).2 (close s).1 := by
  refine ⟨?_, close_inBounds h⟩
  rw [close_moves h, (close_closed h).recorded_eq, settleAll_gives]
  rfl

/-- Closing what is closed does nothing. -/
theorem Closed.close_eq (h : Closed s) : close s = (s, []) := by
  obtain ⟨fd, buffers, bufferCount, width, height⟩ := s
  obtain ⟨rfl, rfl, rfl⟩ := h
  rfl

/-! ## Opening -/

/-- What `open` comes to: it fails and the object is closed, or the object is sound; and
what is acquired is recorded. -/
structure OpenKept (s : State) (r : State × List SysCall × Int) : Prop where
  tracks : Tracks s r.2.1 r.1
  sound : Sound r.1
  failed : r.2.2 ≠ 0 → Closed r.1

/-- `open` gives up. -/
theorem closeAndFail_kept (h : Sound s') (ht : Tracks s calls s') :
    OpenKept s (closeAndFail s' calls) where
  tracks := ht.trans (close_tracks h)
  sound := (close_closed h).sound
  failed _ := close_closed h

theorem setBuffer_sound (h : Sound s) (i : Nat) (b : Buffer) : Sound (s.setBuffer i b) := by
  refine ⟨h.room.trans ?_, h.file⟩
  unfold State.setBuffer
  cases s.buffers with
  | none => rfl
  | some bs => exact List.length_set.symm

/-- A buffer is written after those in `pre`, where the blank ones begin. -/
theorem setBuffer_buffers {pre : List Buffer} {n : Nat} (b : Buffer)
    (hb : s.buffers = some (pre ++ List.replicate (n + 1) .zero)) :
    (s.setBuffer pre.length b).buffers = some ((pre ++ [b]) ++ List.replicate n .zero) := by
  unfold State.setBuffer
  rw [hb]
  simp [List.replicate_succ]

/-- Blank buffers record nothing. -/
theorem recorded_of_blank (h : Sound s) {pre : List Buffer} {n : Nat}
    (hb : s.buffers = some (pre ++ List.replicate n .zero)) :
    recorded s = pre.filterMap bufferMapping ++ (recordedAllocation s ++ recordedFile s) := by
  have hn : s.bufferCount.toNat = (pre ++ List.replicate n Buffer.zero).length := by
    rw [h.room, hb, Option.getD_some]
  have hblank : (List.replicate n Buffer.zero).filterMap bufferMapping = [] := by
    rw [List.filterMap_eq_nil_iff]
    intro b hmem
    cases List.eq_of_mem_replicate hmem
    rfl
  unfold recorded recordedMappings
  rw [hb, Option.getD_some, hn, List.take_length, List.filterMap_append, hblank, List.append_nil,
    List.append_assoc]

/-- What is recorded once a buffer is written after those in `pre`. -/
theorem recorded_setBuffer (h : Sound s) {pre : List Buffer} {n : Nat} (b : Buffer)
    (hb : s.buffers = some (pre ++ List.replicate (n + 1) .zero)) :
    (recorded (s.setBuffer pre.length b) : Multiset Resource) =
      (bufferMapping b).toList + recorded s := by
  have hsome : recordedAllocation (s.setBuffer pre.length b) = recordedAllocation s := by
    simp [recordedAllocation, State.setBuffer]
  have hone : [b].filterMap bufferMapping = (bufferMapping b).toList := by
    cases hb : bufferMapping b <;> simp [hb]
  rw [recorded_of_blank (setBuffer_sound h _ b) (setBuffer_buffers b hb), recorded_of_blank h hb,
    hsome, List.filterMap_append, hone, Multiset.coe_add, Multiset.coe_eq_coe, List.append_assoc]
  exact List.perm_append_comm_assoc _ _ _

/-- A round of the loop that maps the buffers: what is mapped is recorded. -/
theorem setBuffer_tracks (h : Sound s) {pre : List Buffer} {n : Nat} (b : Buffer) (ret : Int)
    (hb : s.buffers = some (pre ++ List.replicate (n + 1) .zero)) :
    Tracks s [queryBuf pre.length ret, mmap b.length b.start] (s.setBuffer pre.length b) := by
  have hmoves : [queryBuf pre.length ret, mmap b.length b.start].filterMap resourceMove =
      (bufferMapping b).toList.map .take := by
    obtain ⟨start, length⟩ := b
    cases start <;> rfl
  refine ⟨?_, by simp⟩
  rw [hmoves, settleAll_takes, recorded_setBuffer h b hb]

/-- The loop that maps the buffers, from the first blank one: whichever round gives up,
what is mapped by then is recorded. -/
theorem mapBuffers_tracks (o : OpenOutcome) {n i : Nat} {pre : List Buffer} (h : Sound s)
    (hi : pre.length = i) (hb : s.buffers = some (pre ++ List.replicate n .zero)) :
    Tracks s (mapBuffers o n i s).2.1 (mapBuffers o n i s).1 ∧ Sound (mapBuffers o n i s).1 := by
  induction n generalizing s i pre with
  | zero => exact ⟨.refl s, h⟩
  | succ n ih =>
    subst hi
    unfold mapBuffers
    by_cases hq : o.queryBuf pre.length < 0
    · dsimp only
      rw [if_pos hq]
      exact ⟨(Tracks.refl s).snoc_quiet ⟨rfl, nofun⟩, h⟩
    · dsimp only
      rw [if_neg hq]
      cases hm : o.mmap pre.length with
      | none =>
        let b : Buffer := ⟨.MAP_FAILED, (o.length pre.length).toNat⟩
        exact ⟨setBuffer_tracks h b _ hb, setBuffer_sound h _ b⟩
      | some a =>
        let b : Buffer := ⟨.mapped a, (o.length pre.length).toNat⟩
        have hpre : (pre ++ [b]).length = pre.length + 1 := by simp
        obtain ⟨ht, hs⟩ := ih (setBuffer_sound h pre.length b) hpre (setBuffer_buffers b hb)
        exact ⟨(setBuffer_tracks h b _ hb).trans ht, hs⟩

theorem queueBuffers_quiet (o : OpenOutcome) (n i : Nat) :
    ∀ c ∈ (queueBuffers o n i).1, Quiet c := by
  induction n generalizing i with
  | zero => exact fun c hc => absurd hc List.not_mem_nil
  | succ n ih =>
    have hq : Quiet (qBuf i (o.qBuf i)) := ⟨rfl, nofun⟩
    unfold queueBuffers
    dsimp only
    split
    · exact fun c hc => List.mem_singleton.mp hc ▸ hq
    · intro c hc
      rcases List.mem_cons.mp hc with rfl | hc
      · exact hq
      · exact ih (i + 1) c hc

theorem recorded_of_none (hb : s.buffers = none) : recorded s = recordedFile s := by
  simp [recorded, recordedMappings, recordedAllocation, hb]

theorem allocate_buffers (hneg : ¬s.bufferCount < 0) :
    s.allocate.buffers = some ([] ++ List.replicate s.bufferCount.toNat .zero) :=
  if_neg hneg

theorem allocate_sound (hf : 0 ≤ s.fd ∨ s.fd = -1) : Sound s.allocate := by
  refine ⟨?_, hf⟩
  by_cases hneg : s.bufferCount < 0
  · have hnone : s.allocate.buffers = none := if_pos hneg
    rw [hnone]
    exact Int.toNat_of_nonpos (Int.le_of_lt hneg)
  · rw [allocate_buffers hneg, Option.getD_some, List.nil_append, List.length_replicate]
    rfl

theorem allocate_tracks (hf : 0 ≤ s.fd ∨ s.fd = -1) (hb : s.buffers = none) :
    Tracks s [calloc (s.allocate.buffers.map List.length)] s.allocate := by
  refine ⟨?_, by simp⟩
  by_cases hneg : s.bufferCount < 0
  · have hnone : s.allocate.buffers = none := if_pos hneg
    rw [recorded_of_none hb, recorded_of_none hnone, hnone]
    rfl
  · have hsome := allocate_buffers hneg
    have halloc : recordedAllocation s.allocate = [.allocation s.bufferCount.toNat] := by
      unfold recordedAllocation
      rw [hsome]
      rfl
    rw [recorded_of_blank (allocate_sound hf) hsome, halloc, recorded_of_none hb, hsome,
      List.nil_append]
    simp only [Option.map_some, List.length_replicate]
    exact settleAll_take _

/-- The device is opened, and no more than that. -/
theorem opened_tracks (h : Closed s) {n : Nat} (hb : s'.buffers = none) (hf : s'.fd = n)
    (hm : calls.filterMap resourceMove = [.take (.file n)]) (hin : outOfBounds ∉ calls) :
    Tracks s calls s' := by
  have hrec : recorded s' = [.file n] := by
    rw [recorded_of_none hb, recordedFile, hf, if_pos (Int.natCast_nonneg n)]
  refine ⟨?_, hin⟩
  rw [hm, h.recorded_eq, hrec]
  rfl

/-- The loop that maps the buffers, from the first one on. -/
theorem mapBuffers_allocate (o : OpenOutcome) (h : Sound s.allocate) :
    Tracks s.allocate (mapBuffers o s.bufferCount.toNat 0 s.allocate).2.1
        (mapBuffers o s.bufferCount.toNat 0 s.allocate).1 ∧
      Sound (mapBuffers o s.bufferCount.toNat 0 s.allocate).1 := by
  by_cases hneg : s.bufferCount < 0
  · rw [Int.toNat_of_nonpos (Int.le_of_lt hneg)]
    exact ⟨.refl _, h⟩
  · exact mapBuffers_tracks o h rfl (allocate_buffers hneg)

/-- From the mapping of the buffers on, `open` records what it acquires, and releases it
if it fails. -/
theorem openBuffers_kept (hf : 0 ≤ s'.fd ∨ s'.fd = -1) (hb : s'.buffers = none)
    (ht : Tracks s calls s') (o : OpenOutcome) : OpenKept s (openBuffers s' calls o) := by
  have ha : Sound s'.allocate := allocate_sound hf
  have htm := mapBuffers_allocate o ha
  unfold openBuffers
  have hcount : s'.allocate.bufferCount = s'.bufferCount := rfl
  dsimp only
  rw [hcount]
  generalize mapBuffers o s'.bufferCount.toNat 0 s'.allocate = m at htm
  obtain ⟨htm, hsm⟩ := htm
  have ht₁ := (ht.trans (allocate_tracks hf hb)).trans htm
  by_cases hm : m.2.2 = false
  · rw [if_pos hm]
    exact closeAndFail_kept hsm ht₁
  rw [if_neg hm]
  have ht₂ := ht₁.trans (.of_quiet (queueBuffers_quiet o m.1.bufferCount.toNat 0) rfl)
  by_cases hq : (queueBuffers o m.1.bufferCount.toNat 0).2 = false
  · rw [if_pos hq]
    exact closeAndFail_kept hsm ht₂
  rw [if_neg hq]
  have hquiet : Quiet (streamOn o.streamOn) := ⟨rfl, nofun⟩
  have ht₃ := ht₂.snoc_quiet hquiet
  by_cases hon : o.streamOn < 0
  · rw [if_pos hon]
    exact closeAndFail_kept hsm ht₃
  · rw [if_neg hon]
    exact ⟨ht₃, hsm, fun hne => absurd rfl hne⟩

/-- Whatever the kernel returns, an `open` on a closed object records what it acquires,
and closes the object again if it fails. -/
theorem open_kept (h : Closed s) (deviceIndex width height : Int) (o : OpenOutcome) :
    OpenKept s (open_ s deviceIndex width height o) := by
  have hroom : s.bufferCount.toNat = (s.buffers.getD []).length := h.sound.room
  unfold open_
  cases hfd : o.fd with
  | none =>
    have hclosed : Closed { s with fd := -1, width := width, height := height } := ⟨rfl, h.2⟩
    have hquiet : Quiet (openDev deviceIndex none) := ⟨rfl, nofun⟩
    show OpenKept s ({ s with fd := -1, width := width, height := height }, [_], -1)
    refine ⟨.of_quiet (fun c hc => List.mem_singleton.mp hc ▸ hquiet) ?_, hclosed.sound,
      fun _ => hclosed⟩
    rw [h.recorded_eq, hclosed.recorded_eq]
  | some n =>
    have hn : 0 ≤ (n : Int) ∨ (n : Int) = -1 := .inl (Int.natCast_nonneg n)
    dsimp only [Option.elim_some]
    rw [if_neg (Int.not_lt.mpr (Int.natCast_nonneg n))]
    by_cases hcap : o.queryCap < 0
    · rw [if_pos hcap]
      exact closeAndFail_kept ⟨hroom, hn⟩ (opened_tracks h h.2.1 rfl rfl (by simp))
    rw [if_neg hcap]
    generalize hcalls : (if o.sFmtMjpeg < 0 then _ else _) = calls
    have hm : calls.filterMap resourceMove = [.take (.file n)] := by
      rw [← hcalls]
      split <;> rfl
    have hin : outOfBounds ∉ calls := by
      rw [← hcalls]
      split <;> simp
    by_cases hfmt : o.sFmtMjpeg < 0 ∧ o.sFmtYuyv < 0
    · rw [if_pos hfmt]
      exact closeAndFail_kept ⟨hroom, hn⟩ (opened_tracks h h.2.1 rfl hm hin)
    rw [if_neg hfmt]
    -- What is recorded is no more than the file until the buffers are allocated.
    have ht₁ : ∀ s', s'.buffers = none → s'.fd = (n : Int) →
        Tracks s (calls ++ [gFmt o.gFmt]) s' :=
      fun s' hb hf => (opened_tracks h hb hf hm hin).snoc_quiet ⟨rfl, nofun⟩
    by_cases hget : o.gFmt < 0
    · rw [if_pos hget]
      exact closeAndFail_kept ⟨hroom, hn⟩ (ht₁ _ h.2.1 rfl)
    rw [if_neg hget]
    have ht₂ : ∀ s', s'.buffers = none → s'.fd = (n : Int) →
        Tracks s (calls ++ [gFmt o.gFmt] ++ [reqBufs BUFFER_COUNT o.reqBufs]) s' :=
      fun s' hb hf => (ht₁ s' hb hf).snoc_quiet ⟨rfl, nofun⟩
    by_cases hreq : o.reqBufs < 0 ∨ o.count < 2
    · rw [if_pos hreq]
      exact closeAndFail_kept ⟨hroom, hn⟩ (ht₂ _ h.2.1 rfl)
    rw [if_neg hreq]
    apply openBuffers_kept
    · exact hn
    · exact h.2.1
    · exact ht₂ _ h.2.1 rfl

/-! ## Frames -/

/-- What a system call does to the driver's queue: a buffer leaves it, or is handed back,
whether the driver takes it or not. -/
def queueMove : SysCall → Option (Move Nat)
  | .dqBuf index ret => if ret < 0 then none else some (.take index)
  | .qBuf index _ => some (.give index)
  | _ => none

/-- What `getFrame` keeps to: a buffer that leaves the queue is handed back, and no more
is written than there is room for. -/
structure FrameKept (s : State) (cap : Nat) (o : FrameOutcome) (calls : List SysCall) : Prop where
  quiet : calls.filterMap resourceMove = []
  requeued : settleAll 0 (calls.filterMap queueMove) = some 0
  capped : ∀ start length, memcpy start length ∈ calls → length ≤ cap
  inBounds : (o.index.toNat : Int) < s.bufferCount → outOfBounds ∉ calls

/-- There is a buffer at every index below the count. -/
theorem exists_buffer (h : Sound s) {i : Nat} (hi : (i : Int) < s.bufferCount) :
    ∃ b, s.buffers.bind (·[i]?) = some b := by
  have hlt : i < (s.buffers.getD []).length := by
    rw [← h.room]
    omega
  cases hbs : s.buffers with
  | none =>
    rw [hbs] at hlt
    exact absurd hlt (Nat.not_lt_zero i)
  | some bs =>
    rw [hbs] at hlt
    exact ⟨_, List.getElem?_eq_getElem hlt⟩

theorem getFrame_kept (h : Sound s) (cap : Nat) (timeoutMs : Int) (o : FrameOutcome) :
    FrameKept s cap o (getFrame s cap timeoutMs o).1 := by
  unfold getFrame
  by_cases hfd : s.fd < 0
  · rw [if_pos hfd]
    exact ⟨rfl, rfl, by simp, by simp⟩
  rw [if_neg hfd]
  by_cases hsel : o.select ≤ 0
  · dsimp only
    rw [if_pos hsel]
    exact ⟨rfl, rfl, by simp, by simp⟩
  dsimp only
  rw [if_neg hsel]
  by_cases hdq : o.dqBuf < 0
  · rw [if_pos hdq]
    exact ⟨rfl, by simp [queueMove, hdq, List.filterMap_cons], by simp, by simp⟩
  rw [if_neg hdq]
  generalize hcopy : (if toSizeT (toInt o.bytesused) < cap then _ else cap) = copyLen
  have hcap : copyLen ≤ cap := by
    rw [← hcopy]
    split
    · exact Nat.le_of_lt ‹_›
    · exact Nat.le_refl cap
  have hqueue : settleAll 0 [.take o.index.toNat, .give o.index.toNat] = some 0 := settleAll_give _
  cases hb : s.buffers.bind (·[o.index.toNat]?) with
  | some b =>
    refine ⟨rfl, by simpa [queueMove, hdq, List.filterMap_cons] using hqueue, ?_, by simp⟩
    intro start length hmem
    simp only [List.mem_append, List.mem_singleton, reduceCtorEq, false_or, or_false,
      memcpy.injEq] at hmem
    exact hmem.2 ▸ hcap
  | none =>
    refine ⟨rfl, by simpa [queueMove, hdq, List.filterMap_cons] using hqueue, by simp, fun hi => ?_⟩
    obtain ⟨b, hsome⟩ := exists_buffer h hi
    cases hb.symm.trans hsome

/-! ## Runs -/

/-- `open` is called on a closed object only. -/
def OpensClosed (calls : List Call) : Prop :=
  ∀ pre deviceIndex width height o post,
    calls = pre ++ .open_ deviceIndex width height o :: post → Closed (uvcCapture.run initial pre)

/-- What the call of a step keeps to. -/
structure CallKept (r : Record State Call SysCall) : Prop where
  failedOpen : ∀ deviceIndex width height o, r.input = .open_ deviceIndex width height o →
    (open_ r.pre deviceIndex width height o).2.2 ≠ 0 →
      Closed (uvcCapture.step r.pre r.input).1 ∧
      settleAll 0 (r.out.filterMap resourceMove) = some 0
  /-- A second `close` does nothing. -/
  closed : r.input = .close → Closed (uvcCapture.step r.pre r.input).1 ∧
    uvcCapture.step (uvcCapture.step r.pre r.input).1 .close =
      ((uvcCapture.step r.pre r.input).1, [])
  requeued : ∀ cap timeoutMs o, r.input = .getFrame cap timeoutMs o →
    settleAll 0 (r.out.filterMap queueMove) = some 0
  capped : ∀ cap timeoutMs o, r.input = .getFrame cap timeoutMs o →
    ∀ start length, memcpy start length ∈ r.out → length ≤ cap
  /-- If the driver returns an index below the count. -/
  inBounds : (∀ cap timeoutMs o, r.input = .getFrame cap timeoutMs o →
    (o.index.toNat : Int) < r.pre.bufferCount) → outOfBounds ∉ r.out

theorem open_callKept (h : Closed s) (deviceIndex width height : Int) (o : OpenOutcome) :
    CallKept (uvcCapture.record s (.open_ deviceIndex width height o)) := by
  have hk := open_kept h deviceIndex width height o
  have hset := hk.tracks.settled
  have hin := hk.tracks.inBounds
  have hfailed := hk.failed
  rw [h.recorded_eq] at hset
  refine ⟨?_, fun h => (by cases h), fun _ _ _ h => (by cases h), fun _ _ _ h => (by cases h),
    fun _ => ?_⟩
  · rintro _ _ _ _ ⟨⟩
    dsimp only [Machine.record, uvcCapture, step]
    intro hret
    have hclosed := hfailed hret
    rw [hclosed.recorded_eq] at hset
    exact ⟨hclosed, hset⟩
  · dsimp only [Machine.record, uvcCapture, step]
    exact hin

theorem close_callKept (h : Sound s) : CallKept (uvcCapture.record s .close) := by
  have hclosed := close_closed h
  refine ⟨fun _ _ _ _ h => (by cases h), fun _ => ?_, fun _ _ _ h => (by cases h),
    fun _ _ _ h => (by cases h), fun _ => ?_⟩
  · dsimp only [Machine.record, uvcCapture, step]
    exact ⟨hclosed, hclosed.close_eq⟩
  · dsimp only [Machine.record, uvcCapture, step]
    exact close_inBounds h

theorem getFrame_callKept (h : Sound s) (cap : Nat) (timeoutMs : Int) (o : FrameOutcome) :
    CallKept (uvcCapture.record s (.getFrame cap timeoutMs o)) := by
  have hk := getFrame_kept h cap timeoutMs o
  refine ⟨fun _ _ _ _ h => (by cases h), fun h => (by cases h), ?_, ?_, fun hi => ?_⟩
  · rintro _ _ _ ⟨⟩
    dsimp only [Machine.record, uvcCapture, step]
    exact hk.requeued
  · rintro _ _ _ ⟨⟩
    dsimp only [Machine.record, uvcCapture, step]
    exact hk.capped
  · have hlt := hi cap timeoutMs o rfl
    dsimp only [Machine.record, uvcCapture, step] at hlt ⊢
    exact hk.inBounds hlt

/-- A call makes what is live afterwards of what was live before. -/
theorem step_tracks (h : Sound s) (c : Call)
    (hc : ∀ deviceIndex width height o, c = .open_ deviceIndex width height o → Closed s) :
    Sound (uvcCapture.step s c).1 ∧ settleAll (recorded s : Multiset Resource)
        ((uvcCapture.step s c).2.filterMap resourceMove) =
      some ↑(recorded (uvcCapture.step s c).1) ∧ CallKept (uvcCapture.record s c) := by
  cases c with
  | open_ deviceIndex width height o =>
    have hs := hc deviceIndex width height o rfl
    have hk := open_kept hs deviceIndex width height o
    exact ⟨hk.sound, hk.tracks.settled, open_callKept hs deviceIndex width height o⟩
  | close =>
    exact ⟨(close_closed h).sound, (close_tracks h).settled, close_callKept h⟩
  | getFrame cap timeoutMs o =>
    have hk := getFrame_kept h cap timeoutMs o
    have hset : settleAll (recorded s : Multiset Resource)
        ((getFrame s cap timeoutMs o).1.filterMap resourceMove) = some ↑(recorded s) := by
      rw [hk.quiet, settleAll_nil]
    exact ⟨h, hset, getFrame_callKept h cap timeoutMs o⟩

theorem initial_closed : Closed initial := ⟨rfl, rfl, rfl⟩

theorem OpensClosed.init {calls : List Call} {c : Call} (h : OpensClosed (calls ++ [c])) :
    OpensClosed calls := by
  rintro pre deviceIndex width height o post rfl
  exact h pre deviceIndex width height o (post ++ [c]) (by simp)

/-- A run keeps the object sound, and what is live what is recorded. -/
theorem run_kept {calls : List Call} (h : OpensClosed calls) :
    Sound (uvcCapture.run initial calls) ∧
      settleAll 0 ((uvcCapture.outputs initial calls).filterMap resourceMove) =
        some ↑(recorded (uvcCapture.run initial calls)) ∧
      ∀ r ∈ uvcCapture.log initial calls, CallKept r := by
  induction calls using List.reverseRecOn with
  | nil => exact ⟨initial_closed.sound, rfl, fun r hr => absurd hr List.not_mem_nil⟩
  | append_singleton calls c ih =>
    obtain ⟨hs, hset, hlog⟩ := ih h.init
    have hopen : ∀ deviceIndex width height o, c = .open_ deviceIndex width height o →
        Closed (uvcCapture.run initial calls) := by
      rintro deviceIndex width height o rfl
      exact h calls deviceIndex width height o [] rfl
    obtain ⟨hs', hset', hcall⟩ := step_tracks hs c hopen
    rw [uvcCapture.run_snoc, uvcCapture.outputs_snoc, uvcCapture.log_snoc, List.filterMap_append,
      settleAll_append _ hset]
    refine ⟨hs', hset', fun r hr => ?_⟩
    rcases List.mem_append.mp hr with hr | hr
    · exact hlog r hr
    · exact List.mem_singleton.mp hr ▸ hcall

/-- In every run in which `open` is called on a closed object only, whatever the kernel
returns, what is live is what is recorded, and every call keeps to its rules. -/
theorem resources_kept (calls : List Call) (h : OpensClosed calls) :
    settleAll 0 ((uvcCapture.outputs initial calls).filterMap resourceMove) =
        some ↑(recorded (uvcCapture.run initial calls)) ∧
      ∀ r ∈ uvcCapture.log initial calls, CallKept r :=
  (run_kept h).2

/-- Two buffers are granted; the second is mapped if `mapped`. -/
def twoBuffers (mapped : Bool) : OpenOutcome where
  fd := some 3
  queryCap := 0
  sFmtMjpeg := -1
  sFmtYuyv := 0
  gFmt := 0
  pixWidth := 640
  pixHeight := 480
  reqBufs := 0
  count := 2
  queryBuf := fun _ => 0
  length := fun _ => 4096
  mmap := fun i => if i = 0 then some 65536 else if mapped then some 131072 else none
  qBuf := fun _ => 0
  streamOn := 0

/-- A first `open` fails at the second buffer; a second goes through, a frame is read and
the object closed. -/
def openTwice : List Call :=
  [.open_ 0 640 480 (twoBuffers false), .open_ 0 640 480 (twoBuffers true),
    .getFrame 100 200 ⟨1, 0, 1, 4000, 0⟩, .close]

theorem openTwice_opensClosed : OpensClosed openTwice := by
  intro pre deviceIndex width height o post he
  rcases pre with _ | ⟨c₁, _ | ⟨c₂, pre⟩⟩
  · exact initial_closed
  · obtain ⟨rfl, -⟩ := List.cons.inj he
    exact ⟨rfl, rfl, rfl⟩
  · -- Nothing is opened after the second time.
    have hmem : Call.open_ deviceIndex width height o ∈ openTwice.drop 2 := by
      rw [he]
      simp
    simp [openTwice] at hmem

theorem resources_kept_openTwice :
    settleAll 0 ((uvcCapture.outputs initial openTwice).filterMap resourceMove) =
        some ↑(recorded (uvcCapture.run initial openTwice)) ∧
      ∀ r ∈ uvcCapture.log initial openTwice, CallKept r :=
  resources_kept openTwice openTwice_opensClosed

end TR.Proof.UvcCapture
