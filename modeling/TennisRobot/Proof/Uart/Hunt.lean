import Mathlib.Algebra.Ring.Parity
import Mathlib.Data.List.Infix
import TennisRobot.Impl.Uart

/-!
# The hunt for the start of a frame

`hunt` looks for the pair `AA 55`, and takes the bytes two at a time after an
`AA`: in a run of them every second one only ends the pair that the one before
it opened. It has a pair open where the outcomes so far end in an odd number of
`AA` (`sofRun`), and `Searching` says of the outcomes so far that the hunt goes
on after them (`hunt_append`). So it waits for more exactly while it is searching
(`hunt_pending_iff`), and it finds a frame at a `55` after an odd run
(`hunt_true_iff`).
-/

namespace TR.Proof.Uart

open TR.Impl.Uart

/-- An open port, with the defaults of the constructor. -/
def port : UartMotorDriver := ⟨3, 150, 4680, 20000⟩

/-- How many times `FRAME_SOF0` stands at the end of `l`. -/
def sofRun (l : List Outcome) : Nat := (l.reverse.takeWhile (· == some FRAME_SOF0)).length

@[simp] theorem sofRun_nil : sofRun [] = 0 := rfl

theorem sofRun_snoc (l : List Outcome) (o : Outcome) :
    sofRun (l ++ [o]) = if o = some FRAME_SOF0 then sofRun l + 1 else 0 := by
  rw [sofRun, List.reverse_append, List.reverse_singleton, List.singleton_append,
    List.takeWhile_cons]
  by_cases h : o = some FRAME_SOF0
  · simp [h, sofRun]
  · simp [h]

/-- After `pre`, the outcome `o` ends the hunt: it completes an open pair. -/
def Stops (pre : List Outcome) (o : Outcome) : Prop :=
  Odd (sofRun pre) ∧ (o = none ∨ o = some FRAME_SOF1)

/-- After `l` the hunt goes on: there is time left, and no outcome has completed
a pair. -/
structure Searching (timeout : Int) (l : List Outcome) : Prop where
  time : 10 * (l.count none : Int) < timeout
  going : ∀ pre o, pre ++ [o] <+: l → ¬Stops pre o

section Searching

variable {timeout : Int} {l pre : List Outcome} {o : Outcome}

theorem searching_nil (h : 0 < timeout) : Searching timeout [] where
  time := by simpa using h
  going pre o hp := absurd (List.prefix_nil.mp hp) (by simp)

theorem Searching.of_prefix (h : Searching timeout l) (hp : pre <+: l) : Searching timeout pre where
  time := by
    have := hp.sublist.count_le none
    have := h.time
    omega
  going p o hpo := h.going p o (hpo.trans hp)

/-- There is time left. -/
theorem Searching.deadline_pos (h : Searching timeout l) :
    0 < timeout - 10 * (l.count none : Int) := by
  have := h.time
  omega

/-- What keeps the hunt going after one more outcome. -/
theorem searching_snoc : Searching timeout (pre ++ [o]) ↔
    Searching timeout pre ∧ ¬Stops pre o ∧
      (o = none → 10 * (pre.count none + 1 : Int) < timeout) := by
  refine ⟨fun h => ⟨h.of_prefix (List.prefix_append ..), h.going _ _ (List.prefix_refl _), ?_⟩,
    fun ⟨hpre, hstop, htime⟩ => ⟨?_, fun p o' hp => ?_⟩⟩
  · intro ho
    have := h.time
    rw [ho, List.count_append] at this
    simpa using this
  · have := hpre.time
    rw [List.count_append]
    by_cases ho : o = none
    · simpa [ho] using htime ho
    · simpa [List.count_singleton, ho] using this
  · rcases List.prefix_concat_iff.mp hp with heq | hp
    · obtain ⟨rfl, ho⟩ := List.append_inj' heq rfl
      rwa [List.singleton_inj.mp ho]
    · exact hpre.going p o' hp

/-- The hunt ends at some outcome, unless it goes on after all of them. -/
theorem exists_stop (ht : 0 < timeout) (h : ¬Searching timeout l) :
    ∃ pre o rest, l = pre ++ o :: rest ∧ Searching timeout pre ∧
      ¬Searching timeout (pre ++ [o]) := by
  induction l using List.reverseRecOn with
  | nil => exact absurd (searching_nil ht) h
  | append_singleton l o ih =>
    by_cases hl : Searching timeout l
    · exact ⟨l, o, [], rfl, hl, h⟩
    · obtain ⟨pre, o', rest, rfl, hpre, hstop⟩ := ih hl
      exact ⟨pre, o', rest ++ [o], by simp, hpre, hstop⟩

end Searching

/-! ## The loop -/

/-- The rest of an iteration of `hunt` that has read `FRAME_SOF0`. -/
def afterSof0 (deadline : Int) : Reader Outcome Bool
  | [] => .pending
  | none :: l => .done false l
  | some b :: l => if b = FRAME_SOF1 then .done true l else hunt deadline l

section Hunt

variable {deadline timeout : Int} {l pre rest : List Outcome}

theorem hunt_of_nonpos (h : deadline ≤ 0) (l : List Outcome) : hunt deadline l = .done false l := by
  rw [hunt.eq_def, if_pos h]

theorem hunt_nil (h : 0 < deadline) : hunt deadline [] = .pending := by
  rw [hunt.eq_def, if_neg (Int.not_le.mpr h)]

theorem hunt_none (h : 0 < deadline) : hunt deadline (none :: l) = hunt (deadline - 10) l := by
  rw [hunt.eq_def, if_neg (Int.not_le.mpr h)]

theorem hunt_some (h : 0 < deadline) (b : UInt8) : hunt deadline (some b :: l) =
    if b = FRAME_SOF0 then afterSof0 deadline l else hunt deadline l := by
  rw [hunt.eq_def, if_neg (Int.not_le.mpr h)]
  by_cases hb : b = FRAME_SOF0
  · simp only [hb, ne_eq, not_true_eq_false, if_false, if_true]
    cases l with
    | nil => rfl
    | cons o l => cases o <;> rfl
  · simp [hb]

/-- The loop after outcomes that it goes on after. -/
theorem hunt_append (h : Searching timeout pre) (l : List Outcome) :
    hunt timeout (pre ++ l) =
      if Odd (sofRun pre) then afterSof0 (timeout - 10 * pre.count none) l
      else hunt (timeout - 10 * pre.count none) l := by
  induction pre using List.reverseRecOn generalizing l with
  | nil => simp
  | append_singleton pre o ih =>
    obtain ⟨hpre, hstop, -⟩ := searching_snoc.mp h
    have hd := hpre.deadline_pos
    rw [List.append_assoc, List.singleton_append, ih hpre, sofRun_snoc, List.count_append]
    cases o with
    | none =>
      have heven : ¬Odd (sofRun pre) := fun hodd => hstop ⟨hodd, .inl rfl⟩
      rw [if_neg heven, hunt_none hd]
      rw [show timeout - 10 * (pre.count none : Int) - 10 =
        timeout - 10 * ((pre.count none + [(none : Outcome)].count none : Nat) : Int) by
          simp only [List.count_singleton_self]; omega]
      simp
    | some b =>
      by_cases hodd : Odd (sofRun pre)
      · have hb : b ≠ FRAME_SOF1 := fun hb => hstop ⟨hodd, .inr (congrArg some hb)⟩
        rw [if_pos hodd, afterSof0, if_neg hb]
        by_cases hb0 : b = FRAME_SOF0 <;> simp [hb0, Nat.odd_add_one, hodd]
      · rw [if_neg hodd, hunt_some hd]
        by_cases hb0 : b = FRAME_SOF0 <;> simp [hb0, Nat.odd_add_one, hodd]

/-- Where the hunt ends: it has found a frame if the outcome is
`FRAME_SOF1`. -/
theorem hunt_stop {o : Outcome} (hpre : Searching timeout pre)
    (hstop : ¬Searching timeout (pre ++ [o])) :
    hunt timeout (pre ++ o :: rest) = .done (decide (o = some FRAME_SOF1)) rest := by
  rw [hunt_append hpre]
  by_cases hs : Stops pre o
  · obtain ⟨hodd, rfl | rfl⟩ := hs <;> simp [if_pos hodd, afterSof0]
  · have ho : o = none ∧ timeout ≤ 10 * (pre.count none + 1 : Int) := by
      by_contra hn
      refine hstop (searching_snoc.mpr ⟨hpre, hs, fun ho => ?_⟩)
      exact Int.not_le.mp fun hle => hn ⟨ho, hle⟩
    have heven : ¬Odd (sofRun pre) := fun hodd => hs ⟨hodd, .inl ho.1⟩
    rw [if_neg heven, ho.1, hunt_none hpre.deadline_pos, hunt_of_nonpos (by omega)]
    rfl

/-- The hunt waits for more exactly while it is searching. -/
theorem hunt_pending_iff (ht : 0 < timeout) : hunt timeout l = .pending ↔ Searching timeout l := by
  refine ⟨fun h => by_contra fun hl => ?_, fun h => ?_⟩
  · obtain ⟨pre, o, rest, rfl, hpre, hstop⟩ := exists_stop ht hl
    rw [hunt_stop hpre hstop] at h
    cases h
  · have ha := hunt_append h []
    rw [List.append_nil] at ha
    rw [ha, hunt_nil h.deadline_pos]
    simp [afterSof0]

/-- The hunt finds a frame at a `55` after an odd run of `AA`. -/
theorem hunt_true_iff (ht : 0 < timeout) : hunt timeout l = .done true rest ↔
    ∃ pre, l = pre ++ some FRAME_SOF1 :: rest ∧ Searching timeout pre ∧ Odd (sofRun pre) := by
  refine ⟨fun h => ?_, fun ⟨pre, hl, hpre, hodd⟩ => ?_⟩
  · have hl : ¬Searching timeout l := fun hl => by
      rw [(hunt_pending_iff ht).mpr hl] at h
      cases h
    obtain ⟨pre, o, rest', rfl, hpre, hstop⟩ := exists_stop ht hl
    rw [hunt_stop hpre hstop, Read.done.injEq, decide_eq_true_eq] at h
    obtain ⟨rfl, rfl⟩ := h
    refine ⟨pre, rfl, hpre, by_contra fun hodd => hstop ?_⟩
    exact searching_snoc.mpr ⟨hpre, fun hs => hodd hs.1, by simp⟩
  · rw [hl, hunt_append hpre, if_pos hodd, afterSof0, if_pos rfl]

end Hunt

end TR.Proof.Uart
