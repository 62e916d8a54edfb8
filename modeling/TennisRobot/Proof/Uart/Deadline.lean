import Mathlib.Data.Set.Insert
import TennisRobot.Proof.Uart.Hunt

/-!
# How long `recv_frame` waits

Only a call of `wait_byte` in which nothing comes takes time off the deadline, so
bytes that never complete the start of a frame hold the loop for ever
(`recvFrame_held`). After the hunt, 35 bytes are the most that `recv_frame` reads
(`within_recvBody`). So on a set of sequences there is a bound on what it reads
exactly where there is one on the hunt: `recvFrame_returns_iff`.
-/

namespace TR.Proof.Uart

open TR.Impl.Uart TR.Reader

/-- The outcomes end the hunt within the first `n`: the time is over, or one of
them completes a pair that an odd run of `AA` has opened. -/
def HuntEnds (timeout : Int) (s : Nat → Outcome) (n : Nat) : Prop :=
  timeout ≤ 10 * ((firsts s n).count none : Int) ∨
    ∃ i < n, Odd (sofRun (firsts s i)) ∧ (s i = none ∨ s i = some FRAME_SOF1)

theorem snoc_prefix_firsts {s : Nat → Outcome} {n : Nat} {pre : List Outcome} {o : Outcome} :
    pre ++ [o] <+: firsts s n ↔ ∃ i < n, firsts s i = pre ∧ s i = o := by
  induction n with
  | zero => simp [firsts]
  | succ n ih =>
    rw [firsts_succ, List.prefix_concat_iff, ih]
    refine ⟨fun h => ?_, fun h => ?_⟩
    · rcases h with h | ⟨i, hi, h⟩
      · obtain ⟨hpre, ho⟩ := List.append_inj' h rfl
        exact ⟨n, n.lt_succ_self, hpre.symm, (List.singleton_inj.mp ho).symm⟩
      · exact ⟨i, hi.trans n.lt_succ_self, h⟩
    · obtain ⟨i, hi, hpre, ho⟩ := h
      rcases Nat.lt_succ_iff_lt_or_eq.mp hi with hi | rfl
      · exact .inr ⟨i, hi, hpre, ho⟩
      · rw [← hpre, ← ho]
        exact .inl rfl

theorem huntEnds_iff {timeout : Int} {s : Nat → Outcome} {n : Nat} :
    HuntEnds timeout s n ↔ ¬Searching timeout (firsts s n) := by
  refine ⟨fun h hs => ?_, fun h => by_contra fun hn => h ⟨?_, fun pre o hp hstop => hn ?_⟩⟩
  · rcases h with h | ⟨i, hi, hodd, ho⟩
    · exact absurd hs.time (Int.not_lt.mpr h)
    · exact hs.going _ _ (snoc_prefix_firsts.mpr ⟨i, hi, rfl, rfl⟩) ⟨hodd, ho⟩
  · exact Int.not_le.mp fun htime => hn (.inl htime)
  · obtain ⟨i, hi, rfl, rfl⟩ := snoc_prefix_firsts.mp hp
    exact .inr ⟨i, hi, hstop⟩

/-! ## After the hunt -/

theorem within_readPayload (n i : Nat) (payload : List UInt8) :
    Within n (readPayload n i payload) := by
  induction n generalizing i payload with
  | zero => exact within_pure _ 0
  | succ n ih =>
    refine within_next_bind fun o => ?_
    cases o with
    | none => exact within_pure _ n
    | some b => exact ih (i + 1) (payload.set i b)

theorem within_recvBody (out : Option Nat) : Within 35 (recvBody out) := by
  refine within_next_bind (n := 34) fun o => ?_
  cases o with
  | none => exact within_pure _ 34
  | some cmd =>
    refine within_next_bind (n := 33) fun o => ?_
    cases o with
    | none => exact within_pure _ 33
    | some len =>
      refine Within.bind (n := 32) (k := 1) ((within_readPayload _ _ _).mono (min_le_right ..)) ?_
      intro payload
      cases payload with
      | none => exact within_pure _ 1
      | some payload =>
        refine within_next_bind (n := 0) fun o => ?_
        cases o with
        | none => exact within_pure _ 0
        | some chk => exact within_pure _ 0

/-! ## The whole -/

theorem recvFrame_open {d : UartMotorDriver} (hfd : 0 ≤ d.fd) (out : Option Nat) (timeoutMs : Int) :
    recvFrame d out timeoutMs = (do
      if ← hunt timeoutMs then recvBody out else return .refused) := by
  rw [recvFrame, if_neg (Int.not_lt.mpr hfd)]

section Returns

variable {d : UartMotorDriver} (hfd : 0 ≤ d.fd) (out : Option Nat) {timeoutMs : Int}
  (ht : 0 < timeoutMs) {s : Nat → Outcome} {n : Nat}

include hfd ht

theorem recvFrame_pending (h : Searching timeoutMs (firsts s n)) :
    recvFrame d out timeoutMs (firsts s n) = .pending := by
  rw [recvFrame_open hfd]
  exact bind_of_pending ((hunt_pending_iff ht).mpr h)

/-- Where the hunt ends, what is left to read is bounded. -/
theorem returnsWithin_of_huntEnds (h : HuntEnds timeoutMs s n) :
    ReturnsWithin (recvFrame d out timeoutMs) s (n + 35) := by
  obtain ⟨pre, o, rest, hs, hpre, hstop⟩ := exists_stop ht (huntEnds_iff.mp h)
  have hunted (more : List Outcome) :
      hunt timeoutMs (pre ++ o :: (rest ++ more)) =
        .done (decide (o = some FRAME_SOF1)) (rest ++ more) :=
    hunt_stop hpre hstop
  rw [ReturnsWithin, firsts_add, hs, List.append_assoc, List.cons_append, recvFrame_open hfd,
    bind_of_done (hunted _)]
  split_ifs
  · obtain ⟨a, mid, ha, -⟩ := within_recvBody out (rest ++ firsts (fun i => s (n + i)) 35) (by simp)
    rw [ha]
    exact fun h => by cases h
  · rw [pure_apply]
    exact fun h => by cases h

end Returns

/-- There is a bound on what `recv_frame` reads of the sequences in `S` exactly
where there is a bound on the hunt for the start of a frame in them. -/
theorem recvFrame_returns_iff (d : UartMotorDriver) (hfd : 0 ≤ d.fd) (out : Option Nat)
    {timeoutMs : Int} (ht : 0 < timeoutMs) (S : Set (Nat → Outcome)) :
    (∃ n, ∀ s ∈ S, ReturnsWithin (recvFrame d out timeoutMs) s n) ↔
      ∃ n, ∀ s ∈ S, HuntEnds timeoutMs s n := by
  refine ⟨fun ⟨n, h⟩ => ⟨n, fun s hs => huntEnds_iff.mpr fun hsearch => ?_⟩,
    fun ⟨n, h⟩ => ⟨n + 35, fun s hs => returnsWithin_of_huntEnds hfd out ht (h s hs)⟩⟩
  exact h s hs (recvFrame_pending hfd out ht hsearch)

/-- On a silent line. -/
theorem recvFrame_returns_silent :
    ∃ n, ∀ s ∈ ({fun _ => none} : Set (Nat → Outcome)),
      ReturnsWithin (recvFrame port (some 8) 500) s n :=
  (recvFrame_returns_iff port (by decide) (some 8) (by decide) {fun _ => none}).mpr
    ⟨50, fun s hs => by rw [Set.mem_singleton_iff.mp hs]; exact .inl (by decide)⟩

/-- A peer that sends zeros holds the constructor for ever. -/
theorem recvFrame_held :
    (¬∃ n, ∀ s, ReturnsWithin (recvFrame port (some 8) 500) s n) ∧
      ∀ n, ¬ReturnsWithin (construct port) (fun _ => some 0) n := by
  have hs (n : Nat) : Searching 500 (firsts (fun _ => some 0) n) := by
    refine ⟨?_, fun pre o hp hstop => ?_⟩
    · have hc : (firsts (fun _ => (some 0 : Outcome)) n).count none = 0 := by
        rw [List.count_eq_zero]
        simp [firsts]
      rw [hc]
      decide
    · obtain ⟨i, -, -, rfl⟩ := snoc_prefix_firsts.mp hp
      rcases hstop.2 with ho | ho <;> cases ho
  have hp (n : Nat) : recvFrame port (some 8) 500 (firsts (fun _ => some 0) n) = .pending :=
    recvFrame_pending (by decide) (some 8) (by decide) (hs n)
  refine ⟨?_, fun n h => h (bind_of_pending (hp n))⟩
  rintro ⟨n, h⟩
  exact h _ (hp n)

end TR.Proof.Uart
