import TennisRobot.Impl.Arm
import Mathlib.Data.List.Infix

/-!
# Rounds

What the robot is for, as the arm sees it: after it has moved to its ready
position, the arm grabs a ball, releases it and goes back, round after round
(`rounds`). A ball is held from a grab to its release (`Holding`): not after a
whole number of rounds, and again after the next grab.
-/

namespace TR.Spec

open TR.Impl.Arm (ArmCall)

/-- The calls of a round. -/
def oneRound : List ArmCall := [.grab, .release, .grabPos]

/-- The calls of `n` rounds, from the arm's first move to its ready position. -/
def rounds (n : Nat) : List ArmCall := .grabPos :: (List.replicate n oneRound).flatten

/-- The last grab has not been followed by its release. -/
def Holding (calls : List ArmCall) : Prop :=
  ∃ pre post, calls = pre ++ .grab :: post ∧ .release ∉ post

theorem rounds_succ (n : Nat) : rounds (n + 1) = rounds n ++ oneRound := by
  simp [rounds, List.replicate_succ']

/-- A ball is held after a grab, and for as long as it is not released. -/
theorem holding_snoc (l : List ArmCall) (c : ArmCall) :
    Holding (l ++ [c]) ↔ c = .grab ∨ c ≠ .release ∧ Holding l := by
  constructor
  · rintro ⟨pre, post, h, hn⟩
    induction post using List.reverseRecOn with
    | nil => exact .inl (List.append_inj_right' h rfl |> List.singleton_inj.mp)
    | append_singleton post d _ =>
      rw [← List.cons_append, ← List.append_assoc] at h
      obtain ⟨rfl, hd⟩ := List.append_inj' h rfl
      cases List.singleton_inj.mp hd
      rw [List.mem_append, List.mem_singleton, not_or] at hn
      exact .inr ⟨Ne.symm hn.2, _, _, rfl, hn.1⟩
  · rintro (rfl | ⟨hc, pre, post, rfl, hn⟩)
    · exact ⟨l, [], rfl, List.not_mem_nil⟩
    · refine ⟨pre, post ++ [c], by simp, ?_⟩
      rw [List.mem_append, List.mem_singleton, not_or]
      exact ⟨hn, Ne.symm hc⟩

theorem not_holding_rounds (n : Nat) : ¬ Holding (rounds n) := by
  induction n with
  | zero =>
    rw [show rounds 0 = [] ++ [ArmCall.grabPos] from rfl, holding_snoc]
    rintro (h | ⟨-, pre, post, h, -⟩)
    · cases h
    · simp at h
  | succ n ih =>
    rw [rounds_succ, show rounds n ++ oneRound = rounds n ++ [.grab] ++ [.release] ++ [.grabPos] by
      simp [oneRound], holding_snoc, holding_snoc]
    simp

theorem holding_grab (n : Nat) : Holding (rounds n ++ [.grab]) :=
  (holding_snoc _ _).mpr (.inl rfl)

/-- A round that has begun is the beginning of rounds. -/
theorem grab_prefix (n : Nat) : rounds n ++ [.grab] <+: rounds (n + 1) := by
  rw [rounds_succ]
  exact (List.prefix_append_right_inj _).mpr ⟨[.release, .grabPos], rfl⟩

end TR.Spec
