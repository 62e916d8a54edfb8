import TennisRobot.Proof.Game.Invariant

/-!
# The confirmation of a stop

A stop is to be confirmed on `STOP_CONFIRM_CNT` consecutive frames before the
arm grabs (`ConfirmedGrabs`). The loop counts the confirming frames, but leaves
the count as it is on a frame without a ball and on one whose ball is too near:
three confirmations, a missed ball and a fourth confirmation end in a grab
(`grab_after_missed_ball`). In a run without such a frame while the count is
not zero (`Interrupting`), every grab is confirmed
(`confirmedGrabs_of_uninterrupted`): the count is then the number of the last
captured frames that confirm (`Counted`, kept by each exit).
-/

namespace TR.Proof.Game

open TR.Impl.Game

/-- A step of the loop. -/
abbrev Iteration := Record LoopState (Option Frame) Cmd

/-- The iterations that captured a frame. -/
def captured (l : List Iteration) : List Iteration := l.filter (·.input.isSome)

/-- An iteration of `CHASE_BALL` with a ball that is near enough, not too near,
and in front of the gripper. -/
def Confirming (g : Int) (r : Iteration) : Prop :=
  r.pre.gameState = .chaseBall ∧ ∃ f b, r.input = some f ∧ f.ball = some b ∧ InStopZone b ∧
    |ballOffset f b - g| ≤ STOP_CENTER_ZONE

/-- At every grab, the last `STOP_CONFIRM_CNT` captured frames confirm the stop. -/
def ConfirmedGrabs (g : Int) (l : List Iteration) : Prop :=
  ∀ pre r post, l = pre ++ r :: post → .arm .grab ∈ r.out →
    LastAll (Confirming g) STOP_CONFIRM_CNT.toNat (captured (pre ++ [r]))

/-- A frame without a ball, or with one that is too near, while stop
confirmations are counted. -/
def Interrupting (r : Iteration) : Prop :=
  r.pre.gameState = .chaseBall ∧ 0 < r.pre.stopConfirmCnt ∧
    ∃ f, r.input = some f ∧ ∀ b, f.ball = some b → AREA_REVERSE ≤ b.areaRatio

/-- The count of confirmations is that of the last captured frames. -/
def Counted (g : Int) (s : LoopState) (l : List Iteration) : Prop :=
  s.gameState = .chaseBall → LastAll (Confirming g) s.stopConfirmCnt.toNat (captured l)

theorem captured_snoc_some (l : List Iteration) {r : Iteration} {f : Frame} (h : r.input = some f) :
    captured (l ++ [r]) = captured l ++ [r] := by
  simp [captured, List.filter_append, h]

variable {g : Int} {s s' : LoopState} {f : Option Frame} {out : List Cmd} {l : List Iteration}

/-- Every exit keeps the count right, unless it interrupts it. -/
theorem Counted.exit (h : Exit g s f s' out) (hi : LoopInv s) (hc : Counted g s l)
    (hn : ¬ Interrupting ⟨s, f, out⟩) : Counted g s' (l ++ [⟨s, f, out⟩]) := by
  intro hg'
  have zero : s'.stopConfirmCnt = 0 →
      LastAll (Confirming g) s'.stopConfirmCnt.toNat (captured (l ++ [⟨s, f, out⟩])) :=
    fun h => h ▸ LastAll.zero
  -- a frame that keeps the count and does not interrupt it finds it at zero
  have kept : s.gameState = .chaseBall → ∀ f', f = some f' →
      (∀ b, f'.ball = some b → AREA_REVERSE ≤ b.areaRatio) → s.stopConfirmCnt = 0 :=
    fun hg f' hf hb => by
      have hc := (hi.chase hg).2.1
      by_contra h0
      exact hn ⟨hg, by dsimp only; omega, f', hf, hb⟩
  cases h with
  | noFrame => simpa [captured, tick] using hc hg'
  | deposit => exact zero rfl
  | found | lostBucket | atBucket | grab => cases hg'
  | confirmBucket hg | turnForBucket hg | missBucket hg | toBucket hg => cases hg.symm.trans hg'
  | hold hg hb ht => exact absurd (hi.tracked hg _) ht
  | reverse hg hb ht ha =>
    apply zero
    rw [resumed_eq (hi.chase hg).1]
    exact kept hg _ rfl fun b' hb' => Option.some.inj (hb.symm.trans hb') ▸ ha
  | @confirmStop f b hg hb ht hz ho hlt =>
    rw [resumed_eq (hi.chase hg).1, captured_snoc_some _ rfl]
    have e : (s.stopConfirmCnt + 1).toNat = s.stopConfirmCnt.toNat + 1 := by
      have := (hi.chase hg).2.1
      omega
    exact e ▸ (hc hg).snoc ⟨hg, f, b, rfl, hb, hz, ho⟩
  | kick | align | chase => exact zero rfl
  | search hg hb =>
    exact zero (kept hg _ rfl fun b hb' => absurd hb' (by simp [hb]))

/-- A grab is confirmed when the count is right. -/
theorem Counted.grab (h : Exit g s f s' out) (hi : LoopInv s) (hc : Counted g s l)
    (hm : .arm .grab ∈ out) :
    LastAll (Confirming g) STOP_CONFIRM_CNT.toNat (captured (l ++ [⟨s, f, out⟩])) := by
  cases h with
  | @grab f b hg hb ht hz ho hle =>
    rw [resumed_eq (hi.chase hg).1] at hle
    have h3 : s.stopConfirmCnt = 3 := by
      have := (hi.chase hg).2.2.1
      simp only [seen, tick, STOP_CONFIRM_CNT] at this hle
      omega
    have := hc hg
    rw [h3] at this
    rw [captured_snoc_some _ rfl]
    exact this.snoc ⟨hg, f, b, rfl, hb, hz, ho⟩
  | _ => simp at hm

theorem ConfirmedGrabs.snoc {r : Iteration} (h : ConfirmedGrabs g l)
    (hr : .arm .grab ∈ r.out → LastAll (Confirming g) STOP_CONFIRM_CNT.toNat (captured (l ++ [r]))) :
    ConfirmedGrabs g (l ++ [r]) := by
  intro pre x post he hx
  rcases List.eq_nil_or_concat post with rfl | ⟨post, y, rfl⟩
  · obtain ⟨rfl, hrx⟩ := List.append_inj' he rfl
    cases List.singleton_inj.mp hrx
    exact hr hx
  · rw [List.concat_eq_append, ← List.cons_append, ← List.append_assoc] at he
    exact h pre x post (List.append_inj' he rfl).1 hx

/-- In a run whose confirmations are never interrupted, every grab is confirmed. -/
theorem confirmedGrabs_of_uninterrupted (g : Int) (fs : List (Option Frame))
    (h : ∀ r ∈ (loop g).log .init fs, ¬ Interrupting r) :
    ConfirmedGrabs g ((loop g).log .init fs) := by
  refine ((loop g).run_log (J := fun s l => LoopInv s ∧ ((∀ r ∈ l, ¬ Interrupting r) →
    Counted g s l ∧ ConfirmedGrabs g l)) ⟨.init, fun _ => ⟨fun _ => .zero, ?_⟩⟩ ?_ fs).2 h |>.2
  · intro pre r post he
    simp at he
  · rintro s l f ⟨hi, ih⟩
    refine ⟨hi.step f, fun hn => ?_⟩
    have hs := exit_of_loopBody g s f
    obtain ⟨hc, hcg⟩ := ih fun r hr => hn r (List.mem_append_left _ hr)
    exact ⟨hc.exit hs hi (hn _ (by simp [Machine.record, loop])), hcg.snoc fun hm => hc.grab hs hi hm⟩

/-! ## Four confirmations, with and without a missed ball -/

/-- A frame with a ball in front of the gripper, for an offset of 120. -/
def ballInFront : Frame :=
  { halfW := 320, camHalfW := 320, bucket := none, ball := some { areaRatio := 3 / 10, cx := 440 } }

/-- A frame without a ball. -/
def noBall : Frame := { halfW := 320, camHalfW := 320, bucket := none, ball := none }

theorem confirmedGrabs_four :
    ConfirmedGrabs 120 ((loop 120).log .init (List.replicate 4 (some ballInFront))) :=
  confirmedGrabs_of_uninterrupted 120 _ fun r hr => by
    rintro ⟨-, -, f, hf, hb⟩
    have := List.eq_of_mem_replicate ((loop 120).input_mem_of_mem_log hr)
    cases hf.symm.trans this
    exact absurd (hb _ rfl) (by norm_num [AREA_REVERSE])

/-- After three confirmations and a frame without a ball, the next confirmation
ends in a grab. -/
theorem grab_after_missed_ball :
    ¬ ConfirmedGrabs 120 ((loop 120).log .init
      (List.replicate 3 (some ballInFront) ++ [some noBall] ++ [some ballInFront])) := by
  intro h
  have hg := h _ _ [] ((loop 120).log_snoc _ _ _) (by decide +kernel)
  rw [captured_snoc_some _ rfl, Machine.log_snoc, captured_snoc_some _ rfl, List.append_assoc] at hg
  obtain ⟨-, f, b, hf, hb, -⟩ := hg.of_suffix (List.suffix_append _ _) (by decide) List.mem_cons_self
  cases hf
  cases hb

end TR.Proof.Game
