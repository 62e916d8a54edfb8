import TennisRobot.Framework.Cycle
import TennisRobot.Proof.Game.ArmCalls

/-!
# The rounds come to their end

A round takes nine captured frames at least: four to confirm the ball, three to confirm the
bucket, one to arrive there and one to release (`place`). A frame that shows what the state
waits for (`Awaited`) takes the round one further (`rounds_loop`), and a capture that fails
leaves it where it is. So from wherever a run has come to, releases follow at their pace
(`progress_run`): the loop does not get stuck in a state.
-/

namespace TR.Proof.Game

open TR.Impl.Game
open TR.Impl.Arm (ArmCall)

/-! ## Awaited frames -/

/-- A frame shows what a state waits for: in `CHASE_BALL` a ball near enough and in front of
the gripper, then the bucket, then the bucket near enough. -/
def Awaited (g : Int) (s : LoopState) (f : Frame) : Prop :=
  match s.gameState with
  | .chaseBall => ∃ b, f.ball = some b ∧ InStopZone b ∧ |ballOffset f b - g| ≤ STOP_CENTER_ZONE
  | .findBucket => f.bucket.isSome
  | .approachBucket => ∃ br, f.bucket = some br ∧ BUCKET_AREA_DEPOSIT ≤ br.areaRatio
  | .deposit => True

/-- The same of an input; a capture may fail. -/
def AwaitedInput (g : Int) (s : LoopState) (i : Option Frame) : Prop :=
  ∀ f, i = some f → Awaited g s f

/-- How far a round has come. -/
def place (s : LoopState) : Nat :=
  match s.gameState with
  | .chaseBall => s.stopConfirmCnt.toNat
  | .findBucket => 4 + s.bucketConfirm.toNat
  | .approachBucket => 7
  | .deposit => 8

/-- How often commands release a ball. -/
def releases (cmds : List Cmd) : Nat := (armCalls cmds).count .release

theorem releases_append (as bs : List Cmd) : releases (as ++ bs) = releases as + releases bs := by
  rw [releases, armCalls, List.filterMap_append, List.count_append]
  rfl

/-! ## One frame -/

section Place

variable {s : LoopState}

theorem place_chaseBall (hg : s.gameState = .chaseBall) : place s = s.stopConfirmCnt.toNat := by
  simp only [place, hg]

theorem place_findBucket (hg : s.gameState = .findBucket) :
    place s = 4 + s.bucketConfirm.toNat := by
  simp only [place, hg]

theorem place_approachBucket (hg : s.gameState = .approachBucket) : place s = 7 := by
  simp only [place, hg]

theorem place_deposit (hg : s.gameState = .deposit) : place s = 8 := by
  simp only [place, hg]

theorem LoopInv.place_lt (hi : LoopInv s) : place s < 9 := by
  have hstop : STOP_CONFIRM_CNT = 4 := rfl
  have hconf : BUCKET_CONFIRM_CNT = 3 := rfl
  cases hg : s.gameState with
  | chaseBall =>
    obtain ⟨-, -, hlt, -⟩ := hi.chase hg
    rw [place_chaseBall hg]
    omega
  | findBucket =>
    obtain ⟨-, hlt, -⟩ := hi.find hg
    rw [place_findBucket hg]
    omega
  | approachBucket => rw [place_approachBucket hg]; decide
  | deposit => rw [place_deposit hg]; decide

end Place

section Awaited

variable {g : Int} {s : LoopState} {f : Frame} (ha : Awaited g s f)

include ha

/-- The ball that is awaited is the one that is seen. -/
theorem Awaited.ball (hg : s.gameState = .chaseBall) {b : Ball} (hb : f.ball = some b) :
    InStopZone b ∧ |ballOffset f b - g| ≤ STOP_CENTER_ZONE := by
  simp only [Awaited, hg] at ha
  obtain ⟨b', hb', h⟩ := ha
  cases hb.symm.trans hb'
  exact h

theorem Awaited.ball_ne_none (hg : s.gameState = .chaseBall) : f.ball ≠ none := by
  simp only [Awaited, hg] at ha
  obtain ⟨b, hb, -⟩ := ha
  simp [hb]

theorem Awaited.bucket_ne_none (hg : s.gameState = .findBucket ∨ s.gameState = .approachBucket) :
    f.bucket ≠ none := by
  rcases hg with hg | hg <;> simp only [Awaited, hg] at ha
  · exact Option.isSome_iff_ne_none.mp ha
  · obtain ⟨br, hbr, -⟩ := ha
    simp [hbr]

theorem Awaited.bucket_near (hg : s.gameState = .approachBucket) {br : BucketResult}
    (hb : f.bucket = some br) : BUCKET_AREA_DEPOSIT ≤ br.areaRatio := by
  simp only [Awaited, hg] at ha
  obtain ⟨br', hb', h⟩ := ha
  cases hb.symm.trans hb'
  exact h

end Awaited

/-- An awaited frame takes the round one further, and from the last place to the first with a
release. -/
theorem Exit.place {g : Int} {s s' : LoopState} {f : Frame} {out : List Cmd}
    (h : Exit g s (some f) s' out) (hi : LoopInv s) (ha : Awaited g s f) :
    Game.place s' = (Game.place s + 1) % 9 ∧ releases out = (Game.place s + 1) / 9 := by
  have hstop : STOP_CONFIRM_CNT = 4 := rfl
  have hconf : BUCKET_CONFIRM_CNT = 3 := rfl
  cases h with
  | deposit hg =>
    rw [place_deposit hg]
    exact ⟨rfl, rfl⟩
  | found hg hb hc =>
    obtain ⟨h0, hlt, -⟩ := hi.find hg
    rw [place_findBucket hg, show s.bucketConfirm = 2 by omega]
    exact ⟨rfl, rfl⟩
  | confirmBucket hg hb hc =>
    obtain ⟨h0, -, -⟩ := hi.find hg
    rw [place_findBucket (s := s) hg, place_findBucket (by exact hg)]
    refine ⟨?_, ?_⟩
    · dsimp only
      omega
    · rw [Nat.div_eq_of_lt (by omega)]
      rfl
  | turnForBucket hg hb => exact absurd hb (ha.bucket_ne_none (.inl hg))
  | lostBucket hg hb => exact absurd hb (ha.bucket_ne_none (.inr hg))
  | missBucket hg hb => exact absurd hb (ha.bucket_ne_none (.inr hg))
  | atBucket hg =>
    rw [place_approachBucket hg]
    exact ⟨rfl, rfl⟩
  | toBucket hg hb hlt => exact absurd (ha.bucket_near hg hb) (not_le.mpr hlt)
  | hold hg hb ht => exact absurd (hi.tracked hg _) ht
  | reverse hg hb ht har => exact absurd (ha.ball hg hb).1.2 (not_lt.mpr har)
  | grab hg hb ht hz ho hc =>
    obtain ⟨hs, h0, hlt, -⟩ := hi.chase hg
    rw [resumed_eq hs] at hc ⊢
    have hc : STOP_CONFIRM_CNT ≤ s.stopConfirmCnt + 1 := hc
    rw [place_chaseBall hg, show s.stopConfirmCnt = 3 by omega]
    exact ⟨rfl, rfl⟩
  | confirmStop hg hb ht hz ho hc =>
    obtain ⟨hs, h0, -, -⟩ := hi.chase hg
    rw [resumed_eq hs] at hc ⊢
    have hc : s.stopConfirmCnt + 1 < STOP_CONFIRM_CNT := hc
    rw [place_chaseBall (s := s) hg, place_chaseBall (by exact hg)]
    refine ⟨?_, ?_⟩
    · show (s.stopConfirmCnt + 1).toNat = _
      omega
    · rw [Nat.div_eq_of_lt (by omega)]
      rfl
  | kick hg hb ht hz ho => exact absurd (ha.ball hg hb).2 (not_le.mpr ho)
  | align hg hb ht hz ho => exact absurd (ha.ball hg hb).2 (not_le.mpr ho)
  | chase hg hb ht hlt => exact absurd (ha.ball hg hb).1.1 (not_le.mpr hlt)
  | search hg hb => exact absurd hb (ha.ball_ne_none hg)

/-- The loop goes round on awaited frames, nine to a round. -/
theorem rounds_loop (g : Int) :
    Rounds (loop g) LoopInv (AwaitedInput g) Option.isSome releases 9 place where
  period_pos := by decide
  inv_step i h := h.step i
  place_lt h := h.place_lt
  hits_append := releases_append
  counted {s i} h hok hi := by
    obtain ⟨f, rfl⟩ := Option.isSome_iff_exists.mp hi
    exact (exit_of_loopBody g s (some f)).place h (hok f rfl)
  idle {s i} h hok hi := by
    cases Option.isSome_eq_false_iff.mp hi |> Option.isNone_iff_eq_none.mp
    exact ⟨rfl, rfl⟩

/-- From wherever a run has come to, while captured frames show what is waited for, one in nine
releases a ball and starts the next round, whatever captures fail in between. -/
theorem progress_run (g : Int) (fs fs' : List (Option Frame))
    (h : ∀ r ∈ (loop g).log ((loop g).run .init fs) fs', AwaitedInput g r.pre r.input) :
    let s := (loop g).run .init fs
    let n := place s + fs'.countP Option.isSome
    place s < 9 ∧ releases ((loop g).outputs s fs') = n / 9 ∧ place ((loop g).run s fs') = n % 9 := by
  have hi := loopInv_run g fs
  obtain ⟨hplace, hhits⟩ := (rounds_loop g).run hi fs' h
  exact ⟨hi.place_lt, hhits, hplace⟩

/-- A ball in front of the gripper, before the bucket. -/
def ballAtBucket : Frame where
  halfW := 320
  camHalfW := 320
  bucket := some ⟨95 / 100, 320, 320, 0, 0, 640, 640⟩
  ball := some ⟨30 / 100, 440⟩

/-- It is what every state waits for. -/
theorem awaited_ballAtBucket (s : LoopState) : Awaited 120 s ballAtBucket := by
  have hball : InStopZone ⟨30 / 100, 440⟩ ∧
      |ballOffset ballAtBucket ⟨30 / 100, 440⟩ - 120| ≤ STOP_CENTER_ZONE := by
    unfold InStopZone AREA_STOP AREA_REVERSE
    exact ⟨by norm_num, by decide⟩
  cases hg : s.gameState <;> simp only [Awaited, hg]
  · exact ⟨_, rfl, hball⟩
  · rfl
  · exact ⟨_, rfl, by norm_num [BUCKET_AREA_DEPOSIT]⟩

theorem progress_run_round :
    releases ((loop 120).outputs .init (none :: List.replicate 9 (some ballAtBucket))) = 1 :=
  (progress_run 120 [] (none :: List.replicate 9 (some ballAtBucket)) fun r hr f hf => by
    have hmem := (loop 120).input_mem_of_mem_log hr
    rw [hf] at hmem
    rcases List.mem_cons.mp hmem with h | h
    · cases h
    · cases List.eq_of_mem_replicate h
      exact awaited_ballAtBucket _).2.1

end TR.Proof.Game
