import TennisRobot.Framework.Machine

/-!
# Machines that go round

A machine goes round where each step that counts takes it one place further in a cycle of
`period` places, and issues a hit where it comes round; other steps leave it where it is
(`Rounds`). A run then has come round as often as the number of steps that count says
(`Rounds.run`): it neither stalls nor skips a round, wherever it starts.
-/

namespace TR

variable {σ ι ω : Type}

/-- What the steps of a machine do to its place in a cycle, as long as the inputs of a state
are `ok` there. -/
structure Rounds (m : Machine σ ι ω) (inv : σ → Prop) (ok : σ → ι → Prop) (counts : ι → Bool)
    (hits : List ω → Nat) (period : Nat) (place : σ → Nat) : Prop where
  period_pos : 0 < period
  inv_step {s : σ} (i : ι) (h : inv s) : inv (m.step s i).1
  place_lt {s : σ} (h : inv s) : place s < period
  hits_append (as bs : List ω) : hits (as ++ bs) = hits as + hits bs
  counted {s : σ} {i : ι} (h : inv s) (hok : ok s i) (hi : counts i = true) :
    place (m.step s i).1 = (place s + 1) % period ∧ hits (m.step s i).2 = (place s + 1) / period
  idle {s : σ} {i : ι} (h : inv s) (hok : ok s i) (hi : counts i = false) :
    place (m.step s i).1 = place s ∧ hits (m.step s i).2 = 0

namespace Rounds

variable {m : Machine σ ι ω} {inv : σ → Prop} {ok : σ → ι → Prop} {counts : ι → Bool}
  {hits : List ω → Nat} {period : Nat} {place : σ → Nat}

theorem hits_nil (hr : Rounds m inv ok counts hits period place) : hits [] = 0 := by
  have h := hr.hits_append [] []
  rw [List.append_nil] at h
  omega

/-- Where a run is, and how often it has come round. -/
theorem run (hr : Rounds m inv ok counts hits period place) {s : σ} (hs : inv s) (is : List ι)
    (hok : ∀ r ∈ m.log s is, ok r.pre r.input) :
    place (m.run s is) = (place s + is.countP counts) % period ∧
      hits (m.outputs s is) = (place s + is.countP counts) / period := by
  induction is generalizing s with
  | nil =>
    have hlt := hr.place_lt hs
    rw [List.countP_nil, Nat.add_zero, Nat.mod_eq_of_lt hlt, Nat.div_eq_of_lt hlt]
    exact ⟨rfl, hr.hits_nil⟩
  | cons i is ih =>
    have hnext := hr.inv_step i hs
    have hoki : ok s i := hok _ List.mem_cons_self
    obtain ⟨hplace, hhits⟩ := ih hnext fun r h => hok r (List.mem_cons_of_mem _ h)
    have hout : m.outputs s (i :: is) = (m.step s i).2 ++ m.outputs (m.step s i).1 is :=
      List.flatMap_cons
    rw [hout, hr.hits_append, hhits, Machine.run, hplace]
    cases hi : counts i with
    | false =>
      obtain ⟨hstay, hnone⟩ := hr.idle hs hoki hi
      rw [List.countP_cons_of_neg (by rw [hi]; decide), hstay, hnone, Nat.zero_add]
      exact ⟨rfl, rfl⟩
    | true =>
      obtain ⟨hstep, hone⟩ := hr.counted hs hoki hi
      rw [List.countP_cons_of_pos hi, hstep, hone]
      have hsum : place s + (is.countP counts + 1) = place s + 1 + is.countP counts := by omega
      rw [hsum]
      refine ⟨Nat.mod_add_mod _ _ _, ?_⟩
      have hdiv := Nat.div_add_mod (place s + 1) period
      calc (place s + 1) / period + ((place s + 1) % period + is.countP counts) / period
          = ((place s + 1) % period + is.countP counts + period * ((place s + 1) / period)) /
              period := by rw [Nat.add_mul_div_left _ _ hr.period_pos, Nat.add_comm]
        _ = (place s + 1 + is.countP counts) / period := by congr 1; omega

end Rounds

end TR
