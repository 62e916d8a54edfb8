import TennisRobot.Framework.Machine

/-!
# Machines that can fail

A machine whose steps can go wrong has a run as long as none of them does (`FailingMachine`).
One that does what another machine does until its clock runs out (`Clocked`) has the runs of
that machine up to then (`Clocked.run`).
-/

namespace TR

/-- A machine: the state a step leads to and what it issues, unless it goes wrong. -/
structure FailingMachine (σ ι ω : Type) where
  step : σ → ι → Option (σ × List ω)

/-- The state after the inputs `is`, and what has been issued on the way. -/
def FailingMachine.run {σ ι ω : Type} (p : FailingMachine σ ι ω) : σ → List ι → Option (σ × List ω)
  | s, [] => some (s, [])
  | s, i :: is => do
    let t ← p.step s i
    let u ← p.run t.1 is
    return (u.1, t.2 ++ u.2)

/-- The steps of `p` are those of `m`, on the inputs that are `ok`, until the clock passes
the limit. -/
structure Clocked {σ ι ω : Type} (p : FailingMachine σ ι ω) (m : Machine σ ι ω) (inv : σ → Prop)
    (ok : ι → Prop) (clock : σ → Int) (limit : Int) : Prop where
  inv_step {s : σ} {i : ι} (hi : ok i) (hs : inv s) : inv (m.step s i).1
  clock_step {s : σ} {i : ι} (hi : ok i) (hs : inv s) : clock (m.step s i).1 = clock s + 1
  step {s : σ} {i : ι} (hi : ok i) (hs : inv s) (h : clock s + 1 ≤ limit) :
    p.step s i = some (m.step s i)

theorem Clocked.run {σ ι ω : Type} {p : FailingMachine σ ι ω} {m : Machine σ ι ω} {inv : σ → Prop}
    {ok : ι → Prop} {clock : σ → Int} {limit : Int} (hc : Clocked p m inv ok clock limit)
    {s : σ} (hs : inv s) (is : List ι) (hok : ∀ i ∈ is, ok i) (h : clock s + is.length ≤ limit) :
    p.run s is = some (m.run s is, m.outputs s is) := by
  induction is generalizing s with
  | nil => rfl
  | cons i is ih =>
    obtain ⟨hi, his⟩ := List.forall_mem_cons.mp hok
    rw [List.length_cons] at h
    have hrest := ih (hc.inv_step hi hs) his (by rw [hc.clock_step hi hs]; omega)
    rw [FailingMachine.run, hc.step hi hs (by omega), Option.bind_eq_bind, Option.bind_some, hrest]
    rfl

/-- Computations none of which fails. -/
theorem mapM_eq_some_map {α β : Type} {f : α → Option β} {g : α → β} {l : List α}
    (h : ∀ a ∈ l, f a = some (g a)) : l.mapM f = some (l.map g) := by
  induction l with
  | nil => rfl
  | cons a l ih =>
    obtain ⟨ha, hl⟩ := List.forall_mem_cons.mp h
    rw [List.mapM_cons, ha, ih hl]
    rfl

end TR
