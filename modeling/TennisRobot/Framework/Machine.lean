import Mathlib.Data.List.Basic
import Mathlib.Data.List.Infix

/-!
# Step machines, their runs and their logs

A machine reads one input a step and issues outputs (`Machine`). A run is a
list of inputs; what it leaves behind is a state (`Machine.run`) and a log,
one record for each step (`Machine.log`), from which the outputs issued so far
(`Machine.outputs`) are read.

* `Machine.run_log`: the induction over runs, for a property of the state and
  of everything that happened before it;
* `Machine.reachable`: the same for a property of the state alone;
* `Machine.log_all`: what such a property says of every step;
* `Machine.out_log_eq`: the same for two runs, and a relation of their states.

`LastAll P n l` says of a history that its last `n` entries satisfy `P`, and
`lastRun P l` is how many do: what a counter of consecutive events is for.
`sinceLast P l` are the entries after the last that satisfies `P`, and `Ago P n x l`
says that `x` stands `n` entries before the end, and only such that satisfy `P` after
it: what a variable is for that is written on an event and reset on another.
-/

namespace TR

/-- A machine: the state a step leads to on an input, and what it issues. -/
structure Machine (σ ι ω : Type) where
  step : σ → ι → σ × List ω

/-- A step of a run: the state it started in, what it read and what it issued. -/
structure Record (σ ι ω : Type) where
  pre : σ
  input : ι
  out : List ω

namespace Machine

variable {σ ι ω : Type} (m : Machine σ ι ω)

/-- The record of the step from `s` on `i`. -/
def record (s : σ) (i : ι) : Record σ ι ω := ⟨s, i, (m.step s i).2⟩

/-- The state after the inputs `is`. -/
def run : σ → List ι → σ
  | s, [] => s
  | s, i :: is => run (m.step s i).1 is

/-- The records of the steps on the inputs `is`, the first first. -/
def log : σ → List ι → List (Record σ ι ω)
  | _, [] => []
  | s, i :: is => m.record s i :: log (m.step s i).1 is

/-- What the steps on the inputs `is` issue, in order. -/
def outputs (s : σ) (is : List ι) : List ω := (m.log s is).flatMap Record.out

theorem run_append (s : σ) (is js : List ι) : m.run s (is ++ js) = m.run (m.run s is) js := by
  induction is generalizing s with
  | nil => rfl
  | cons i is ih => apply ih

theorem log_append (s : σ) (is js : List ι) :
    m.log s (is ++ js) = m.log s is ++ m.log (m.run s is) js := by
  induction is generalizing s with
  | nil => rfl
  | cons i is ih => simp only [List.cons_append, log, run, ih]

theorem run_snoc (s : σ) (is : List ι) (i : ι) :
    m.run s (is ++ [i]) = (m.step (m.run s is) i).1 := m.run_append s is [i]

theorem log_snoc (s : σ) (is : List ι) (i : ι) :
    m.log s (is ++ [i]) = m.log s is ++ [m.record (m.run s is) i] := m.log_append s is [i]

theorem outputs_snoc (s : σ) (is : List ι) (i : ι) :
    m.outputs s (is ++ [i]) = m.outputs s is ++ (m.step (m.run s is) i).2 := by
  rw [outputs, log_snoc, List.flatMap_append, List.flatMap_singleton]
  rfl

/-- What holds at the start, and is kept by a step together with its record,
holds of the state and the log of every run. -/
theorem run_log {J : σ → List (Record σ ι ω) → Prop} {s₀ : σ} (h0 : J s₀ [])
    (hs : ∀ s l i, J s l → J (m.step s i).1 (l ++ [m.record s i])) (is : List ι) :
    J (m.run s₀ is) (m.log s₀ is) := by
  induction is using List.reverseRecOn with
  | nil => exact h0
  | append_singleton is i ih =>
    rw [run_snoc, log_snoc]
    exact hs _ _ _ ih

/-- An invariant of the step holds after every run. -/
theorem reachable {I : σ → Prop} {s₀ : σ} (h0 : I s₀) (hs : ∀ s i, I s → I (m.step s i).1)
    (is : List ι) : I (m.run s₀ is) :=
  m.run_log (J := fun s _ => I s) h0 (fun s _ i h => hs s i h) is

/-- What an invariant of the step makes true of a step, is true of every step of
a run. -/
theorem log_all {I : σ → Prop} {P : Record σ ι ω → Prop} {s₀ : σ} (h0 : I s₀)
    (hs : ∀ s i, I s → I (m.step s i).1) (hP : ∀ s i, I s → P (m.record s i)) {is : List ι}
    {r : Record σ ι ω} (hr : r ∈ m.log s₀ is) : P r := by
  induction is generalizing s₀ with
  | nil => cases hr
  | cons i is ih =>
    rcases List.mem_cons.mp hr with rfl | hr
    · exact hP s₀ i h0
    · exact ih (hs s₀ i h0) hr

/-- Two runs on the same inputs issue the same, step by step, when a relation that
makes a step issue the same is kept by the steps. -/
theorem out_log_eq {R : σ → σ → Prop}
    (hR : ∀ s t i, R s t → (m.step s i).2 = (m.step t i).2 ∧ R (m.step s i).1 (m.step t i).1)
    {s t : σ} (h : R s t) (is : List ι) :
    (m.log s is).map Record.out = (m.log t is).map Record.out := by
  induction is generalizing s t with
  | nil => rfl
  | cons i is ih =>
    obtain ⟨hout, hnext⟩ := hR s t i h
    exact congrArg₂ List.cons hout (ih hnext)

/-- An entry of a log is the record of a step, after a shorter run. -/
theorem log_eq_append_cons {s₀ : σ} {is : List ι} {pre post : List (Record σ ι ω)}
    {r : Record σ ι ω} (h : m.log s₀ is = pre ++ r :: post) :
    ∃ js i, m.log s₀ js = pre ∧ r = m.record (m.run s₀ js) i := by
  induction pre generalizing s₀ is with
  | nil =>
    cases is with
    | nil => cases h
    | cons i is => exact ⟨[], i, rfl, (List.cons.inj h).1.symm⟩
  | cons p pre ih =>
    cases is with
    | nil => cases h
    | cons i is =>
      obtain ⟨rfl, h'⟩ := List.cons.inj h
      obtain ⟨js, j, hjs, rfl⟩ := ih h'
      exact ⟨i :: js, j, congrArg _ hjs, rfl⟩

theorem input_mem_of_mem_log {s₀ : σ} {is : List ι} {r : Record σ ι ω} (h : r ∈ m.log s₀ is) :
    r.input ∈ is := by
  induction is generalizing s₀ with
  | nil => cases h
  | cons i is ih =>
    rcases List.mem_cons.mp h with rfl | h
    · exact List.mem_cons_self
    · exact List.mem_cons_of_mem _ (ih h)

end Machine

/-! ## Consecutive events -/

/-- The last `n` entries of `l` satisfy `P`. -/
def LastAll {α : Type} (P : α → Prop) (n : Nat) (l : List α) : Prop :=
  ∃ a b, l = a ++ b ∧ b.length = n ∧ ∀ x ∈ b, P x

section LastAll

variable {α : Type} {P : α → Prop} {n : Nat} {l : List α}

theorem LastAll.zero : LastAll P 0 l := ⟨l, [], by simp⟩

theorem LastAll.snoc (h : LastAll P n l) {x : α} (hx : P x) : LastAll P (n + 1) (l ++ [x]) := by
  obtain ⟨a, b, rfl, rfl, hb⟩ := h
  refine ⟨a, b ++ [x], by simp, by simp, fun y hy => ?_⟩
  rcases List.mem_append.mp hy with hy | hy
  · exact hb y hy
  · exact List.mem_singleton.mp hy ▸ hx

theorem LastAll.of_suffix (h : LastAll P n l) {t : List α} (ht : t <:+ l) (hn : t.length ≤ n) {x : α}
    (hx : x ∈ t) : P x := by
  obtain ⟨a, b, rfl, rfl, hb⟩ := h
  exact hb x ((List.suffix_of_suffix_length_le ht (List.suffix_append a b) hn).subset hx)

end LastAll

section LastRun

variable {α : Type} (P : α → Prop) [DecidablePred P]

/-- How many entries stand at the end of `l` that satisfy `P`. -/
def lastRun (l : List α) : Nat := (l.reverse.takeWhile (fun x => decide (P x))).length

theorem lastRun_snoc (l : List α) (x : α) :
    lastRun P (l ++ [x]) = if P x then lastRun P l + 1 else 0 := by
  rw [lastRun, List.reverse_append, List.reverse_singleton, List.singleton_append,
    List.takeWhile_cons]
  by_cases h : P x
  · simp [h, lastRun]
  · simp [h]

end LastRun

/-! ## Past events -/

section Past

variable {α : Type} (P : α → Prop)

/-- The entries after the last that satisfies `P`. -/
def sinceLast [DecidablePred P] (l : List α) : List α :=
  (l.reverse.takeWhile fun x => decide (¬P x)).reverse

theorem sinceLast_snoc [DecidablePred P] (l : List α) (x : α) :
    sinceLast P (l ++ [x]) = if P x then [] else sinceLast P l ++ [x] := by
  rw [sinceLast, List.reverse_append, List.reverse_singleton, List.singleton_append,
    List.takeWhile_cons]
  by_cases h : P x
  · simp [h]
  · simp [h, sinceLast]

/-- `x` stands `n` entries before the end of `l`, and those after it satisfy `P`. -/
def Ago (n : Nat) (x : α) (l : List α) : Prop :=
  ∃ a b, l = a ++ x :: b ∧ b.length = n ∧ ∀ y ∈ b, P y

variable {P} {n : Nat} {x : α} {l : List α}

theorem ago_nil : ¬Ago P n x [] := by
  rintro ⟨a, b, h, -⟩
  exact List.append_ne_nil_of_right_ne_nil a (List.cons_ne_nil x b) h.symm

theorem ago_snoc {y : α} :
    Ago P n x (l ++ [y]) ↔ n = 0 ∧ x = y ∨ P y ∧ ∃ m, n = m + 1 ∧ Ago P m x l := by
  refine ⟨?_, ?_⟩
  · rintro ⟨a, b, h, rfl, hb⟩
    rcases List.eq_nil_or_concat b with rfl | ⟨b, z, rfl⟩
    · exact .inl ⟨rfl, (List.singleton_inj.mp (List.append_inj' h rfl).2).symm⟩
    · rw [List.concat_eq_append, ← List.cons_append, ← List.append_assoc] at h
      obtain ⟨rfl, hz⟩ := List.append_inj' h rfl
      cases List.singleton_inj.mp hz
      refine .inr ⟨hb _ (by simp), b.length, by simp, a, b, rfl, rfl, fun w hw => hb w ?_⟩
      exact List.concat_eq_append ▸ List.mem_append_left _ hw
  · rintro (⟨rfl, rfl⟩ | ⟨hy, m, rfl, a, b, rfl, rfl, hb⟩)
    · exact ⟨l, [], rfl, rfl, fun _ h => absurd h List.not_mem_nil⟩
    · refine ⟨a, b ++ [y], by simp, by simp, fun w hw => ?_⟩
      rcases List.mem_append.mp hw with hw | hw
      · exact hb w hw
      · exact List.mem_singleton.mp hw ▸ hy

end Past

end TR
