import Mathlib.Data.List.Basic
import Mathlib.Data.List.Perm.Basic

/-!
# Greedy suppression

`greedy kills l` keeps the first element of `l`, drops every later one it
kills, and goes on with what is left. The kept elements do not kill each other
(`greedy_pairwise`), and each dropped one is killed by a kept one that stands
before it (`greedy_removed`). A second pass drops nothing (`greedy_greedy`), and
elements that others do not kill are kept as without the others (`greedy_filter`).

Code does this in place: a loop over positions, in it a loop over the later
positions that marks what is killed, then the marked elements are taken out.
`foldl_positions` turns a loop over positions into a map over a list, and
`filter_loop` turns the two loops into `greedy`.
-/

namespace TR

variable {α β : Type}

/-- Keep the first element, drop what it kills, and go on. -/
def greedy (kills : α → α → Bool) : List α → List α
  | [] => []
  | a :: l => a :: greedy kills (l.filter fun b => !kills a b)
termination_by l => l.length
decreasing_by
  rw [List.length_unattach, List.length_cons]
  refine Nat.lt_succ_of_le (Nat.le_trans (List.length_filter_le _ _) ?_)
  exact Nat.le_of_eq List.length_attach

section Greedy

variable (kills : α → α → Bool)

theorem greedy_nil : greedy kills ([] : List α) = [] := by
  simp only [greedy]

theorem greedy_cons (a : α) (l : List α) :
    greedy kills (a :: l) = a :: greedy kills (l.filter fun b => !kills a b) := by
  simp only [greedy]

/-- Induction along `greedy`: from the list left after the head's kills. -/
theorem greedy_induction {P : List α → Prop} (h0 : P [])
    (h1 : ∀ a l, P (l.filter fun b => !kills a b) → P (a :: l)) (l : List α) : P l := by
  suffices h : ∀ n (l : List α), l.length ≤ n → P l from h _ l (Nat.le_refl _)
  intro n
  induction n with
  | zero => intro l hl; rwa [List.length_eq_zero_iff.mp (Nat.le_zero.mp hl)]
  | succ n ih =>
    intro l hl
    cases l with
    | nil => exact h0
    | cons a l =>
      refine h1 a l (ih _ (Nat.le_trans (List.length_filter_le _ l) ?_))
      exact Nat.le_of_succ_le_succ hl

theorem greedy_sublist (l : List α) : (greedy kills l).Sublist l := by
  induction l using greedy_induction kills with
  | h0 => rw [greedy_nil]
  | h1 a l ih =>
    rw [greedy_cons]
    exact (ih.trans List.filter_sublist).cons_cons a

/-- Kept elements do not kill each other. -/
theorem greedy_pairwise (l : List α) : (greedy kills l).Pairwise fun a b => kills a b = false := by
  induction l using greedy_induction kills with
  | h0 => rw [greedy_nil]; exact List.Pairwise.nil
  | h1 a l ih =>
    rw [greedy_cons]
    refine List.pairwise_cons.mpr ⟨fun b hb => ?_, ih⟩
    simpa using (List.mem_filter.mp ((greedy_sublist kills _).subset hb)).2

/-- What is not kept is killed by a kept element, before it in the list. -/
theorem greedy_removed {R : α → α → Prop} (l : List α) (h : l.Pairwise R) :
    ∃ removed, (greedy kills l ++ removed).Perm l ∧
      ∀ b ∈ removed, ∃ a ∈ greedy kills l, kills a b = true ∧ R a b := by
  induction l using greedy_induction kills with
  | h0 => exact ⟨[], by rw [greedy_nil]; rfl, fun _ hb => absurd hb List.not_mem_nil⟩
  | h1 a l ih =>
    obtain ⟨ha, hl⟩ := List.pairwise_cons.mp h
    obtain ⟨removed, hp, hr⟩ := ih (hl.sublist List.filter_sublist)
    refine ⟨removed ++ l.filter fun b => kills a b, ?_, fun b hb => ?_⟩
    · rw [greedy_cons, List.cons_append, ← List.append_assoc, List.perm_cons]
      refine (hp.append_right _).trans (List.perm_append_comm.trans ?_)
      exact List.filter_append_perm (fun b => kills a b) l
    · rw [greedy_cons]
      rcases List.mem_append.mp hb with hb | hb
      · obtain ⟨k, hk, hkb⟩ := hr b hb
        exact ⟨k, List.mem_cons_of_mem _ hk, hkb⟩
      · obtain ⟨hb, hk⟩ := List.mem_filter.mp hb
        exact ⟨a, List.mem_cons_self, hk, ha b hb⟩

/-- What does not kill is kept. -/
theorem greedy_of_pairwise {l : List α} (h : l.Pairwise fun a b => kills a b = false) :
    greedy kills l = l := by
  induction l with
  | nil => exact greedy_nil kills
  | cons a l ih =>
    obtain ⟨ha, hl⟩ := List.pairwise_cons.mp h
    have hkeep : l.filter (fun b => !kills a b) = l :=
      List.filter_eq_self.mpr fun b hb => by rw [ha b hb]; rfl
    rw [greedy_cons, hkeep, ih hl]

/-- A second pass drops nothing. -/
theorem greedy_greedy (l : List α) : greedy kills (greedy kills l) = greedy kills l :=
  greedy_of_pairwise kills (greedy_pairwise kills l)

/-- Where elements only kill others of their group, a group is suppressed on its
own. -/
theorem greedy_filter {p : α → Bool} (hp : ∀ a b, kills a b = true → p a = p b) (l : List α) :
    (greedy kills l).filter p = greedy kills (l.filter p) := by
  induction l using greedy_induction kills with
  | h0 => rw [greedy_nil, List.filter_nil, greedy_nil]
  | h1 a l ih =>
    rw [greedy_cons, List.filter_cons, List.filter_cons, ih]
    by_cases ha : p a = true
    · rw [if_pos ha, if_pos ha, greedy_cons]
      simp only [List.filter_filter, Bool.and_comm]
    · -- What `a` kills is not in the group either.
      rw [if_neg ha, if_neg ha, List.filter_filter]
      refine congrArg _ (List.filter_congr fun b _ => ?_)
      cases hb : kills a b with
      | false => rw [Bool.not_false, Bool.and_true]
      | true =>
        rw [← hp a b hb, Bool.eq_false_iff.mpr ha]
        rfl

end Greedy

/-! ## Loops over positions -/

/-- A loop over the positions after `pre`, whose body rewrites the element at
its position with `u`, maps `u` over the elements there. -/
theorem foldl_positions {f : List α × β → Nat → List α × β} {u : α → α} {pre : List α}
    (h : ∀ mid b rest c, (f (pre ++ mid ++ b :: rest, c) (pre ++ mid).length).1 =
      pre ++ mid ++ u b :: rest) (rest : List α) (c : β) :
    ((List.range' pre.length rest.length).foldl f (pre ++ rest, c)).1 = pre ++ rest.map u := by
  suffices hm : ∀ (rest mid : List α) (c : β),
      ((List.range' (pre ++ mid).length rest.length).foldl f (pre ++ mid ++ rest, c)).1 =
        pre ++ mid ++ rest.map u by
    simpa using hm rest [] c
  intro rest
  induction rest with
  | nil => exact fun mid c => by simp
  | cons b rest ih =>
    intro mid c
    rw [List.length_cons, List.range'_succ, List.foldl_cons]
    have e : f (pre ++ mid ++ b :: rest, c) (pre ++ mid).length =
        (pre ++ (mid ++ [u b]) ++ rest, (f (pre ++ mid ++ b :: rest, c) (pre ++ mid).length).2) :=
      Prod.ext ((h mid b rest c).trans (by simp)) rfl
    rw [e, show (pre ++ mid).length + 1 = (pre ++ (mid ++ [u b])).length by simp; omega,
      ih (mid ++ [u b])]
    simp

section Loop

variable {alive : α → Bool} {kills : α → α → Bool} {kill : α → α}

/-- The elements of `l`, those that `a` kills marked. -/
def mark (alive : α → Bool) (kills : α → α → Bool) (kill : α → α) (a : α) (l : List α) : List α :=
  l.map fun b => if alive b && kills a b then kill b else b

theorem length_mark (a : α) (l : List α) : (mark alive kills kill a l).length = l.length :=
  List.length_map _

theorem filter_mark (hk : ∀ b, alive (kill b) = false) (a : α) (l : List α) :
    (mark alive kills kill a l).filter alive = (l.filter alive).filter fun b => !kills a b := by
  induction l with
  | nil => rfl
  | cons b l ih =>
    rw [mark, List.map_cons, ← mark]
    cases ha : alive b <;> cases hb : kills a b <;> simp [ha, hb, hk, ih]

/-- A loop over all positions from `pre` on, in a list of `total` elements,
whose body marks what the element at its position kills, leaves `greedy`
alive. -/
theorem filter_loop {total : Nat} {f : List α × β → Nat → List α × β}
    (hk : ∀ b, alive (kill b) = false)
    (h : ∀ pre a rest c, (pre ++ a :: rest).length = total →
      (f (pre ++ a :: rest, c) pre.length).1 =
        pre ++ a :: if alive a then mark alive kills kill a rest else rest) :
    ∀ (n : Nat) (pre rest : List α) (c : β), rest.length = n → (pre ++ rest).length = total →
      ((List.range' pre.length n).foldl f (pre ++ rest, c)).1.filter alive =
        pre.filter alive ++ greedy kills (rest.filter alive)
  | 0, pre, rest, c, hn, _ => by
    rw [List.length_eq_zero_iff.mp hn]
    simp [greedy_nil]
  | n + 1, pre, [], c, hn, _ => by cases hn
  | n + 1, pre, a :: rest, c, hn, ht => by
    rw [List.range'_succ, List.foldl_cons]
    have e : f (pre ++ a :: rest, c) pre.length =
        ((pre ++ [a]) ++ (if alive a then mark alive kills kill a rest else rest),
          (f (pre ++ a :: rest, c) pre.length).2) :=
      Prod.ext ((h pre a rest c ht).trans (by simp)) rfl
    have hl : (if alive a then mark alive kills kill a rest else rest).length = n := by
      split
      · rw [length_mark]; exact Nat.succ.inj hn
      · exact Nat.succ.inj hn
    have ht' : (pre ++ [a] ++ if alive a then mark alive kills kill a rest else rest).length =
        total := by
      rw [← ht, List.length_append, List.length_append, List.length_append, hl, hn,
        List.length_singleton]
      omega
    rw [e, show pre.length + 1 = (pre ++ [a]).length by simp, filter_loop hk h n _ _ _ hl ht',
      List.filter_append, List.append_assoc]
    cases ha : alive a with
    | true => simp [ha, filter_mark hk, greedy_cons]
    | false => simp [ha]

end Loop

end TR
