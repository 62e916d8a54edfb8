import Mathlib.Data.List.Basic
import Mathlib.Data.List.ProdSigma
import Mathlib.Order.Lattice

/-!
# Loops

Rules for loops over a list. A loop whose body can fail has the value of the
loop without failures when no step of it fails (`foldlM_eq_some`). A loop over the
indices of a list is one over the list (`flatMap_range_getElem?`). A loop that appends
what it finds, and counts it, appends a `filterMap` (`foldl_collect`), and two nested
ones that of the pairs (`foldl_collect_product`). A loop that keeps the best number so
far ends with the first of the largest (`scanMax_spec`), and one that keeps the larger of
what it has and what comes with a largest (`le_foldl_larger`). A loop that loses nothing of
what it adds up tells lists apart that differ in one place (`foldl_set_ne`).
-/

namespace TR

variable {α β γ : Type}

/-- A loop fails only where a step does. -/
theorem foldlM_eq_some {f : β → α → Option β} {g : β → α → β} :
    ∀ (l : List α) (b : β), (∀ a ∈ l, ∀ b, f b a = some (g b a)) →
      l.foldlM f b = some (l.foldl g b)
  | [], _, _ => rfl
  | a :: l, b, h => by
    have ha := h a List.mem_cons_self b
    rw [List.foldlM_cons, ha, List.foldl_cons]
    exact foldlM_eq_some l _ fun x hx => h x (List.mem_cons_of_mem _ hx)

/-- A loop over the indices of a list is one over the list. -/
theorem flatMap_range_getElem? (l : List α) (f : Option α → List β) :
    (List.range l.length).flatMap (fun i => f l[i]?) = l.flatMap fun x => f (some x) := by
  have hread : (List.range l.length).map (fun i => l[i]?) = l.map some := by
    apply List.ext_getElem
    · simp
    · intro i _ hi
      have hi : i < l.length := by simpa using hi
      simp [hi]
  rw [← List.flatMap_map, hread, List.flatMap_map]

/-! ## Loops that lose nothing -/

/-- Where no step of a loop does, the loop does not forget where it began. -/
theorem foldl_injective {f : β → α → β} (hf : ∀ a, Function.Injective (f · a)) :
    ∀ l : List α, Function.Injective fun b => l.foldl f b
  | [], _, _, h => h
  | a :: l, _, _, h => hf a (foldl_injective hf l h)

/-- Another value in one place of the list, and the loop ends with another value. -/
theorem foldl_set_ne {f : β → α → β} (hleft : ∀ a, Function.Injective (f · a))
    (hright : ∀ b, Function.Injective (f b)) {l : List α} {i : Nat} {x a : α}
    (hi : l[i]? = some x) (ha : a ≠ x) (b : β) : (l.set i a).foldl f b ≠ l.foldl f b := by
  induction l generalizing i b with
  | nil => simp at hi
  | cons y l ih =>
    cases i with
    | zero =>
      obtain rfl : y = x := by simpa using hi
      intro h
      exact ha (hright b (foldl_injective hleft l h))
    | succ i => exact ih (by simpa using hi) (f b y)

/-! ## Loops that collect -/

/-- The body of a loop that appends what it finds, and counts it. -/
def collect (find : α → Option γ) (s : List γ × Nat) (a : α) : List γ × Nat :=
  match find a with
  | some d => (s.1 ++ [d], s.2 + 1)
  | none => s

theorem foldl_collect (find : α → Option γ) :
    ∀ (l : List α) (s : List γ × Nat),
      l.foldl (collect find) s = (s.1 ++ l.filterMap find, s.2 + (l.filterMap find).length)
  | [], s => by simp
  | a :: l, s => by
    rw [List.foldl_cons, foldl_collect find l, List.filterMap_cons, collect]
    cases find a with
    | none => rfl
    | some d => simp [Nat.add_comm, Nat.add_left_comm]

/-- Two nested loops collect what one over the pairs does. -/
theorem foldl_collect_product (find : α × β → Option γ) (m : List β) :
    ∀ (l : List α) (s : List γ × Nat),
      l.foldl (fun s a => m.foldl (collect fun b => find (a, b)) s) s =
        (l ×ˢ m).foldl (collect find) s
  | [], _ => rfl
  | a :: l, s => by
    rw [List.foldl_cons, foldl_collect_product find m l, List.product_cons, List.foldl_append,
      List.foldl_map]
    rfl

/-- What is collected belongs, one to one and in order, to what is looked for. -/
theorem forall₂_filterMap {find : α → Option γ} {p : α → Bool} {R : α → γ → Prop} :
    ∀ l : List α, (∀ a ∈ l, if p a then ∃ d, find a = some d ∧ R a d else find a = none) →
      List.Forall₂ R (l.filter p) (l.filterMap find)
  | [], _ => .nil
  | a :: l, h => by
    have ih := forall₂_filterMap l fun x hx => h x (List.mem_cons_of_mem _ hx)
    have ha := h a List.mem_cons_self
    rw [List.filter_cons, List.filterMap_cons]
    split at ha
    · obtain ⟨d, hd, hr⟩ := ha
      rw [if_pos ‹_›, hd]
      exact .cons hr ih
    · rw [if_neg ‹_›, ha]
      exact ih

/-! ## The first of the largest -/

section Max

variable [LinearOrder α]

/-- The body of a loop that keeps the largest number so far, and its position. -/
def keepMax (f : Nat → α) (best : α × Nat) (i : Nat) : α × Nat :=
  if best.1 < f i then (f i, i) else best

/-- `i` is the first of the positions below `n` where `f` is largest. -/
structure FirstMax (f : Nat → α) (n i : Nat) : Prop where
  lt : i < n
  le : ∀ k < n, f k ≤ f i
  first : ∀ k < i, f k < f i

/-- After `n` positions the loop has kept the number it began with, or the first of
the largest. -/
theorem scanMax_spec (f : Nat → α) (lo : α) (n : Nat) :
    let best := (List.range n).foldl (keepMax f) (lo, 0)
    (best = (lo, 0) ∧ ∀ k < n, f k ≤ lo) ∨
      (lo < best.1 ∧ best.1 = f best.2 ∧ FirstMax f n best.2) := by
  induction n with
  | zero => exact .inl ⟨rfl, fun k hk => absurd hk (Nat.not_lt_zero k)⟩
  | succ n ih =>
    rw [List.range_succ, List.foldl_append, List.foldl_cons, List.foldl_nil]
    generalize (List.range n).foldl (keepMax f) (lo, 0) = best at ih
    show let best := keepMax f best n; _
    have hlast (P : Nat → Prop) (h : ∀ k < n, P k) (hn : P n) : ∀ k < n + 1, P k := by
      intro k hk
      rcases Nat.lt_succ_iff_lt_or_eq.mp hk with hk | rfl
      · exact h k hk
      · exact hn
    unfold keepMax
    split
    · -- The new number is larger than all before.
      rename_i hlt
      rcases ih with ⟨rfl, hle⟩ | ⟨hlo, heq, hmax⟩
      · have hall : ∀ k < n, f k < f n := fun k hk => lt_of_le_of_lt (hle k hk) hlt
        exact .inr ⟨hlt, rfl, Nat.lt_succ_self n,
          hlast _ (fun k hk => (hall k hk).le) le_rfl, hall⟩
      · have hall : ∀ k < n, f k < f n := fun k hk => lt_of_le_of_lt (hmax.le k hk) (heq ▸ hlt)
        exact .inr ⟨hlo.trans hlt, rfl, Nat.lt_succ_self n,
          hlast _ (fun k hk => (hall k hk).le) le_rfl, hall⟩
    · rename_i hlt
      rcases ih with ⟨rfl, hle⟩ | ⟨hlo, heq, hmax⟩
      · exact .inl ⟨rfl, hlast _ hle (not_lt.mp hlt)⟩
      · exact .inr ⟨hlo, heq, Nat.lt_succ_of_lt hmax.lt,
          hlast _ hmax.le (heq ▸ not_lt.mp hlt), hmax.first⟩

/-- A loop that keeps the larger of what it has and what comes ends with a largest. -/
theorem le_foldl_larger (key : β → α) (l : List β) (b : β) : ∀ c ∈ b :: l,
    key c ≤ key (l.foldl (fun best c => if key c > key best then c else best) b) := by
  induction l generalizing b with
  | nil =>
    intro c hc
    rw [List.mem_singleton.mp hc]
    exact le_rfl
  | cons a l ih =>
    rw [List.foldl_cons]
    generalize hkept : (if key a > key b then a else b) = kept
    have hle : key b ≤ key kept ∧ key a ≤ key kept := by
      rw [← hkept]
      split_ifs with hlt
      · exact ⟨hlt.le, le_rfl⟩
      · exact ⟨le_rfl, not_lt.mp hlt⟩
    have htop := ih kept kept List.mem_cons_self
    intro c hc
    rcases List.mem_cons.mp hc with rfl | hc
    · exact hle.1.trans htop
    · rcases List.mem_cons.mp hc with rfl | hc
      · exact hle.2.trans htop
      · exact ih kept c (List.mem_cons_of_mem _ hc)

end Max

end TR
