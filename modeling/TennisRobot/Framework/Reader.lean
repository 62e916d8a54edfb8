import Mathlib.Data.List.Basic

/-!
# Programs that read

A `Reader` reads inputs one after another. Run on a list it is done, with the
inputs it has left, or it waits for more (`Read`). `bind_eq_done` takes a run
apart. `Within n` says that it is done after `n` inputs at most, whatever they
are, and `ReturnsWithin` that it is on one endless sequence. `calls_flatten`: a
reader that is done at the end of each of some pieces reads them off one by one
where they stand in a row.
-/

namespace TR

/-- How far a run has come when the inputs are used up. -/
inductive Read (ι α : Type)
  | pending
  | done (a : α) (rest : List ι)
deriving DecidableEq, Repr

/-- A program that reads inputs `ι`. -/
def Reader (ι α : Type) : Type := List ι → Read ι α

namespace Reader

variable {ι α β : Type}

instance : Monad (Reader ι) where
  pure a := fun l => .done a l
  bind m f := fun l =>
    match m l with
    | .pending => .pending
    | .done a rest => f a rest

/-- Read one input. -/
def next : Reader ι ι
  | [] => .pending
  | i :: l => .done i l

/-- `m`, and how many inputs it reads. -/
def counted (m : Reader ι α) : Reader ι (α × Nat) := fun l =>
  match m l with
  | .pending => .pending
  | .done a rest => .done (a, l.length - rest.length) rest

/-- `n` runs of `m` in a row: what each returns, and how many inputs it
reads. -/
def calls (m : Reader ι α) : Nat → Reader ι (List (α × Nat))
  | 0 => pure []
  | n + 1 => do
    let p ← counted m
    return p :: (← calls m n)

/-! ## Runs -/

@[simp] theorem pure_apply (a : α) (l : List ι) : (pure a : Reader ι α) l = .done a l := rfl

section Bind

variable {m : Reader ι α} {f : α → Reader ι β} {l rest : List ι} {a : α} {b : β}

theorem bind_of_done (h : m l = .done a rest) : (m >>= f) l = f a rest := by
  simp only [Bind.bind, h]

theorem bind_of_pending (h : m l = .pending) : (m >>= f) l = .pending := by
  simp only [Bind.bind, h]

theorem bind_eq_done : (m >>= f) l = .done b rest ↔
    ∃ a mid, m l = .done a mid ∧ f a mid = .done b rest := by
  cases h : m l with
  | pending => rw [bind_of_pending h]; simp
  | done a mid =>
    rw [bind_of_done h]
    refine ⟨fun h' => ⟨a, mid, rfl, h'⟩, fun ⟨a', mid', he, h'⟩ => ?_⟩
    obtain ⟨rfl, rfl⟩ := Read.done.inj he
    exact h'

theorem next_eq_done {i : ι} : next l = .done i rest ↔ l = i :: rest := by
  cases l <;> simp [next]

theorem next_bind_eq_done {f : ι → Reader ι β} : (next >>= f) l = .done b rest ↔
    ∃ i mid, l = i :: mid ∧ f i mid = .done b rest := by
  simp only [bind_eq_done, next_eq_done]

end Bind

instance : LawfulMonad (Reader ι) := by
  refine LawfulMonad.mk' (Reader ι) (fun m => ?_) (fun _ _ => rfl) (fun m f g => ?_)
  · funext l
    show (m >>= fun a => pure a) l = m l
    cases h : m l with
    | pending => exact bind_of_pending h
    | done a mid => exact bind_of_done h
  · funext l
    cases h : m l with
    | pending => rw [bind_of_pending h, bind_of_pending (bind_of_pending h)]
    | done a mid =>
      rw [bind_of_done h]
      cases h' : f a mid with
      | pending => rw [bind_of_pending h', bind_of_pending ((bind_of_done h).trans h')]
      | done b rest => rw [bind_of_done h', bind_of_done ((bind_of_done h).trans h')]

/-- Two programs go on alike, whether there is something or not. -/
theorem bind_congr_option {m : Reader ι (Option α)} {f g : Option α → Reader ι β}
    (hnone : f none = g none) (hsome : ∀ a, f (some a) = g (some a)) : m >>= f = m >>= g :=
  bind_congr fun o => Option.casesOn o hnone hsome

/-- A reader that reads off each of some pieces reads off their
concatenation. -/
theorem calls_flatten {m : Reader ι α} (parts : List (List ι × α))
    (h : ∀ p ∈ parts, ∀ rest, m (p.1 ++ rest) = .done p.2 rest) (rest : List ι) :
    calls m parts.length ((parts.map Prod.fst).flatten ++ rest) =
      .done (parts.map fun p => (p.2, p.1.length)) rest := by
  induction parts with
  | nil => rfl
  | cons p parts ih =>
    have hp : counted m (p.1 ++ ((parts.map Prod.fst).flatten ++ rest)) =
        .done (p.2, p.1.length) ((parts.map Prod.fst).flatten ++ rest) := by
      simp [counted, h p List.mem_cons_self]
    rw [List.map_cons, List.flatten_cons, List.append_assoc, List.length_cons, calls,
      bind_of_done hp, bind_of_done (ih fun q hq => h q (List.mem_cons_of_mem _ hq))]
    rfl

/-! ## What is left -/

/-- What `m` leaves is the end of what it is given. -/
def Suffixed (m : Reader ι α) : Prop := ∀ l a rest, m l = .done a rest → rest <:+ l

theorem suffixed_pure (a : α) : Suffixed (pure a : Reader ι α) := fun l _ _ h =>
  (Read.done.inj h).2 ▸ List.suffix_refl l

theorem suffixed_next : Suffixed (next : Reader ι ι) := fun l i rest h => by
  rw [next_eq_done.mp h]
  exact List.suffix_cons i rest

theorem Suffixed.bind {m : Reader ι α} {f : α → Reader ι β} (hm : Suffixed m)
    (hf : ∀ a, Suffixed (f a)) : Suffixed (m >>= f) := by
  intro l b rest h
  obtain ⟨a, mid, ha, hb⟩ := bind_eq_done.mp h
  exact (hf a mid b rest hb).trans (hm l a mid ha)

/-- Runs in a row read pieces in a row. -/
theorem calls_pieces {m : Reader ι α} (hm : Suffixed m) {n : Nat} {l rest : List ι}
    {rs : List (α × Nat)} (h : calls m n l = .done rs rest) :
    ∃ pieces : List (List ι), l = pieces.flatten ++ rest ∧
      List.Forall₂ (fun r piece => r.2 = piece.length ∧
        ∃ more, m (piece ++ more) = .done r.1 more) rs pieces := by
  induction n generalizing l rs with
  | zero =>
    obtain ⟨rfl, rfl⟩ := Read.done.inj h
    exact ⟨[], rfl, .nil⟩
  | succ n ih =>
    obtain ⟨r, mid, hr, h⟩ := bind_eq_done.mp h
    obtain ⟨rs', rest', hrs, h⟩ := bind_eq_done.mp h
    obtain ⟨rfl, rfl⟩ := Read.done.inj h
    obtain ⟨pieces, rfl, hpieces⟩ := ih hrs
    unfold counted at hr
    cases hml : m l with
    | pending =>
      rw [hml] at hr
      cases hr
    | done a mid =>
      rw [hml] at hr
      obtain ⟨rfl, rfl⟩ := Read.done.inj hr
      obtain ⟨piece, rfl⟩ := hm l a _ hml
      refine ⟨piece :: pieces, by rw [List.flatten_cons, List.append_assoc],
        .cons ⟨?_, _, hml⟩ hpieces⟩
      rw [List.length_append, Nat.add_sub_cancel]

/-! ## How much is read -/

/-- `m` is done after `n` inputs at most. -/
def Within (n : Nat) (m : Reader ι α) : Prop :=
  ∀ l, n ≤ l.length → ∃ a rest, m l = .done a rest ∧ l.length ≤ rest.length + n

theorem within_pure (a : α) (n : Nat) : Within n (pure a : Reader ι α) :=
  fun l _ => ⟨a, l, rfl, Nat.le_add_right ..⟩

theorem within_next_bind {n : Nat} {f : ι → Reader ι β} (h : ∀ i, Within n (f i)) :
    Within (n + 1) (next >>= f) := by
  intro l hl
  cases l with
  | nil => exact absurd hl (Nat.not_succ_le_zero n)
  | cons i l =>
    obtain ⟨b, rest, hb, hr⟩ := h i l (Nat.le_of_succ_le_succ hl)
    refine ⟨b, rest, hb, ?_⟩
    rw [List.length_cons]
    omega

theorem Within.bind {n k : Nat} {m : Reader ι α} {f : α → Reader ι β} (hm : Within n m)
    (hf : ∀ a, Within k (f a)) : Within (n + k) (m >>= f) := by
  intro l hl
  obtain ⟨a, mid, ha, hmid⟩ := hm l (by omega)
  obtain ⟨b, rest, hb, hrest⟩ := hf a mid (by omega)
  exact ⟨b, rest, (bind_of_done ha).trans hb, by omega⟩

theorem Within.mono {n k : Nat} {m : Reader ι α} (h : Within n m) (hk : n ≤ k) : Within k m := by
  intro l hl
  obtain ⟨a, rest, ha, hr⟩ := h l (Nat.le_trans hk hl)
  exact ⟨a, rest, ha, by omega⟩

/-- The first `n` inputs of an endless sequence. -/
def firsts (s : Nat → ι) (n : Nat) : List ι := (List.range n).map s

@[simp] theorem length_firsts (s : Nat → ι) (n : Nat) : (firsts s n).length = n := by
  simp [firsts]

theorem firsts_succ (s : Nat → ι) (n : Nat) : firsts s (n + 1) = firsts s n ++ [s n] := by
  simp [firsts, List.range_succ]

theorem firsts_add (s : Nat → ι) (n k : Nat) :
    firsts s (n + k) = firsts s n ++ firsts (fun i => s (n + i)) k := by
  simp [firsts, List.range_add]

/-- `m` is done after `n` inputs of `s` at most. -/
def ReturnsWithin (m : Reader ι α) (s : Nat → ι) (n : Nat) : Prop := m (firsts s n) ≠ .pending

end Reader

end TR
