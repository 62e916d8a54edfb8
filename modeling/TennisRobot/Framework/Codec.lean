import Mathlib.Data.List.Basic

/-!
# Items in a row

A reader takes one item off the front of a list and leaves the rest; `readAll` reads items
until nothing is left. Pieces that the reader takes for their items, whatever is behind
them, are read back one by one where they stand in a row (`readAll_flatten`).
-/

namespace TR

variable {ι α : Type}

/-- At most `n` items. -/
def readUpTo (read : List ι → Option (α × List ι)) : Nat → List ι → Option (List α)
  | 0, l => if l.isEmpty then some [] else none
  | n + 1, l =>
    if l.isEmpty then some []
    else do
      let (a, rest) ← read l
      return a :: (← readUpTo read n rest)

/-- The items of a list. -/
def readAll (read : List ι → Option (α × List ι)) (l : List ι) : Option (List α) :=
  readUpTo read l.length l

section Read

variable {read : List ι → Option (α × List ι)} {l rest : List ι} {a : α} {as : List α} {n : Nat}

theorem readUpTo_nil : readUpTo read n [] = some [] := by
  cases n <;> rfl

theorem readUpTo_succ (hl : l ≠ []) (h : read l = some (a, rest))
    (hn : readUpTo read n rest = some as) : readUpTo read (n + 1) l = some (a :: as) := by
  rw [readUpTo, if_neg (by simpa using hl), h]
  simp only [Option.bind_eq_bind, Option.bind_some, hn]
  rfl

/-- Pieces in a row. -/
theorem readUpTo_flatten (parts : List (List ι × α))
    (h : ∀ p ∈ parts, p.1 ≠ [] ∧ ∀ rest, read (p.1 ++ rest) = some (p.2, rest))
    (hn : (parts.map Prod.fst).flatten.length ≤ n) :
    readUpTo read n (parts.map Prod.fst).flatten = some (parts.map Prod.snd) := by
  induction parts generalizing n with
  | nil => exact readUpTo_nil
  | cons p parts ih =>
    obtain ⟨hne, hp⟩ := h p List.mem_cons_self
    have hpos : 0 < p.1.length := List.length_pos_iff.mpr hne
    rw [List.map_cons, List.flatten_cons, List.length_append] at hn
    obtain ⟨k, rfl⟩ : ∃ k, n = k + 1 := ⟨n - 1, by omega⟩
    rw [List.map_cons, List.flatten_cons, List.map_cons]
    exact readUpTo_succ (List.append_ne_nil_of_left_ne_nil hne _) (hp _)
      (ih (fun q hq => h q (List.mem_cons_of_mem _ hq)) (by omega))

theorem readAll_flatten (parts : List (List ι × α))
    (h : ∀ p ∈ parts, p.1 ≠ [] ∧ ∀ rest, read (p.1 ++ rest) = some (p.2, rest)) :
    readAll read (parts.map Prod.fst).flatten = some (parts.map Prod.snd) :=
  readUpTo_flatten parts h (Nat.le_refl _)

end Read

end TR
