import Mathlib.Algebra.Group.Nat.Defs
import Mathlib.Data.List.Basic

/-!
# Lines of text

Numbers as `printf` writes them (`printfD`) and a reader for them (`readNat_printfD`);
and texts that are sent one after the other, each with a stop character at its end.
Cut after each stop (`cutAfter`), a stream of texts with just one stop, the last
character, falls into these texts (`cutAfter_flatten`); it never falls into more than
it has stops (`length_le_count_flatten`).
-/

namespace TR

/-! ## Numbers -/

/-- `%0wd`, for a width `w`; `%d` for 0. -/
def printfD (width : Nat) (n : Int) : List Char :=
  let digits := Nat.toDigits 10 n.natAbs
  if n < 0 then '-' :: (List.replicate (width - 1 - digits.length) '0' ++ digits)
  else List.replicate (width - digits.length) '0' ++ digits

/-- `snprintf`: what a buffer of `size` bytes holds of a text. -/
def snprintf (size : Nat) (text : List Char) : List Char := text.take (size - 1)

/-- The number at the front of a text, and what is behind it. -/
def readNat (text : List Char) : Option (Nat × List Char) :=
  let digits := text.takeWhile Char.isDigit
  if digits = [] then none
  else some (Nat.ofDigitChars 10 digits 0, text.dropWhile Char.isDigit)

/-- What is behind the character `c` at the front of a text. -/
def expect (c : Char) : List Char → Option (List Char)
  | [] => none
  | x :: text => if x = c then some text else none

@[simp] theorem expect_cons (c : Char) (text : List Char) : expect c (c :: text) = some text :=
  if_pos rfl

section Numbers

variable {w : Nat} {n : Int} (hn : 0 ≤ n)

include hn

theorem printfD_of_nonneg : printfD w n =
    List.replicate (w - (Nat.toDigits 10 n.natAbs).length) '0' ++ Nat.toDigits 10 n.natAbs :=
  if_neg (Int.not_lt.mpr hn)

theorem isDigit_of_mem_printfD {c : Char} (h : c ∈ printfD w n) : c.isDigit = true := by
  rw [printfD_of_nonneg hn] at h
  rcases List.mem_append.mp h with h | h
  · rw [List.eq_of_mem_replicate h]
    rfl
  · exact Nat.isDigit_of_mem_toDigits (by decide) (by decide) h

theorem printfD_ne_nil : printfD w n ≠ [] := by
  rw [printfD_of_nonneg hn]
  exact List.append_ne_nil_of_right_ne_nil _ Nat.toDigits_ne_nil

theorem ofDigitChars_printfD : Nat.ofDigitChars 10 (printfD w n) 0 = n.natAbs := by
  rw [printfD_of_nonneg hn, Nat.ofDigitChars_append, Nat.ofDigitChars_replicate_zero, Nat.mul_zero,
    Nat.ofDigitChars_ten_toDigits]

/-- A number is read back, up to a character that is no digit. -/
theorem readNat_printfD {c : Char} (hc : c.isDigit = false) (text : List Char) :
    readNat (printfD w n ++ c :: text) = some (n.natAbs, c :: text) := by
  have hdigits : ∀ d ∈ printfD w n, d.isDigit = true := fun d hd => isDigit_of_mem_printfD hn hd
  have htake : (printfD w n ++ c :: text).takeWhile Char.isDigit = printfD w n := by
    rw [List.takeWhile_append_of_pos hdigits, List.takeWhile_cons_of_neg (by rw [hc]; decide),
      List.append_nil]
  have hdrop : (printfD w n ++ c :: text).dropWhile Char.isDigit = c :: text := by
    rw [List.dropWhile_append_of_pos hdigits, List.dropWhile_cons_of_neg (by rw [hc]; decide)]
  unfold readNat
  rw [htake, hdrop, if_neg (printfD_ne_nil hn), ofDigitChars_printfD hn]

/-- A number of at most `k` digits is as long as its width, or `k`. -/
theorem length_printfD_le {k : Nat} (hk : 0 < k) (h : n.natAbs < 10 ^ k) :
    (printfD w n).length ≤ max w k := by
  have hlen := (Nat.length_toDigits_le_iff (by decide) hk).mpr h
  rw [printfD_of_nonneg hn, List.length_append, List.length_replicate]
  omega

end Numbers

theorem snprintf_eq_self {size : Nat} {text : List Char} (h : text.length < size) :
    snprintf size text = text :=
  List.take_of_length_le (by omega)

/-! ## Texts with a stop -/

section Cut

variable {α : Type} [DecidableEq α] (stop : α)

/-- The pieces of a list, cut after each `stop`. -/
def cutAfter : List α → List (List α)
  | [] => []
  | x :: l =>
    if x = stop then [x] :: cutAfter l
    else
      match cutAfter l with
      | [] => [[x]]
      | piece :: pieces => (x :: piece) :: pieces

theorem flatten_cutAfter : ∀ l : List α, (cutAfter stop l).flatten = l
  | [] => rfl
  | x :: l => by
    have ih := flatten_cutAfter l
    unfold cutAfter
    split
    · rw [List.flatten_cons, ih]
      rfl
    · generalize cutAfter stop l = pieces at ih
      subst ih
      cases pieces <;> rfl

/-- A text with its only stop at the end is a piece. -/
theorem cutAfter_append {body : List α} (h : stop ∉ body) (l : List α) :
    cutAfter stop (body ++ stop :: l) = (body ++ [stop]) :: cutAfter stop l := by
  induction body with
  | nil => rw [List.nil_append, cutAfter, if_pos rfl, List.nil_append]
  | cons x body ih =>
    obtain ⟨hx, hb⟩ := not_or.mp (mt List.mem_cons.mpr h)
    rw [List.cons_append, cutAfter, if_neg (Ne.symm hx), ih hb]
    rfl

/-- A stream of such texts falls into them. -/
theorem cutAfter_flatten {texts : List (List α)}
    (h : ∀ t ∈ texts, ∃ body, stop ∉ body ∧ t = body ++ [stop]) :
    cutAfter stop texts.flatten = texts := by
  induction texts with
  | nil => rfl
  | cons t texts ih =>
    obtain ⟨body, hb, rfl⟩ := h t List.mem_cons_self
    rw [List.flatten_cons, List.append_assoc, List.singleton_append, cutAfter_append stop hb,
      ih fun t ht => h t (List.mem_cons_of_mem _ ht)]

omit [DecidableEq α] in
/-- Texts with a stop have as many together. -/
theorem length_le_count_flatten [BEq α] [LawfulBEq α] {texts : List (List α)}
    (h : ∀ t ∈ texts, stop ∈ t) : texts.length ≤ texts.flatten.count stop := by
  induction texts with
  | nil => exact Nat.le_refl 0
  | cons t texts ih =>
    have ht := List.count_pos_iff.mpr (h t List.mem_cons_self)
    have ih := ih fun t ht => h t (List.mem_cons_of_mem _ ht)
    rw [List.length_cons, List.flatten_cons, List.count_append]
    omega

end Cut

end TR
