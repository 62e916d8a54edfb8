/-!
# Checked arithmetic

An `int` has 32 bits, and a value that does not fit is undefined behaviour.
`checked` is the value of an operation where it fits (`checked_eq_some_iff`). A
computation of such operations has a value exactly when each of them has
(`checked_bind_eq_some`).
-/

namespace TR

def INT_MIN : Int := -2147483648
def INT_MAX : Int := 2147483647

/-- A number that an `int` can hold. -/
def FitsInt (n : Int) : Prop := INT_MIN ≤ n ∧ n ≤ INT_MAX

instance : DecidablePred FitsInt := fun _ => inferInstanceAs (Decidable (_ ∧ _))

/-- The value of an operation on `int`s. -/
def checked (n : Int) : Option Int := if FitsInt n then some n else none

/-- The value of an operation on `int`s that are not negative. -/
def checkedNat (n : Nat) : Option Nat := if FitsInt n then some n else none

variable {α : Type} {n m : Int}

theorem checked_eq_some_iff : checked n = some m ↔ FitsInt n ∧ n = m := by
  unfold checked
  split
  · rename_i h
    simp [h]
  · rename_i h
    simp [h]

theorem checked_of_fits (h : FitsInt n) : checked n = some n := if_pos h

theorem checked_bind_eq_some {f : Int → Option α} {a : α} :
    (checked n >>= f) = some a ↔ FitsInt n ∧ f n = some a := by
  unfold checked
  split
  · rename_i h
    simp [h]
  · rename_i h
    simp [h]

theorem checkedNat_of_le {n : Nat} (h : (n : Int) ≤ INT_MAX) : checkedNat n = some n := by
  unfold checkedNat
  rw [if_pos]
  unfold FitsInt INT_MIN
  omega

end TR
