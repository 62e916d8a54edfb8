import TennisRobot.Spec.Tensor
import Mathlib.Tactic.NormNum
import Mathlib.Tactic.Ring

/-!
# The elements of a tensor

`getDetections` makes floats of the elements of its tensor, by a loop for each format. The
float of a BF16 element is put together from the bits of the element (`toNat_upper`), and so its
sign, its exponent and its fraction are those of the element (`sign_upper`, `exponent_upper`,
`fraction_upper`). In every format the float at an index is what the element there stands for
(`getElem_toFloats`), and there is one for every index below `count` (`length_toFloats`). What
is read at the place of an entry is therefore the entry (`getElem_entry`).
-/

namespace TR.Proof.Detect

open TR.Impl.Detect
open TR.Spec (dequantized bf16Value valueAt entry)

/-! ## BF16 -/

/-- The bits of an element, as the upper half of a float. -/
theorem toNat_upper (n : UInt16) : (n.toUInt32 <<< (16 : UInt32)).toNat = n.toNat * 2 ^ 16 := by
  have hlt := n.toNat_lt
  rw [UInt32.toNat_shiftLeft, UInt16.toNat_toUInt32, Nat.shiftLeft_eq]
  refine Nat.mod_eq_of_lt ?_
  change _ * 2 ^ 16 < _
  omega

section Upper

variable {v : UInt32} {n : Nat} (hn : n < 2 ^ 16) (hv : v.toNat = n * 2 ^ 16)

include hv

theorem exponent_upper : (v >>> 23 &&& 0xff).toNat = n / 2 ^ 7 % 2 ^ 8 := by
  rw [UInt32.toNat_and, UInt32.toNat_shiftRight, hv, Nat.shiftRight_eq_div_pow]
  change n * 2 ^ 16 / 2 ^ 23 &&& 2 ^ 8 - 1 = _
  rw [Nat.and_two_pow_sub_one_eq_mod]
  omega

theorem fraction_upper : (v &&& 0x7fffff).toNat = n % 2 ^ 7 * 2 ^ 16 := by
  rw [UInt32.toNat_and, hv]
  change n * 2 ^ 16 &&& 2 ^ 23 - 1 = _
  rw [Nat.and_two_pow_sub_one_eq_mod]
  omega

include hn

theorem sign_upper : (if v >>> 31 = 1 then -1 else 1 : Rat) = (-1) ^ (n / 2 ^ 15) := by
  have hbit : v >>> 31 = 1 ↔ n / 2 ^ 15 = 1 := by
    rw [← UInt32.toNat_inj, UInt32.toNat_shiftRight, hv, Nat.shiftRight_eq_div_pow]
    change n * 2 ^ 16 / 2 ^ 31 = 1 ↔ _
    omega
  have hcases : n / 2 ^ 15 = 0 ∨ n / 2 ^ 15 = 1 := by omega
  simp only [hbit]
  rcases hcases with h | h <;> rw [h] <;> rfl

end Upper

/-- The float of a BF16 element is its number. -/
theorem toFloat_eq (x : Bf16) : x.toFloat = bf16Value x.src.toNat := by
  have hv := toNat_upper x.src
  unfold Bf16.toFloat floatOfBits bf16Value
  dsimp only
  rw [sign_upper x.src.toNat_lt hv, exponent_upper hv, fraction_upper hv]
  generalize x.src.toNat / 2 ^ 7 % 2 ^ 8 = e
  split_ifs with he
  · push_cast
    norm_num
    ring
  · have hpow : (2 : Rat) ^ ((e : Int) - 127) = 2 ^ e / 2 ^ 127 := by
      rw [zpow_sub₀ (by norm_num), zpow_natCast]
      rfl
    rw [hpow]
    push_cast
    ring

/-! ## Every format -/

/-- The float at an index is what the element there stands for. -/
theorem getElem_toFloats (t : Tensor) (i : Nat) : t.toFloats[i]? = valueAt t i := by
  unfold Tensor.toFloats valueAt
  cases t.data with
  | fp32 src => rfl
  | int8 src | int16 src =>
    rw [List.getElem?_map]
    refine Option.map_congr fun x _ => ?_
    rw [dequantized, Int.cast_zero, sub_zero, mul_comm]
  | uint8 src =>
    rw [List.getElem?_map]
    refine Option.map_congr fun x _ => ?_
    rw [dequantized, Int.cast_sub, mul_comm]
  | bf16 src =>
    rw [List.getElem?_map]
    exact Option.map_congr fun x _ => toFloat_eq x
  | unsupported fmt count => exact List.getElem?_replicate

theorem length_toFloats (t : Tensor) : t.toFloats.length = t.data.count := by
  unfold Tensor.toFloats TensorData.count
  split <;> simp

/-- What is read at the place of an entry is the entry. -/
theorem getElem_entry {t : Tensor} {shape : Shape}
    (hcount : t.data.count = shape.batch * shape.channels * shape.numBoxes) {b c j : Nat}
    (hb : b < shape.batch) (hc : c < shape.channels) (hj : j < shape.numBoxes) :
    t.toFloats[(b * shape.channels + c) * shape.numBoxes + j]? = some (entry t shape b c j) := by
  have hrow : b * shape.channels + c + 1 ≤ shape.batch * shape.channels := by
    have : (b + 1) * shape.channels ≤ shape.batch * shape.channels :=
      Nat.mul_le_mul_right _ hb
    rw [Nat.succ_mul] at this
    omega
  have hlt : (b * shape.channels + c) * shape.numBoxes + j < t.toFloats.length := by
    have : (b * shape.channels + c + 1) * shape.numBoxes ≤ t.data.count :=
      hcount ▸ Nat.mul_le_mul_right _ hrow
    rw [Nat.succ_mul] at this
    rw [length_toFloats]
    omega
  rw [entry, ← getElem_toFloats, List.getElem?_eq_getElem hlt, Option.getD_some]

/-- The entries of an unsupported format are zeros. -/
theorem entry_unsupported {t : Tensor} {fmt : Int} {count : Nat}
    (h : t.data = .unsupported fmt count) (shape : Shape) (b c j : Nat) :
    entry t shape b c j = 0 := by
  unfold entry valueAt
  rw [h]
  dsimp only
  split_ifs <;> rfl

end TR.Proof.Detect
