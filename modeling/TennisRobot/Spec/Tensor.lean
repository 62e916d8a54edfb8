import TennisRobot.Impl.Detect

/-!
# What a tensor stands for

The elements of a tensor are numbers, codes or halves of floats. A code of a quantized
format stands for so many steps of `qscale`, counted from the code of zero: `zeroPoint` in
UINT8, 0 in INT8 and INT16. A BF16 element has a sign, an exponent and a fraction of seven
bits (`bf16Value`). `valueAt` is the number that the element at an index stands for, and
`entry` the one in a batch, a channel and a column.
-/

namespace TR.Spec

open TR.Impl.Detect (Tensor Shape)

/-- The value of a code, in steps of `scale` from the code of zero. -/
def dequantized (scale : Rat) (zero code : Int) : Rat := scale * (code - zero)

/-- The number of a finite BF16 element: its bit 15 is the sign, the eight bits below are the
exponent and the last seven the fraction. -/
def bf16Value (bits : Nat) : Rat :=
  let sign := bits / 2 ^ 15
  let exponent : Nat := bits / 2 ^ 7 % 2 ^ 8
  let fraction : Rat := ((bits % 2 ^ 7 : Nat) : Rat) / 2 ^ 7
  (-1) ^ sign *
    if exponent = 0 then fraction * 2 ^ (-126 : Int)
    else (1 + fraction) * 2 ^ ((exponent : Int) - 127)

/-- What the element at an index stands for, if it is there. The elements of an unsupported
format stand for nothing, and count as zeros. -/
def valueAt (t : Tensor) (i : Nat) : Option Rat :=
  match t.data with
  | .fp32 src => src[i]?
  | .int8 src => src[i]?.map fun x => dequantized t.qscale 0 x.toInt
  | .uint8 src => src[i]?.map fun x => dequantized t.qscale t.zeroPoint x.toNat
  | .bf16 src => src[i]?.map fun x => bf16Value x.src.toNat
  | .int16 src => src[i]?.map fun x => dequantized t.qscale 0 x.toInt
  | .unsupported _ count => if i < count then some 0 else none

/-- The entry of a tensor in batch `b`, channel `c` and column `j`. -/
def entry (t : Tensor) (shape : Shape) (b c j : Nat) : Rat :=
  (valueAt t ((b * shape.channels + c) * shape.numBoxes + j)).getD 0

end TR.Spec
