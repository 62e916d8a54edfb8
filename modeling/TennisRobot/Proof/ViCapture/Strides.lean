import TennisRobot.Framework.Checked
import TennisRobot.Impl.ViCapture

/-!
# Strides

The rows of a mapped picture are a stride apart, those of the copies are not. Each copy
of a plane comes to `rows` of it, whichever way it is made (`copyYFast_eq`,
`copyUvFast_eq`, `copyPlanesFast_eq`, `copyBgrFast_eq`), so the pictures hold the planes
(`nv21Copy_eq`, `yuvContinuous_eq`, `bgrCopy_eq`). All of it holds for any `int` that
has a value for what it is asked (`largest`): for integers, and for 32 bits as
long as the largest product fits.
-/

namespace TR.Proof.ViCapture

open TR.Impl.ViCapture

/-- The bytes that are mapped for an NV21 picture. -/
def imageSize (f : VFrame) : Nat := f.strideY * f.height + f.strideUv * f.height / 2

/-- The largest number that is computed for an NV21 picture. -/
def largest (f : VFrame) : Nat :=
  max (max (f.strideY * f.height) (f.strideUv * f.height))
    (max (f.width * f.height * 3) (f.height * 3))

/-- The planes of an NV21 picture, row by row. -/
def yPlane (f : VFrame) (phys : Nat → UInt8) : List UInt8 :=
  rows (mmapped phys (imageSize f)) 0 f.strideY f.width f.height

def uvPlane (f : VFrame) (phys : Nat → UInt8) : List UInt8 :=
  rows (mmapped phys (imageSize f)) (f.strideY * f.height) f.strideUv f.width (f.height / 2)

theorem length_mmapped (phys : Nat → UInt8) (n : Nat) : (mmapped phys n).length = n := by
  simp [mmapped]

theorem getElem?_mmapped (phys : Nat → UInt8) {n k : Nat} (hk : k < n) :
    (mmapped phys n)[k]? = some (phys k) := by
  simp [mmapped, hk]

/-- A byte of rows that are mapped. -/
theorem getElem?_plane {phys : Nat → UInt8} {size s step width n : Nat}
    (h : ∀ i < n, s + i * step + width ≤ (mmapped phys size).length) {r c : Nat} (hr : r < n)
    (hc : c < width) : s + r * step + c < size ∧
      (rows (mmapped phys size) s step width n)[r * width + c]? =
        some (phys (s + r * step + c)) := by
  have hrow := h r hr
  rw [length_mmapped] at hrow
  have hlt : s + r * step + c < size := by omega
  exact ⟨hlt, by rw [getElem?_rows h hr hc, getElem?_mmapped phys hlt]⟩

/-- A picture of the same size with other contents. -/
theorem withData_eq_some (m : Mat) (data : List UInt8) (h : data.length = m.data.length) :
    ∃ m', m.withData data = some m' ∧ m'.rows = m.rows ∧ m'.cols = m.cols ∧ m'.type = m.type ∧
      m'.data = data := by
  rw [Mat.withData, dif_pos h]
  exact ⟨_, rfl, rfl, rfl, rfl, rfl⟩

theorem le_largest (f : VFrame) : f.strideY * f.height ≤ largest f ∧
    f.strideUv * f.height ≤ largest f ∧ f.width * f.height * 3 ≤ largest f ∧
    f.height * 3 ≤ largest f := by
  unfold largest
  omega

/-! ## NV21 -/

section NV21

variable {f : VFrame} (heven : f.height % 2 = 0) (hy : f.width ≤ f.strideY)
  (huv : f.width ≤ f.strideUv) {phys : Nat → UInt8} {data : List UInt8}
  {int : Nat → Option Nat} (hint : ∀ n ≤ largest f, int n = some n)

section Sizes

include heven

/-- The half of a plane, where the number of rows is even. -/
theorem half_plane (n : Nat) : n * f.height / 2 = f.height / 2 * n := by
  obtain ⟨k, hk⟩ := Nat.dvd_of_mod_eq_zero heven
  rw [hk, Nat.mul_div_cancel_left k (by decide), Nat.mul_left_comm,
    Nat.mul_div_cancel_left _ (by decide), Nat.mul_comm]

/-- The bytes of an NV21 picture: those of a plane, and half as many. -/
theorem bytes_eq : f.height * 3 / 2 * f.width = f.height * f.width + f.height / 2 * f.width := by
  rw [← Nat.add_mul]
  congr 1
  omega

end Sizes

section Bounds

include hy

/-- The rows of the first plane are mapped. -/
theorem yRow_mapped (phys : Nat → UInt8) : ∀ i < f.height,
    0 + i * f.strideY + f.width ≤ (mmapped phys (imageSize f)).length := by
  rw [length_mmapped, imageSize, Nat.mul_comm f.strideY]
  exact rows_fit hy (by omega)

theorem length_yPlane (phys : Nat → UInt8) : (yPlane f phys).length = f.height * f.width :=
  length_rows (yRow_mapped hy phys)

include hint

theorem int_yRow : ∀ i < f.height,
    int (i * f.width) = some (i * f.width) ∧ int (i * f.strideY) = some (i * f.strideY) := by
  have hle := (le_largest f).1
  rw [Nat.mul_comm f.strideY] at hle
  exact int_rows hint hy hle

theorem copyYRows_eq (hdata : f.height * f.width ≤ data.length) :
    copyYRows int f (mmapped phys (imageSize f)) data = some (paste data 0 (yPlane f phys)) :=
  copyRows_eq_some (int_yRow hy hint) (yRow_mapped hy phys) (by omega)

end Bounds

section BoundsUv

include heven huv

/-- The rows of the second plane are mapped. -/
theorem uvRow_mapped (phys : Nat → UInt8) : ∀ i < f.height / 2,
    f.strideY * f.height + i * f.strideUv + f.width ≤ (mmapped phys (imageSize f)).length := by
  rw [length_mmapped, imageSize, half_plane heven]
  exact rows_fit huv le_rfl

theorem length_uvPlane (phys : Nat → UInt8) : (uvPlane f phys).length = f.height / 2 * f.width :=
  length_rows (uvRow_mapped heven huv phys)

include hint

theorem int_uvRow : ∀ i < f.height / 2,
    int (i * f.width) = some (i * f.width) ∧ int (i * f.strideUv) = some (i * f.strideUv) := by
  have hle := (le_largest f).2.1
  have hhalf := half_plane heven f.strideUv
  exact int_rows hint huv (by omega)

theorem copyUvRows_eq (hdata : f.height * f.width + f.height / 2 * f.width ≤ data.length) :
    copyUvRows int f (f.strideY * f.height) (mmapped phys (imageSize f)) data =
      some (paste data (f.height * f.width) (uvPlane f phys)) := by
  have hle := (le_largest f).2.2.1
  rw [copyUvRows, hint (f.width * f.height) (by omega), Nat.mul_comm f.width]
  exact copyRows_eq_some (int_uvRow heven huv hint) (uvRow_mapped heven huv phys) hdata

end BoundsUv

/-! ### One copy for many -/

section Fast

include hint

/-- Where rows follow upon each other, one copy of a plane is as good. -/
theorem copyYFast_eq (hw : f.strideY = f.width) (hdata : f.height * f.width ≤ data.length) :
    copyYFast int f (mmapped phys (imageSize f)) data =
      copyYRows int f (mmapped phys (imageSize f)) data := by
  have hle := (le_largest f).2.2.1
  have hmapped : 0 + f.height * f.width ≤ (mmapped phys (imageSize f)).length := by
    rw [length_mmapped, imageSize, hw, Nat.mul_comm f.width]
    omega
  rw [copyYFast, hint (f.width * f.height) (by omega), copyYRows, hw,
    copyRows_contiguous (fun i hi => (int_yRow hw.ge hint i hi).1) hmapped (by omega),
    Nat.mul_comm f.width]
  rfl

include heven

theorem copyUvFast_eq (hw : f.strideUv = f.width)
    (hdata : f.height * f.width + f.height / 2 * f.width ≤ data.length) :
    copyUvFast int f (f.strideY * f.height) (mmapped phys (imageSize f)) data =
      copyUvRows int f (f.strideY * f.height) (mmapped phys (imageSize f)) data := by
  have hle := (le_largest f).2.2.1
  have hmapped : f.strideY * f.height + f.height / 2 * f.width ≤
      (mmapped phys (imageSize f)).length := by
    rw [length_mmapped, imageSize, half_plane heven, hw]
  rw [copyUvFast, copyUvRows, hint (f.width * f.height) (by omega), hw]
  simp only [Option.bind_eq_bind, Option.bind_some]
  rw [copyRows_contiguous (fun i hi => (int_uvRow heven hw.ge hint i hi).1) hmapped
    (by rwa [Nat.mul_comm f.width]), half_plane heven]

end Fast

section Planes

include heven hy huv hint

/-- Row by row, a picture gets the planes. -/
theorem copyPlanesRows_eq (hdata : f.height * f.width + f.height / 2 * f.width ≤ data.length) :
    copyPlanesRows int f (f.strideY * f.height) (mmapped phys (imageSize f)) data =
      some (paste data 0 (yPlane f phys ++ uvPlane f phys)) := by
  have hlen := length_yPlane hy phys
  have hfit : 0 + (yPlane f phys).length ≤ data.length := by omega
  rw [copyPlanesRows, copyYRows_eq hy hint (by omega)]
  simp only [Option.bind_eq_bind, Option.bind_some]
  rw [copyUvRows_eq heven huv hint (by rw [length_paste hfit]; exact hdata), ← paste_paste hfit,
    hlen, Nat.zero_add]

omit hy huv in
/-- Where no rows of either plane are apart, one copy gets both. -/
theorem copyPlanesFast_eq (hw : f.strideY = f.width) (hw' : f.strideUv = f.width)
    (hdata : f.height * f.width + f.height / 2 * f.width ≤ data.length) :
    copyPlanesFast int f (mmapped phys (imageSize f)) data =
      copyPlanesRows int f (f.strideY * f.height) (mmapped phys (imageSize f)) data := by
  have hle := (le_largest f).2.2.1
  -- The number of bytes copied.
  have hbytes : f.width * f.height * 3 / 2 = f.height * f.width + f.height / 2 * f.width := by
    have hhalf := half_plane heven f.width
    have htwo : f.width * f.height = 2 * (f.width * f.height / 2) := by
      rw [hhalf, ← Nat.mul_assoc, Nat.mul_div_cancel' (Nat.dvd_of_mod_eq_zero heven), Nat.mul_comm]
    rw [Nat.mul_comm f.height f.width, ← hhalf]
    omega
  have hsize : imageSize f = f.height * f.width + f.height / 2 * f.width := by
    rw [imageSize, half_plane heven, hw, hw', Nat.mul_comm f.width]
  have hplanes : yPlane f phys ++ uvPlane f phys =
      ((mmapped phys (imageSize f)).drop 0).take (f.height * f.width + f.height / 2 * f.width) := by
    rw [yPlane, uvPlane, hw, hw', rows_contiguous, rows_contiguous, List.take_add, List.drop_drop,
      Nat.zero_add, Nat.mul_comm f.width]
  rw [copyPlanesRows_eq heven hw.ge hw'.ge hint hdata, copyPlanesFast,
    hint (f.width * f.height) (by omega)]
  simp only [Option.bind_eq_bind, Option.bind_some]
  rw [hint _ hle]
  simp only [Option.bind_some]
  rw [hbytes, blit, if_pos ⟨by rw [length_mmapped, hsize, Nat.zero_add], by omega⟩, hplanes]

end Planes

/-! ### The pictures -/

section Chosen

include hy hint

/-- Whichever way it is copied, the first plane is. -/
theorem copyY_eq (hdata : f.height * f.width ≤ data.length) :
    copyY int f (mmapped phys (imageSize f)) data = some (paste data 0 (yPlane f phys)) := by
  unfold copyY
  split
  · rw [copyYFast_eq hint ‹_› hdata, copyYRows_eq hy hint hdata]
  · exact copyYRows_eq hy hint hdata

include heven huv

theorem copyPlanes_eq (hdata : f.height * f.width + f.height / 2 * f.width ≤ data.length) :
    copyPlanes int f (f.strideY * f.height) (mmapped phys (imageSize f)) data =
      some (paste data 0 (yPlane f phys ++ uvPlane f phys)) := by
  unfold copyPlanes
  split
  · rename_i hw
    rw [copyPlanesFast_eq heven hint hw.1 hw.2 hdata, copyPlanesRows_eq heven hy huv hint hdata]
  · exact copyPlanesRows_eq heven hy huv hint hdata

omit hy in
theorem copyUv_eq (hdata : f.height * f.width + f.height / 2 * f.width ≤ data.length) :
    copyUv int f (f.strideY * f.height) (mmapped phys (imageSize f)) data =
      some (paste data (f.height * f.width) (uvPlane f phys)) := by
  unfold copyUv
  split
  · rw [copyUvFast_eq heven hint ‹_› hdata, copyUvRows_eq heven huv hint hdata]
  · exact copyUvRows_eq heven huv hint hdata

end Chosen

/-- `nv21_image` when it is written to. -/
def nv21Reused (f : VFrame) (junk : Nat → UInt8) (m : Mat) : Mat :=
  if m.empty ∨ m.rows ≠ f.height * 3 / 2 ∨ m.cols ≠ f.width then
    Mat.create (f.height * 3 / 2) f.width .cv8UC1 junk
  else m

/-- It has the size of the picture. -/
theorem nv21Reused_size (f : VFrame) (junk : Nat → UInt8) (m : Mat) :
    (nv21Reused f junk m).rows = f.height * 3 / 2 ∧ (nv21Reused f junk m).cols = f.width := by
  unfold nv21Reused
  split
  · exact ⟨rfl, rfl⟩
  · rename_i h
    push Not at h
    exact h.2

theorem bytes_pos (t : MatType) : 0 < t.bytes := by
  cases t with
  | cv8UC1 => decide
  | cv8UC3 => decide
  | other bytes pos => exact pos

section Pictures

include heven

/-- A picture of that size has room for the planes. -/
theorem room_of_size {m : Mat} (hrows : m.rows = f.height * 3 / 2) (hcols : m.cols = f.width) :
    f.height * f.width + f.height / 2 * f.width ≤ m.data.length := by
  rw [m.length_data, hrows, hcols, bytes_eq heven]
  exact Nat.le_mul_of_pos_right _ (bytes_pos m.type)

include hy huv hint

/-- What `getFrameAsNV21` makes of a picture. -/
theorem nv21Copy_eq (junk : Nat → UInt8) (m : Mat) : nv21Copy int f phys junk m =
    (nv21Reused f junk m).withData
      (paste (nv21Reused f junk m).data 0 (yPlane f phys ++ uvPlane f phys)) := by
  obtain ⟨hY, hUv, -, hrows⟩ := le_largest f
  obtain ⟨hr, hc⟩ := nv21Reused_size f junk m
  have hroom := room_of_size heven hr hc
  have hlen := length_yPlane hy phys
  have hfit : 0 + (yPlane f phys).length ≤ (nv21Reused f junk m).data.length := by omega
  have hroom' := hroom
  rw [← length_paste hfit] at hroom'
  rw [nv21Copy, hint _ hY, hint _ hUv, hint _ hrows]
  show (copyY int f (mmapped phys (imageSize f)) (nv21Reused f junk m).data).bind (fun data =>
    (copyUv int f (f.strideY * f.height) (mmapped phys (imageSize f)) data).bind
      fun data => (nv21Reused f junk m).withData data) = _
  rw [copyY_eq hy hint (by omega), Option.bind_some, copyUv_eq heven huv hint hroom',
    Option.bind_some, ← paste_paste hfit, hlen, Nat.zero_add]

/-- What the conversion in `getFrameAsBGR` gets. -/
theorem yuvContinuous_eq (junk : Nat → UInt8) : yuvContinuous int f phys junk =
    (Mat.create (f.height * 3 / 2) f.width .cv8UC1 junk).withData
      (yPlane f phys ++ uvPlane f phys) := by
  obtain ⟨hY, hUv, -, hrows⟩ := le_largest f
  set yuv := Mat.create (f.height * 3 / 2) f.width .cv8UC1 junk with hyuv
  have hroom := room_of_size heven (m := yuv) rfl rfl
  have hlen : yuv.data.length = (yPlane f phys ++ uvPlane f phys).length := by
    rw [yuv.length_data, List.length_append, length_yPlane hy phys, length_uvPlane heven huv phys,
      ← bytes_eq heven]
    exact Nat.mul_one _
  rw [yuvContinuous, hint _ hY, hint _ hUv, hint _ hrows]
  show (copyPlanes int f (f.strideY * f.height) (mmapped phys (imageSize f)) yuv.data).bind
    (fun data => yuv.withData data) = _
  rw [copyPlanes_eq heven hy huv hint hroom, Option.bind_some, paste_zero, ← hlen, List.drop_length,
    List.append_nil]

end Pictures

/-! ### Byte by byte -/

/-- A picture holds the planes: each byte stands in the row and column of the source's,
which is mapped. -/
structure HoldsNV21 (f : VFrame) (phys : Nat → UInt8) (m : Mat) : Prop where
  size : m.rows = f.height * 3 / 2 ∧ m.cols = f.width
  luma : ∀ r < f.height, ∀ c < f.width, r * f.strideY + c < imageSize f ∧
    m.data[r * f.width + c]? = some (phys (r * f.strideY + c))
  chroma : ∀ r < f.height / 2, ∀ c < f.width,
    f.strideY * f.height + r * f.strideUv + c < imageSize f ∧
    m.data[(f.height + r) * f.width + c]? =
      some (phys (f.strideY * f.height + r * f.strideUv + c))

include heven hy huv in
theorem holdsNV21 {m : Mat} {l : List UInt8}
    (hsize : m.rows = f.height * 3 / 2 ∧ m.cols = f.width)
    (hdata : m.data = yPlane f phys ++ uvPlane f phys ++ l) : HoldsNV21 f phys m := by
  have hlenY := length_yPlane hy phys
  have hlenUv := length_uvPlane heven huv phys
  refine ⟨hsize, fun r hr c hc => ?_, fun r hr c hc => ?_⟩
  · obtain ⟨hlt, hbyte⟩ := getElem?_plane (yRow_mapped hy phys) hr hc
    rw [Nat.zero_add] at hlt hbyte
    have hplace := row_end_le hr (Nat.le_refl f.width)
    refine ⟨hlt, ?_⟩
    rw [hdata, List.append_assoc, List.getElem?_append_left (by omega)]
    exact hbyte
  · obtain ⟨hlt, hbyte⟩ := getElem?_plane (uvRow_mapped heven huv phys) hr hc
    have hplace := row_end_le hr (Nat.le_refl f.width)
    refine ⟨hlt, ?_⟩
    rw [hdata, Nat.add_mul, List.append_assoc, List.getElem?_append_right (by omega),
      List.getElem?_append_left (by omega), hlenY,
      show f.height * f.width + r * f.width + c - f.height * f.width = r * f.width + c by omega]
    exact hbyte

end NV21

/-! ## BGR -/

section BGR

variable {f : VFrame} (hy : f.width * 3 ≤ f.strideY) {phys : Nat → UInt8} {data : List UInt8}
  {int : Nat → Option Nat} (hint : ∀ n ≤ max f.strideY (f.strideY * f.height), int n = some n)

/-- The rows of a BGR picture. -/
def bgrPlane (f : VFrame) (phys : Nat → UInt8) : List UInt8 :=
  rows (mmapped phys (f.strideY * f.height)) 0 f.strideY (f.width * 3) f.height

section Bounds

include hy

theorem bgrRow_mapped (phys : Nat → UInt8) : ∀ i < f.height,
    0 + i * f.strideY + f.width * 3 ≤ (mmapped phys (f.strideY * f.height)).length := by
  rw [length_mmapped, Nat.mul_comm f.strideY]
  exact rows_fit hy (by omega)

theorem length_bgrPlane (phys : Nat → UInt8) :
    (bgrPlane f phys).length = f.height * (f.width * 3) :=
  length_rows (bgrRow_mapped hy phys)

include hint

theorem int_bgrRow : ∀ i < f.height,
    int (i * (f.width * 3)) = some (i * (f.width * 3)) ∧
      int (i * f.strideY) = some (i * f.strideY) := by
  rw [Nat.mul_comm f.strideY] at hint
  exact int_rows hint hy (le_max_right ..)

theorem copyBgrRows_eq (hdata : f.height * (f.width * 3) ≤ data.length) :
    copyBgrRows int f (mmapped phys (f.strideY * f.height)) data =
      some (paste data 0 (bgrPlane f phys)) := by
  rw [copyBgrRows, hint (f.width * 3) (by omega)]
  exact copyRows_eq_some (int_bgrRow hy hint) (bgrRow_mapped hy phys) (by omega)

omit hy in
/-- Where rows follow upon each other, one copy is as good. -/
theorem copyBgrFast_eq (hw : f.strideY = f.width * 3)
    (hdata : f.height * (f.width * 3) ≤ data.length) :
    copyBgrFast (f.strideY * f.height) (mmapped phys (f.strideY * f.height)) data =
      copyBgrRows int f (mmapped phys (f.strideY * f.height)) data := by
  have hsize : f.strideY * f.height = f.height * (f.width * 3) := by rw [hw, Nat.mul_comm]
  rw [copyBgrRows_eq hw.ge hint hdata, bgrPlane, copyBgrFast, blit,
    if_pos ⟨by rw [length_mmapped, Nat.zero_add], by omega⟩, hsize, hw, rows_contiguous]

/-- What the BGR_888 path of `getFrameAsBGR` makes of a picture. -/
theorem copyBgr_eq (hdata : f.height * (f.width * 3) ≤ data.length) :
    copyBgr int f (f.strideY * f.height) (mmapped phys (f.strideY * f.height)) data =
      some (paste data 0 (bgrPlane f phys)) := by
  rw [copyBgr, hint (f.width * 3) (by omega)]
  simp only [Option.bind_eq_bind, Option.bind_some]
  split
  · rw [copyBgrFast_eq hint ‹_› hdata, copyBgrRows_eq hy hint hdata]
  · exact copyBgrRows_eq hy hint hdata

end Bounds

/-- `bgr_image` when it is written to. -/
def bgrReused (f : VFrame) (junk : Nat → UInt8) (m : Mat) : Mat :=
  if m.empty ∨ m.rows ≠ f.height ∨ m.cols ≠ f.width ∨ m.type ≠ .cv8UC3 then
    Mat.create f.height f.width .cv8UC3 junk
  else m

theorem bgrReused_size (f : VFrame) (junk : Nat → UInt8) (m : Mat) :
    (bgrReused f junk m).rows = f.height ∧ (bgrReused f junk m).cols = f.width ∧
      (bgrReused f junk m).type = .cv8UC3 := by
  unfold bgrReused
  split
  · exact ⟨rfl, rfl, rfl⟩
  · rename_i h
    push Not at h
    exact h.2

/-- A picture holds the plane: each byte stands in the row and column of the source's,
which is mapped. -/
structure HoldsBGR (f : VFrame) (phys : Nat → UInt8) (m : Mat) : Prop where
  size : m.rows = f.height ∧ m.cols = f.width ∧ m.type = .cv8UC3
  bytes : ∀ r < f.height, ∀ c < f.width * 3, r * f.strideY + c < f.strideY * f.height ∧
    m.data[r * (f.width * 3) + c]? = some (phys (r * f.strideY + c))

include hy hint

theorem bgrCopy_eq (junk : Nat → UInt8) (m : Mat) : bgrCopy int f phys junk m =
    (bgrReused f junk m).withData (bgrPlane f phys) := by
  obtain ⟨hr, hc, ht⟩ := bgrReused_size f junk m
  have hlen : (bgrReused f junk m).data.length = (bgrPlane f phys).length := by
    rw [(bgrReused f junk m).length_data, hr, hc, ht, length_bgrPlane hy phys, Nat.mul_assoc]
    rfl
  rw [bgrCopy, hint (f.strideY * f.height) (by omega)]
  show (copyBgr int f (f.strideY * f.height) (mmapped phys (f.strideY * f.height))
    (bgrReused f junk m).data).bind (fun data => (bgrReused f junk m).withData data) = _
  rw [copyBgr_eq hy hint (by rw [hlen, length_bgrPlane hy phys]), Option.bind_some, paste_zero,
    ← hlen, List.drop_length, List.append_nil]

omit hint in
theorem holdsBGR {m : Mat} (hsize : m.rows = f.height ∧ m.cols = f.width ∧ m.type = .cv8UC3)
    (hdata : m.data = bgrPlane f phys) : HoldsBGR f phys m := by
  refine ⟨hsize, fun r hr c hc => ?_⟩
  have hbyte := getElem?_plane (bgrRow_mapped hy phys) hr hc
  rw [Nat.zero_add] at hbyte
  rw [hdata]
  exact hbyte

end BGR

/-! ## What is mapped -/

/-- The frame as a call of the machine reads it. -/
def resized (f : VFrame) (bgr888 : Bool) : ResizedFrame := ⟨f.height, f.strideY, f.strideUv, bgr888⟩

theorem size_of_mem_copyMapped {calls : List CviCall} {virAddr a : Nat} {size imageSize : Int}
    (hcalls : .mmapCache a size ∉ calls)
    (h : .mmapCache a size ∈ (copyMapped calls virAddr imageSize).1) : size = imageSize := by
  have hmem : CviCall.mmapCache a size ∈ calls ++ [.mmapCache virAddr imageSize] := by
    unfold copyMapped at h
    dsimp only at h
    split at h
    · exact h
    · exact (List.mem_append.mp h).resolve_right (by simp)
  have hlast := List.mem_singleton.mp ((List.mem_append.mp hmem).resolve_left hcalls)
  exact (CviCall.mmapCache.inj hlast).2

/-- An NV21 picture is mapped whole, in both functions. -/
theorem mmapCache_nv21 {f : VFrame} {vpssInited : Bool} {o : FrameOutcome} {virAddr : Nat}
    {size : Int} (ho : o.resized = resized f false)
    (h : .mmapCache virAddr size ∈ (getFrameAsNV21 vpssInited o).1 ∨
      .mmapCache virAddr size ∈ (getFrameAsBGR vpssInited o).1) : size = imageSize f := by
  have hsize : (f.strideY : Int) * f.height + ((f.strideUv : Int) * f.height).tdiv 2 =
      imageSize f := by
    have hpos : 0 ≤ (f.strideUv : Int) * f.height :=
      Int.mul_nonneg (Int.natCast_nonneg _) (Int.natCast_nonneg _)
    rw [Int.tdiv_eq_ediv_of_nonneg hpos, imageSize]
    push_cast
    rfl
  rw [← hsize]
  unfold getFrameAsNV21 getFrameAsBGR at h
  rw [ho] at h
  rcases h with h | h <;> simp only [resized, Bool.false_eq_true, if_false] at h <;> split_ifs at h
  all_goals
    first
    | exact size_of_mem_copyMapped (by simp) h
    | simp at h

theorem mmapCache_bgr {f : VFrame} {vpssInited : Bool} {o : FrameOutcome} {virAddr : Nat}
    {size : Int} (ho : o.resized = resized f true)
    (h : .mmapCache virAddr size ∈ (getFrameAsBGR vpssInited o).1) :
    size = (f.strideY * f.height : Nat) := by
  unfold getFrameAsBGR at h
  rw [ho] at h
  dsimp only [resized] at h
  split_ifs at h
  all_goals
    first
    | exact size_of_mem_copyMapped (by simp) h
    | simp at h

/-! ## Together -/

/-- What the copies of an NV21 frame come to. -/
structure NV21Copied (f : VFrame) (phys junk junk' : Nat → UInt8) (m nv21 yuv : Mat) : Prop where
  mapped : ∀ (vpssInited : Bool) (o : FrameOutcome) (virAddr : Nat) (size : Int),
    o.resized = resized f false →
    .mmapCache virAddr size ∈ (getFrameAsNV21 vpssInited o).1 ∨
      .mmapCache virAddr size ∈ (getFrameAsBGR vpssInited o).1 → size = imageSize f
  nv21_eq : nv21Copy some f phys junk m = some nv21
  yuv_eq : yuvContinuous some f phys junk' = some yuv
  holds_nv21 : HoldsNV21 f phys nv21
  holds_yuv : HoldsNV21 f phys yuv
  /-- The buffers are the same; one of another type is longer. -/
  same : yuv.data <+: nv21.data ∧ (nv21.type = .cv8UC1 → nv21.data = yuv.data)
  fastY : f.strideY = f.width → ∀ data : List UInt8, f.height * f.width ≤ data.length →
    copyYFast some f (mmapped phys (imageSize f)) data =
      copyYRows some f (mmapped phys (imageSize f)) data
  fastUv : f.strideUv = f.width → ∀ data : List UInt8,
    f.height * f.width + f.height / 2 * f.width ≤ data.length →
      copyUvFast some f (f.strideY * f.height) (mmapped phys (imageSize f)) data =
        copyUvRows some f (f.strideY * f.height) (mmapped phys (imageSize f)) data
  fastPlanes : f.strideY = f.width → f.strideUv = f.width → ∀ data : List UInt8,
    f.height * f.width + f.height / 2 * f.width ≤ data.length →
      copyPlanesFast some f (mmapped phys (imageSize f)) data =
        copyPlanesRows some f (f.strideY * f.height) (mmapped phys (imageSize f)) data
  /-- In 32 bits the pictures are the same, as long as the largest number fits. -/
  ints : largest f ≤ INT_MAX →
    nv21Copy checkedNat f phys junk m = some nv21 ∧
      yuvContinuous checkedNat f phys junk' = some yuv

/-- What the copy of a BGR frame comes to. -/
structure BGRCopied (f : VFrame) (phys junk : Nat → UInt8) (m bgr : Mat) : Prop where
  mapped : ∀ (vpssInited : Bool) (o : FrameOutcome) (virAddr : Nat) (size : Int),
    o.resized = resized f true →
    .mmapCache virAddr size ∈ (getFrameAsBGR vpssInited o).1 →
      size = (f.strideY * f.height : Nat)
  bgr_eq : bgrCopy some f phys junk m = some bgr
  holds : HoldsBGR f phys bgr
  fast : f.strideY = f.width * 3 → ∀ data : List UInt8, f.height * (f.width * 3) ≤ data.length →
    copyBgrFast (f.strideY * f.height) (mmapped phys (f.strideY * f.height)) data =
      copyBgrRows some f (mmapped phys (f.strideY * f.height)) data
  ints : (max f.strideY (f.strideY * f.height) : Nat) ≤ INT_MAX →
    bgrCopy checkedNat f phys junk m = some bgr

/-- The numbers up to one that fits are computed in 32 bits. -/
theorem checkedNat_le {b : Nat} (h : (b : Int) ≤ INT_MAX) : ∀ n ≤ b, checkedNat n = some n :=
  fun _ hn => checkedNat_of_le (le_trans (Int.ofNat_le.mpr hn) h)

theorem nv21Copied {f : VFrame} (heven : f.height % 2 = 0) (hy : f.width ≤ f.strideY)
    (huv : f.width ≤ f.strideUv) (phys junk junk' : Nat → UInt8) (m : Mat) :
    ∃ nv21 yuv, NV21Copied f phys junk junk' m nv21 yuv := by
  have hsome : ∀ n ≤ largest f, some n = some n := fun _ _ => rfl
  obtain ⟨hr, hc⟩ := nv21Reused_size f junk m
  have hroom := room_of_size heven hr hc
  have hlen : (yPlane f phys ++ uvPlane f phys).length =
      f.height * f.width + f.height / 2 * f.width := by
    rw [List.length_append, length_yPlane hy phys, length_uvPlane heven huv phys]
  obtain ⟨nv21, hnv21, hr1, hc1, ht1, hd1⟩ := withData_eq_some (nv21Reused f junk m)
    (paste (nv21Reused f junk m).data 0 (yPlane f phys ++ uvPlane f phys))
    (length_paste (by omega))
  obtain ⟨yuv, hyuv, hr2, hc2, -, hd2⟩ := withData_eq_some
    (Mat.create (f.height * 3 / 2) f.width .cv8UC1 junk') (yPlane f phys ++ uvPlane f phys)
    (by rw [Mat.length_data, hlen, ← bytes_eq heven]; exact (Nat.mul_one _).symm)
  rw [paste_zero] at hd1
  refine ⟨nv21, yuv, fun _ _ _ _ => mmapCache_nv21, ?_, ?_, ?_, ?_, ?_, ?_, ?_, ?_, ?_⟩
  · rw [nv21Copy_eq heven hy huv hsome, hnv21]
  · rw [yuvContinuous_eq heven hy huv hsome, hyuv]
  · exact holdsNV21 heven hy huv ⟨hr1.trans hr, hc1.trans hc⟩ hd1
  · exact holdsNV21 heven hy huv ⟨hr2, hc2⟩ (hd2.trans (List.append_nil _).symm)
  · rw [hd1, hd2]
    refine ⟨List.prefix_append _ _, fun ht => ?_⟩
    have hfull : (nv21Reused f junk m).data.length =
        (yPlane f phys ++ uvPlane f phys).length := by
      rw [Mat.length_data, hr, hc, ← ht1, ht, hlen, ← bytes_eq heven]
      exact Nat.mul_one _
    rw [← hfull, List.drop_length, List.append_nil]
  · exact fun hw data hdata => copyYFast_eq hsome hw hdata
  · exact fun hw data hdata => copyUvFast_eq heven hsome hw hdata
  · exact fun hw hw' data hdata => copyPlanesFast_eq heven hsome hw hw' hdata
  · intro h
    rw [nv21Copy_eq heven hy huv (checkedNat_le h), hnv21,
      yuvContinuous_eq heven hy huv (checkedNat_le h), hyuv]
    exact ⟨rfl, rfl⟩

theorem bgrCopied {f : VFrame} (hy : f.width * 3 ≤ f.strideY) (phys junk : Nat → UInt8) (m : Mat) :
    ∃ bgr, BGRCopied f phys junk m bgr := by
  have hsome : ∀ n ≤ max f.strideY (f.strideY * f.height), some n = some n := fun _ _ => rfl
  obtain ⟨hr, hc, ht⟩ := bgrReused_size f junk m
  obtain ⟨bgr, hbgr, hr1, hc1, ht1, hd1⟩ := withData_eq_some (bgrReused f junk m)
    (bgrPlane f phys) (by
      rw [Mat.length_data, hr, hc, ht, length_bgrPlane hy phys, Nat.mul_assoc]
      rfl)
  refine ⟨bgr, fun _ _ _ _ => mmapCache_bgr, ?_, ?_, ?_, ?_⟩
  · rw [bgrCopy_eq hy hsome, hbgr]
  · exact holdsBGR hy ⟨hr1.trans hr, hc1.trans hc, ht1.trans ht⟩ hd1
  · exact fun hw data hdata => copyBgrFast_eq hsome hw hdata
  · intro h
    rw [bgrCopy_eq hy (checkedNat_le h), hbgr]

/-- The pictures hold exactly the bytes of the frame, however its rows are apart and
whichever way they are copied, and nothing outside of it or of them is touched. -/
theorem strides_exact :
    (∀ (f : VFrame) (phys junk junk' : Nat → UInt8) (m : Mat), f.height % 2 = 0 →
      f.width ≤ f.strideY → f.width ≤ f.strideUv →
        ∃ nv21 yuv, NV21Copied f phys junk junk' m nv21 yuv) ∧
    ∀ (f : VFrame) (phys junk : Nat → UInt8) (m : Mat), f.width * 3 ≤ f.strideY →
      ∃ bgr, BGRCopied f phys junk m bgr :=
  ⟨fun _ phys junk junk' m heven hy huv => nv21Copied heven hy huv phys junk junk' m,
    fun _ phys junk m hy => bgrCopied hy phys junk m⟩

/-- A picture of nothing, and frames with gaps behind their rows. -/
theorem strides_exact_padded :
    (∃ nv21 yuv, NV21Copied ⟨4, 2, 6, 8⟩ (·.toUInt8) (fun _ => 0xFF) (fun _ => 0xFE)
      ⟨0, 0, .cv8UC3, [], rfl⟩ nv21 yuv) ∧
    ∃ bgr, BGRCopied ⟨2, 2, 8, 0⟩ (·.toUInt8) (fun _ => 0xFF) ⟨0, 0, .cv8UC3, [], rfl⟩ bgr :=
  ⟨strides_exact.1 _ _ _ _ _ (by decide) (by decide) (by decide),
    strides_exact.2 _ _ _ _ (by decide)⟩

example : (nv21Copy some ⟨4, 2, 6, 8⟩ (·.toUInt8) (fun _ => 0xFF) ⟨0, 0, .cv8UC3, [], rfl⟩).map
    Mat.data = some [0, 1, 2, 3, 6, 7, 8, 9, 12, 13, 14, 15] := by decide

end TR.Proof.ViCapture
