import TennisRobot.Proof.Perception.Letterbox

/-!
# Formats

`open` settles with the camera on MJPEG or YUYV and records the size of its pictures
(`open_succeeded`). A frame arrives in the buffer of `uvc_grab_bgr` as it is
(`getFrameInto_delivered`), but not the format: the decoder goes by the first two bytes,
and by one size (`uvcDecode_jpeg`, `uvcDecode_yuyv`). What it decodes must fit into a
letterbox with something left of both sides (`uvcLetterbox_isSome`). `uvcGrab_iff` says for
which frames the format is found again.
-/

namespace TR.Proof.UvcCapture

open TR.Impl.UvcCapture TR.Impl.Perception TR.Impl.Detect
open TR.Proof.Perception (letterbox_isSome letterboxSide_pos)

/-! ## Opening -/

/-- The format for which `open` asks last. -/
def negotiated (o : OpenOutcome) : PixelFormat := if o.sFmtMjpeg < 0 then .YUYV else .MJPEG

/-- The loop that maps the buffers touches nothing else. -/
theorem mapBuffers_fields (o : OpenOutcome) (n i : Nat) (s : State) :
    (mapBuffers o n i s).1.fd = s.fd ∧ (mapBuffers o n i s).1.width = s.width ∧
      (mapBuffers o n i s).1.height = s.height := by
  induction n generalizing i s with
  | zero => exact ⟨rfl, rfl, rfl⟩
  | succ n ih =>
    unfold mapBuffers
    dsimp only
    split
    · exact ⟨rfl, rfl, rfl⟩
    · cases o.mmap i with
      | none => exact ⟨rfl, rfl, rfl⟩
      | some a => exact ih (i + 1) (s.setBuffer i ⟨.mapped a, (o.length i).toNat⟩)

theorem closeAndFail_ne (s : State) (calls : List SysCall) : (closeAndFail s calls).2.2 ≠ 0 := by
  show (-1 : Int) ≠ 0
  decide

theorem openBuffers_succeeded {s : State} {calls : List SysCall} {o : OpenOutcome}
    (h : (openBuffers s calls o).2.2 = 0) :
    (openBuffers s calls o).1.fd = s.fd ∧ (openBuffers s calls o).1.width = s.width ∧
      (openBuffers s calls o).1.height = s.height := by
  have hfields := mapBuffers_fields o s.bufferCount.toNat 0 s.allocate
  unfold openBuffers at h ⊢
  have hcount : s.allocate.bufferCount = s.bufferCount := rfl
  dsimp only at h ⊢
  rw [hcount] at h ⊢
  split_ifs at h ⊢
  · exact (closeAndFail_ne _ _ h).elim
  · exact (closeAndFail_ne _ _ h).elim
  · exact (closeAndFail_ne _ _ h).elim
  · exact hfields

/-- An `open` that succeeds has a file, and the size that the driver reports. -/
theorem open_succeeded {s : State} {deviceIndex width height : Int} {o : OpenOutcome}
    (h : (open_ s deviceIndex width height o).2.2 = 0) :
    0 ≤ (open_ s deviceIndex width height o).1.fd ∧
      (open_ s deviceIndex width height o).1.width = toInt o.pixWidth ∧
      (open_ s deviceIndex width height o).1.height = toInt o.pixHeight := by
  unfold open_ at h ⊢
  dsimp only at h ⊢
  generalize (if o.sFmtMjpeg < 0 then _ else _) = calls at h ⊢
  by_cases hfd : o.fd.elim (-1) Nat.cast < 0
  · rw [if_pos hfd] at h
    have hret : (-1 : Int) = 0 := h
    exact absurd hret (by decide)
  rw [if_neg hfd] at h ⊢
  split_ifs at h ⊢
  · exact (closeAndFail_ne _ _ h).elim
  · exact (closeAndFail_ne _ _ h).elim
  · exact (closeAndFail_ne _ _ h).elim
  · exact (closeAndFail_ne _ _ h).elim
  · obtain ⟨hf, hw, hh⟩ := openBuffers_succeeded h
    exact ⟨hf ▸ Int.not_lt.mp hfd, hw, hh⟩

/-! ## Frames -/

/-- The kernel delivers a frame in one of the buffers. -/
structure Delivers (s : State) (mem : Nat → UInt8) (o : FrameOutcome) (content : List UInt8) :
    Prop where
  select : 0 < o.select
  dqBuf : 0 ≤ o.dqBuf
  bytesused : o.bytesused.toNat = content.length
  mapped : ∃ a length, s.buffers.bind (·[o.index.toNat]?) = some ⟨.mapped a, length⟩ ∧
    content.length ≤ length ∧ (List.range content.length).map (fun k => mem (a + k)) = content

theorem toInt_eq (x : UInt32) : toInt x = (x.toNat : Int).bmod (2 ^ 32) :=
  BitVec.toInt_eq_toNat_bmod x.toBitVec

theorem toInt_of_lt {x : UInt32} (h : x.toNat < 2147483648) : toInt x = x.toNat := by
  rw [toInt_eq, Int.bmod_eq_of_le (by omega) (by omega)]

variable {s : State} {mem : Nat → UInt8} {o : FrameOutcome} {content : List UInt8}

/-- A frame that fits arrives in the caller's buffer. -/
theorem getFrameInto_delivered (hfd : 0 ≤ s.fd) (h : Delivers s mem o content) {buf : List UInt8}
    (hfit : content.length ≤ buf.length) (hbuf : buf.length < 2147483648) (timeoutMs : Int) :
    getFrameInto s mem buf timeoutMs o =
      some (content ++ buf.drop content.length, (content.length : Int)) := by
  obtain ⟨hselect, hdq, hbytes, a, length, hbuffer, -, hmem⟩ := h
  have hsize : toSizeT (toInt o.bytesused) = content.length := by
    rw [toInt_of_lt (by omega), hbytes, toSizeT]
    omega
  have hcopy : (if content.length < buf.length then content.length else buf.length) =
      content.length := by
    split <;> omega
  have hret : (content.length : Int).bmod (2 ^ 32) = content.length :=
    Int.bmod_eq_of_le (by omega) (by omega)
  have hblit : blit buf 0 content 0 content.length =
      some (content ++ buf.drop content.length) := by
    rw [blit, if_pos (by omega), List.drop_zero, List.take_length, paste_zero]
  unfold getFrameInto getFrame
  rw [if_neg (Int.not_lt.mpr hfd), if_neg (Int.not_le.mpr hselect), if_neg (Int.not_lt.mpr hdq)]
  dsimp only
  rw [hsize, hcopy, hbuffer, hret]
  simp only [List.cons_append, List.nil_append, List.foldlM_cons, List.foldlM_nil, copyCall, hmem,
    hblit, Option.bind_eq_bind, Option.bind_some]
  rfl

/-! ## Decoding -/

/-- A text starts like a JPEG. -/
def StartsAsJpeg (content : List UInt8) : Prop := [0xFF, 0xD8] <+: content

instance (content : List UInt8) : Decidable (StartsAsJpeg content) :=
  inferInstanceAs (Decidable (_ <+: _))

theorem startsAsJpeg_iff (rest : List UInt8) : StartsAsJpeg content ↔
    (content.length : Int) ≥ 2 ∧ (content ++ rest)[0]? = some 0xFF ∧
      (content ++ rest)[1]? = some 0xD8 := by
  match content with
  | [] => simp [StartsAsJpeg]
  | [_] => simp [StartsAsJpeg]
  | a :: b :: more =>
    have hlen : 2 ≤ (more.length : Int) + 1 + 1 := by omega
    simp [StartsAsJpeg, hlen, eq_comm]

section Decode

variable {imdecode : List UInt8 → Option PictureSize} (rest : List UInt8)

theorem uvcDecode_jpeg (h : StartsAsJpeg content) :
    uvcDecode imdecode (content ++ rest) content.length =
      (imdecode content).map fun size => ⟨.MJPEG, size.cols, size.rows⟩ := by
  have hstart := (startsAsJpeg_iff rest).mp h
  rw [uvcDecode, if_neg (by omega), if_pos hstart, Int.toNat_natCast, List.take_left]

theorem uvcDecode_yuyv (h : ¬StartsAsJpeg content) :
    uvcDecode imdecode (content ++ rest) content.length =
      if content.length = 614400 then some ⟨.YUYV, 640, 480⟩ else none := by
  rw [startsAsJpeg_iff rest] at h
  unfold uvcDecode UVC_CAP_WIDTH UVC_CAP_HEIGHT
  by_cases hn : (content.length : Int) ≤ 0
  · rw [if_pos hn, if_neg (by omega)]
  · rw [if_neg hn, if_neg h]
    by_cases hsize : content.length = 614400
    · rw [if_pos (by omega), if_pos hsize]
    · rw [if_neg (by omega), if_neg hsize]

end Decode

/-- A picture is put into the frame if something of it is left there. -/
theorem uvcLetterbox_isSome {d : Decoded} (hc : 0 < d.cols) (hc' : d.cols < 2 ^ 31)
    (hr : 0 < d.rows) (hr' : d.rows < 2 ^ 31) : (uvcLetterbox d).isSome ↔
      0 < letterboxSide d.cols (letterboxScale d.cols d.rows FRAME_WIDTH FRAME_HEIGHT) ∧
        0 < letterboxSide d.rows (letterboxScale d.cols d.rows FRAME_WIDTH FRAME_HEIGHT) := by
  unfold uvcLetterbox FRAME_WIDTH FRAME_HEIGHT
  split_ifs with hsize
  · exact letterbox_isSome hc hc' hr hr'
  · rw [not_or, not_not, not_not] at hsize
    exact iff_of_true rfl (letterboxSide_pos hc hc' hr hr' (by omega) (by omega))

/-! ## A camera without MJPEG -/

/-- The driver refuses MJPEG, and has two buffers for pictures of a size. -/
def yuyvCamera (pixWidth pixHeight : UInt32) : OpenOutcome where
  fd := some 3
  queryCap := 0
  sFmtMjpeg := -1
  sFmtYuyv := 0
  gFmt := 0
  pixWidth := pixWidth
  pixHeight := pixHeight
  reqBufs := 0
  count := 2
  queryBuf := fun _ => 0
  length := fun _ => 614400
  mmap := fun i => some (1048576 * (i + 1))
  qBuf := fun _ => 0
  streamOn := 0

/-- The object that such a camera leaves. -/
def yuyvState (width height : Int) : State where
  fd := 3
  buffers := some [⟨.mapped 1048576, 614400⟩, ⟨.mapped 2097152, 614400⟩]
  bufferCount := 2
  width := width
  height := height

/-- A frame stands in the first buffer. -/
def frameAt (content : List UInt8) (k : Nat) : UInt8 := content.getD (k - 1048576) 0

/-- The kernel hands out the first buffer. -/
def firstBuffer (bytesused : UInt32) : FrameOutcome := ⟨1, 0, 0, bytesused, 0⟩

theorem delivers_frameAt {width height : Int} {content : List UInt8} {bytesused : UInt32}
    (hb : bytesused.toNat = content.length) (hlen : content.length ≤ 614400) :
    Delivers (yuyvState width height) (frameAt content) (firstBuffer bytesused) content := by
  refine ⟨Int.one_pos, Int.le_refl 0, hb, 1048576, 614400, rfl, hlen, ?_⟩
  refine List.ext_getElem (by simp) fun i _ hi => ?_
  simp [frameAt, hi]

/-- A frame of 640 times 480 pixels whose first two bytes are given. -/
def pixels (a b : UInt8) : List UInt8 := a :: b :: List.replicate 614398 0x80

theorem length_pixels (a b : UInt8) : (pixels a b).length = 614400 := by
  rw [pixels, List.length_cons, List.length_cons, List.length_replicate]

theorem open_yuyvCamera (pixWidth pixHeight : UInt32) :
    ∃ calls, open_ initial 0 640 480 (yuyvCamera pixWidth pixHeight) =
      (yuyvState (toInt pixWidth) (toInt pixHeight), calls, 0) :=
  ⟨_, rfl⟩

/-! ## The format found again -/

/-- A complete frame: a JPEG from which a picture of that size is decoded, or two bytes for
each pixel. -/
def Complete (imdecode : List UInt8 → Option PictureSize) (format : PixelFormat)
    (pixWidth pixHeight : UInt32) (content : List UInt8) : Prop :=
  match format with
  | .MJPEG => StartsAsJpeg content ∧ ∃ size, imdecode content = some size ∧
    size.cols = toInt pixWidth ∧ size.rows = toInt pixHeight
  | .YUYV => content.length = 2 * (pixWidth.toNat * pixHeight.toNat)

theorem toInt_lt (x : UInt32) : toInt x < 2 ^ 31 := by
  have hx := x.toNat_lt
  rw [toInt_eq, Int.bmod_def]
  split <;> omega

theorem toNat_of_toInt {x : UInt32} {n : Nat} (hn : n < 2147483648) (h : toInt x = n) :
    x.toNat = n := by
  have hx := x.toNat_lt
  rw [toInt_eq, Int.bmod_def] at h
  split at h <;> omega

/-- With the buffer of `uvc_grab_bgr`, a frame is decoded from its bytes, and put into the
frame of the loop. -/
theorem uvcGrab_delivered {imdecode : List UInt8 → Option PictureSize} (held : Nat → UInt8)
    (hfd : 0 ≤ s.fd) (h : Delivers s mem o content) (hfit : content.length ≤ uvcBufSize) :
    ∃ rest, uvcGrab imdecode s mem held o =
      (uvcDecode imdecode (content ++ rest) content.length).elim (some none) fun decoded =>
        (uvcLetterbox decoded).map fun lb => some (decoded, lb) := by
  have hlen : ((List.range uvcBufSize).map held).length = uvcBufSize := by simp
  refine ⟨((List.range uvcBufSize).map held).drop content.length, ?_⟩
  rw [uvcGrab, getFrameInto_delivered hfd h (by rwa [hlen]) (by rw [hlen]; decide)]
  dsimp only [Option.bind_eq_bind, Option.bind_some]
  cases uvcDecode imdecode _ (content.length : Int) with
  | none => rfl
  | some decoded =>
    show (uvcLetterbox decoded).bind _ = (uvcLetterbox decoded).map _
    cases uvcLetterbox decoded <;> rfl

/-- What is decoded is grabbed if it can be put into the frame. -/
theorem grabbed_iff {decode : Option Decoded} {d : Decoded} :
    (∃ lb, (decode.elim (some none) fun decoded =>
        (uvcLetterbox decoded).map fun lb => some (decoded, lb)) = some (some (d, lb))) ↔
      decode = some d ∧ (uvcLetterbox d).isSome := by
  cases decode with
  | none => simp
  | some decoded =>
    refine ⟨fun ⟨lb, h⟩ => ?_, fun ⟨h, hlb⟩ => ?_⟩
    · obtain ⟨lb', hlb, heq⟩ := Option.map_eq_some_iff.mp h
      obtain ⟨rfl, rfl⟩ := Prod.mk.inj (Option.some.inj heq)
      exact ⟨rfl, Option.isSome_iff_exists.mpr ⟨lb', hlb⟩⟩
    · obtain rfl := Option.some.inj h
      obtain ⟨lb, hlb⟩ := Option.isSome_iff_exists.mp hlb
      exact ⟨lb, Option.map_eq_some_iff.mpr ⟨lb, hlb, rfl⟩⟩

/-- A frame of the format and the size that the driver has settled on is decoded as such
exactly where it is a JPEG of whose sides something is left in the letterbox, or of the one
size that is built in and does not start like a JPEG. `open` does not look at the format that
is read back: it is any of the two here, the one for which `open` asks last (`negotiated`) as
well. -/
theorem uvcGrab_iff (imdecode : List UInt8 → Option PictureSize) (s : State)
    (deviceIndex width height : Int) (oo : OpenOutcome) {cam : State} {calls : List SysCall}
    (hopen : open_ s deviceIndex width height oo = (cam, calls, 0)) (mem held : Nat → UInt8)
    (o : FrameOutcome) {format : PixelFormat} {content : List UInt8}
    (hcomplete : Complete imdecode format oo.pixWidth oo.pixHeight content)
    (hfit : content.length ≤ uvcBufSize) (hdelivers : Delivers cam mem o content) :
    (∃ lb, uvcGrab imdecode cam mem held o =
        some (some (⟨format, cam.width, cam.height⟩, lb))) ↔
      (format = .MJPEG ∧
        0 < letterboxSide cam.width
          (letterboxScale cam.width cam.height FRAME_WIDTH FRAME_HEIGHT) ∧
        0 < letterboxSide cam.height
          (letterboxScale cam.width cam.height FRAME_WIDTH FRAME_HEIGHT)) ∨
      cam.width = 640 ∧ cam.height = 480 ∧ ¬StartsAsJpeg content := by
  have hok : (open_ s deviceIndex width height oo).2.2 = 0 := by rw [hopen]
  obtain ⟨hfd, hw, hh⟩ := open_succeeded hok
  rw [hopen] at hfd hw hh
  obtain ⟨rest, hgrab⟩ := uvcGrab_delivered held hfd hdelivers hfit
  rw [hgrab, grabbed_iff]
  cases format with
  | MJPEG =>
    obtain ⟨hjpeg, size, hsize, hcols, hrows⟩ := hcomplete
    rw [uvcDecode_jpeg rest hjpeg, hsize, Option.map_some, hcols, hrows, ← hw, ← hh]
    have hlt := toInt_lt oo.pixWidth
    have hlt' := toInt_lt oo.pixHeight
    rw [uvcLetterbox_isSome (hw ▸ hcols ▸ size.cols_pos) (hw ▸ hlt) (hh ▸ hrows ▸ size.rows_pos)
      (hh ▸ hlt')]
    simp [hjpeg]
  | YUYV =>
    have hsize : content.length = 2 * (oo.pixWidth.toNat * oo.pixHeight.toNat) := hcomplete
    by_cases hjpeg : StartsAsJpeg content
    · rw [uvcDecode_jpeg rest hjpeg]
      cases imdecode content <;> simp [hjpeg]
    · rw [uvcDecode_yuyv rest hjpeg]
      refine ⟨fun ⟨h, _⟩ => ?_, fun h => ?_⟩
      · split at h
        · obtain ⟨-, hw', hh'⟩ := Decoded.mk.inj (Option.some.inj h)
          exact .inr ⟨hw'.symm, hh'.symm, hjpeg⟩
        · cases h
      · obtain ⟨hw', hh', -⟩ := h.resolve_left fun h => by cases h.1
        have hpw := toNat_of_toInt (n := 640) (by decide) (hw.symm.trans hw')
        have hph := toNat_of_toInt (n := 480) (by decide) (hh.symm.trans hh')
        rw [hpw, hph] at hsize
        rw [if_pos hsize, hw', hh']
        refine ⟨rfl, (uvcLetterbox_isSome (by decide) (by decide) (by decide) (by decide)).mpr ?_⟩
        exact letterboxSide_pos (by decide) (by decide) (by decide) (by decide) (by decide)
          (by decide)

/-- Grey pixels of a camera without MJPEG. -/
theorem uvcGrab_iff_grey :
    (∃ lb, uvcGrab (fun _ => none) (yuyvState 640 480) (frameAt (pixels 0x80 0x80)) (fun _ => 0)
        (firstBuffer 614400) =
          some (some (⟨negotiated (yuyvCamera 640 480), 640, 480⟩, lb))) ↔
      (negotiated (yuyvCamera 640 480) = .MJPEG ∧
        0 < letterboxSide 640 (letterboxScale 640 480 FRAME_WIDTH FRAME_HEIGHT) ∧
        0 < letterboxSide 480 (letterboxScale 640 480 FRAME_WIDTH FRAME_HEIGHT)) ∨
      (640 : Int) = 640 ∧ (480 : Int) = 480 ∧ ¬StartsAsJpeg (pixels 0x80 0x80) := by
  obtain ⟨calls, hopen⟩ := open_yuyvCamera 640 480
  have hlen := length_pixels 0x80 0x80
  exact uvcGrab_iff _ initial 0 640 480 (yuyvCamera 640 480) hopen _ _ _ hlen
    (by rw [hlen]; decide) (delivers_frameAt hlen.symm hlen.le)

/-- A camera whose driver takes MJPEG. -/
def mjpegCamera (pixWidth pixHeight : UInt32) : OpenOutcome :=
  { yuyvCamera pixWidth pixHeight with sFmtMjpeg := 0 }

/-- A picture 640 times as wide as high, and a little more. -/
def strip : PictureSize := ⟨1281, 2, by decide, by decide⟩

/-- A first pixel of two bytes `FF D8`, and the frame is taken for a JPEG; a picture that is
480 pixels wide and 640 high, and it is taken for one of the size that is built in; a JPEG of
which nothing is left in the letterbox, and nothing is returned. -/
theorem uvcGrab_misses :
    ((∃ calls, open_ initial 0 640 480 (yuyvCamera 640 480) = (yuyvState 640 480, calls, 0)) ∧
      Complete (fun _ => none) (negotiated (yuyvCamera 640 480)) 640 480 (pixels 0xFF 0xD8) ∧
      Delivers (yuyvState 640 480) (frameAt (pixels 0xFF 0xD8)) (firstBuffer 614400)
        (pixels 0xFF 0xD8) ∧
      uvcGrab (fun _ => none) (yuyvState 640 480) (frameAt (pixels 0xFF 0xD8)) (fun _ => 0)
        (firstBuffer 614400) = some none) ∧
    ((∃ calls, open_ initial 0 640 480 (yuyvCamera 480 640) = (yuyvState 480 640, calls, 0)) ∧
      Complete (fun _ => none) (negotiated (yuyvCamera 480 640)) 480 640 (pixels 0x80 0x80) ∧
      Delivers (yuyvState 480 640) (frameAt (pixels 0x80 0x80)) (firstBuffer 614400)
        (pixels 0x80 0x80) ∧
      uvcGrab (fun _ => none) (yuyvState 480 640) (frameAt (pixels 0x80 0x80)) (fun _ => 0)
        (firstBuffer 614400) = some (some (⟨.YUYV, 640, 480⟩, ⟨1, 640, 480, 0, 80⟩))) ∧
    (∃ calls, open_ initial 0 640 480 (mjpegCamera 1281 2) = (yuyvState 1281 2, calls, 0)) ∧
      Complete (fun _ => some strip) (negotiated (mjpegCamera 1281 2)) 1281 2 [0xFF, 0xD8] ∧
      Delivers (yuyvState 1281 2) (frameAt [0xFF, 0xD8]) (firstBuffer 2) [0xFF, 0xD8] ∧
      uvcGrab (fun _ => some strip) (yuyvState 1281 2) (frameAt [0xFF, 0xD8]) (fun _ => 0)
        (firstBuffer 2) = none := by
  have hle (a b : UInt8) : (pixels a b).length ≤ 614400 := (length_pixels a b).le
  have hjpeg : StartsAsJpeg (pixels 0xFF 0xD8) := List.prefix_append [0xFF, 0xD8] _
  have hgrey : ¬StartsAsJpeg (pixels 0x80 0x80) := by
    rw [StartsAsJpeg, pixels, List.cons_prefix_cons]
    exact fun h => absurd h.1 (by decide)
  have hd (w h : Int) (a b : UInt8) : Delivers (yuyvState w h) (frameAt (pixels a b))
      (firstBuffer 614400) (pixels a b) := delivers_frameAt (length_pixels a b).symm (hle a b)
  have hfit (a b : UInt8) : (pixels a b).length ≤ uvcBufSize := (hle a b).trans (by decide)
  have hstrip : Delivers (yuyvState 1281 2) (frameAt [0xFF, 0xD8]) (firstBuffer 2) [0xFF, 0xD8] :=
    delivers_frameAt rfl (by decide)
  refine ⟨⟨open_yuyvCamera 640 480, length_pixels _ _, hd _ _ _ _, ?_⟩,
    ⟨open_yuyvCamera 480 640, length_pixels _ _, hd _ _ _ _, ?_⟩,
    ⟨_, rfl⟩, ⟨by decide, strip, rfl, rfl, rfl⟩, hstrip, ?_⟩
  · obtain ⟨rest, hgrab⟩ := uvcGrab_delivered (fun _ => 0) (by decide) (hd 640 480 0xFF 0xD8)
      (hfit _ _)
    rw [hgrab, uvcDecode_jpeg rest hjpeg]
    rfl
  · obtain ⟨rest, hgrab⟩ := uvcGrab_delivered (fun _ => 0) (by decide) (hd 480 640 0x80 0x80)
      (hfit _ _)
    have hlb : uvcLetterbox ⟨.YUYV, 640, 480⟩ = some ⟨1, 640, 480, 0, 80⟩ := by decide +kernel
    rw [hgrab, uvcDecode_yuyv rest hgrey, if_pos (length_pixels _ _), Option.elim_some, hlb]
    rfl
  · obtain ⟨rest, hgrab⟩ := uvcGrab_delivered (fun _ => 0) (by decide) hstrip (by decide)
    have hlb : uvcLetterbox ⟨.MJPEG, 1281, 2⟩ = none := by decide +kernel
    rw [hgrab, uvcDecode_jpeg rest (by decide), Option.map_some, Option.elim_some]
    exact congrArg (Option.map _) hlb

end TR.Proof.UvcCapture
