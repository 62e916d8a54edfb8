import TennisRobot.Framework.Loop
import TennisRobot.Proof.Uart.Frame

/-!
# Damaged frames

A frame of which one byte has another value, where that byte is not one of the start
and not `LEN`. It is as long as it was, so `recv_frame` reads exactly it; and what its
bytes add up to has changed (`xorSum_set_ne`), so it is refused
(`recvFrame_refused`). `recvFrameInto_eq` relates what `recv_frame` leaves in the
caller's variables to what it returns in the model: the variables are written last, so
`recvFrame_detects` finds them unchanged.
-/

namespace TR.Proof.Uart

open TR.Impl.Uart TR.Reader

/-! ## The caller's variables -/

/-- What the caller has after a result. -/
def outs (o : Outs) : Recv → Option (Bool × Outs)
  | .refused => some (false, o)
  | .accepted cmd len payload =>
    some (true, ⟨cmd, len, o.payloadOut.map fun out => paste out 0 payload⟩)
  | .outOfRange => none

/-- The copy to the caller. -/
theorem outs_copyOut (o : Outs) (cmd len : UInt8) (payload : List UInt8) :
    (match o.payloadOut with
      | none => pure (some (true, { o with cmdOut := cmd, lenOut := len }))
      | some out =>
        match blit out 0 payload 0 len.toNat with
        | none => pure none
        | some out => pure (some (true, ⟨cmd, len, some out⟩))) =
      (pure (outs o (copyOut (o.payloadOut.map List.length) cmd len payload)) :
        Reader Outcome (Option (Bool × Outs))) := by
  obtain ⟨cmdOut, lenOut, _ | out⟩ := o
  · rfl
  · simp only [copyOut, blit, Option.map_some, Nat.zero_add, List.drop_zero]
    by_cases hfit : len.toNat ≤ payload.length ∧ len.toNat ≤ out.length
    · rw [if_pos hfit, if_pos hfit]
      rfl
    · rw [if_neg hfit, if_neg hfit]
      rfl

/-- `recv_frame` leaves in the caller's variables what belongs to its result. -/
theorem recvFrameInto_eq (d : UartMotorDriver) (timeoutMs : Int) (o : Outs) :
    recvFrameInto d timeoutMs o = do
      return outs o (← recvFrame d (o.payloadOut.map List.length) timeoutMs) := by
  unfold recvFrameInto recvFrame
  by_cases hfd : d.fd < 0
  · rw [if_pos hfd, if_pos hfd]
    rfl
  rw [if_neg hfd, if_neg hfd, bind_assoc]
  refine bind_congr fun found => ?_
  cases found with
  | false => rfl
  | true =>
    simp only [if_true, recvBody, bind_assoc]
    refine bind_congr_option rfl fun cmd => ?_
    simp only [bind_assoc]
    refine bind_congr_option rfl fun len => ?_
    simp only [bind_assoc]
    refine bind_congr_option rfl fun payload => ?_
    simp only [bind_assoc]
    refine bind_congr_option rfl fun chk => ?_
    simp only [checkFrame, pure_bind]
    cases calcChecksum cmd len payload with
    | none => rfl
    | some c =>
      simp only []
      split
      · rfl
      · exact outs_copyOut o cmd len payload

/-! ## What the bytes add up to -/

/-- What the bytes from `CMD` to `CHK` add up to. -/
def xorSum (bytes : List UInt8) : UInt8 := bytes.foldl (· ^^^ ·) 0

/-- The checksum is right where everything adds up to 0. -/
theorem xorSum_bodyBytes (cmd len : UInt8) (payload : List UInt8) (chk : UInt8) :
    xorSum (bodyBytes cmd len payload chk) = 0 ↔ checksum cmd len payload = chk := by
  simp [xorSum, bodyBytes, checksum]

/-- Another byte in one place, and they add up to something else. -/
theorem xorSum_set_ne {bytes : List UInt8} {j : Nat} {x b : UInt8} (hj : bytes[j]? = some x)
    (hb : b ≠ x) : xorSum (bytes.set j b) ≠ xorSum bytes :=
  foldl_set_ne (fun a _ _ h => (UInt8.xor_left_inj a).mp h)
    (fun a _ _ h => (UInt8.xor_right_inj a).mp h) hj hb 0

/-- Bytes that are the body of a frame with `LEN` in its place. -/
theorem exists_bodyBytes {bytes : List UInt8} {len : UInt8} {n : Nat}
    (hlen : bytes.length = n + 3) (h1 : bytes[1]? = some len) :
    ∃ cmd payload chk, bytes = bodyBytes cmd len payload chk ∧ payload.length = n := by
  match bytes, hlen, h1 with
  | cmd :: l :: more, hlen, h1 =>
    obtain rfl : l = len := by simpa using h1
    have hmore : more.length = n + 1 := by simpa using hlen
    have hne : more ≠ [] := List.ne_nil_of_length_pos (by omega)
    refine ⟨cmd, more.dropLast, more.getLast hne, ?_, ?_⟩
    · rw [bodyBytes, List.cons_append, List.cons_append, List.dropLast_append_getLast hne]
    · rw [List.length_dropLast, hmore, Nat.add_sub_cancel]

/-! ## Damage -/

/-- `b` in the place `i` of a frame is damage: it is another value, and the place is
`CMD`, one of the payload or `CHK`. -/
structure Damages (p : Packet) (i : Nat) (b : UInt8) : Prop where
  place : i = 2 ∨ 4 ≤ i
  other : ∃ x, p.wire[i]? = some x ∧ b ≠ x

instance (p : Packet) (i : Nat) (b : UInt8) : Decidable (Damages p i b) :=
  decidable_of_iff ((i = 2 ∨ 4 ≤ i) ∧ ∃ x ∈ p.wire[i]?, b ≠ x)
    ⟨fun ⟨h, x, hx, hb⟩ => ⟨h, x, hx, hb⟩, fun ⟨h, x, hx, hb⟩ => ⟨h, x, hx, hb⟩⟩

/-- A damaged frame has as many bytes, and a checksum that is wrong. -/
theorem exists_damaged {p : Packet} {i : Nat} {b : UInt8} (h : Damages p i b) :
    ∃ cmd payload chk,
      p.wire.set i b = FRAME_SOF0 :: FRAME_SOF1 :: bodyBytes cmd p.len payload chk ∧
      payload.length = p.payload.length ∧ checksum cmd p.len payload ≠ chk := by
  obtain ⟨hplace, x, hx, hb⟩ := h
  set body := bodyBytes p.cmd p.len p.payload (checksum p.cmd p.len p.payload) with hbody
  obtain ⟨j, rfl⟩ : ∃ j, i = j + 2 := ⟨i - 2, by omega⟩
  have hwire : p.wire.set (j + 2) b = FRAME_SOF0 :: FRAME_SOF1 :: body.set j b := rfl
  have hj : body[j]? = some x := hx
  have hlen : (body.set j b).length = p.payload.length + 3 := by
    simp [hbody, bodyBytes]
  have h1 : (body.set j b)[1]? = some p.len := by
    rw [List.getElem?_set_ne (by omega)]
    rfl
  obtain ⟨cmd, payload, chk, heq, hpayload⟩ := exists_bodyBytes hlen h1
  refine ⟨cmd, payload, chk, by rw [hwire, heq], hpayload, fun hchk => ?_⟩
  have hsum := xorSum_set_ne hj hb
  rw [heq, (xorSum_bodyBytes ..).mpr hchk, (xorSum_bodyBytes ..).mpr rfl] at hsum
  exact hsum rfl

/-! ## Refused -/

/-- A frame with a wrong checksum is read to its end, and refused. -/
theorem recvFrame_refused {d : UartMotorDriver} (hfd : 0 ≤ d.fd) {timeoutMs : Int}
    (ht : 0 < timeoutMs) (out : Option Nat) {cmd len chk : UInt8} {payload : List UInt8}
    (hlen : payload.length = len.toNat) (h32 : len.toNat ≤ 32)
    (hchk : checksum cmd len payload ≠ chk) (rest : List Outcome) :
    recvFrame d out timeoutMs
        ((FRAME_SOF0 :: FRAME_SOF1 :: bodyBytes cmd len payload chk).map some ++ rest) =
      .done .refused rest := by
  have hbs : payload.length = min len.toNat 32 := by omega
  have hunted : hunt timeoutMs (some FRAME_SOF0 :: some FRAME_SOF1 ::
      ((bodyBytes cmd len payload chk).map some ++ rest)) =
      .done true ((bodyBytes cmd len payload chk).map some ++ rest) := by
    rw [hunt_some ht, if_pos rfl]
    rfl
  have hbody : recvBody out ((bodyBytes cmd len payload chk).map some ++ rest) =
      .done .refused rest := by
    rw [recvBody_bytes out hbs rest, checkFrame_refused hbs h32 hchk]
  rw [recvFrame, if_neg (Int.not_lt.mpr hfd)]
  exact (bind_of_done hunted).trans hbody

/-- Without a port, or without time, nothing is read. -/
theorem recvFrame_closed {d : UartMotorDriver} {timeoutMs : Int} (h : ¬(0 ≤ d.fd ∧ 0 < timeoutMs))
    (out : Option Nat) (l : List Outcome) : recvFrame d out timeoutMs l = .done .refused l := by
  unfold recvFrame
  by_cases hfd : d.fd < 0
  · rw [if_pos hfd]
    rfl
  · rw [if_neg hfd]
    exact bind_of_done (hunt_of_nonpos (by omega) l)

/-- A frame of which a byte is damaged, with anything behind it, makes `recv_frame`
return `false` and leave the caller's variables as they were; where it reads at all, it
reads that frame and no more. -/
theorem recvFrame_detects (d : UartMotorDriver) (timeoutMs : Int) (o : Outs) (p : Packet) (i : Nat)
    (b : UInt8) (h : Damages p i b) (rest : List Outcome) :
    ∃ left, recvFrameInto d timeoutMs o ((p.wire.set i b).map some ++ rest) =
        .done (some (false, o)) left ∧
      (0 ≤ d.fd → 0 < timeoutMs → left = rest) := by
  have hinto (l left) (hr : recvFrame d (o.payloadOut.map List.length) timeoutMs l =
      .done .refused left) : recvFrameInto d timeoutMs o l = .done (some (false, o)) left := by
    rw [recvFrameInto_eq]
    exact bind_of_done hr
  obtain ⟨cmd, payload, chk, hbytes, hlen, hchk⟩ := exists_damaged h
  by_cases hopen : 0 ≤ d.fd ∧ 0 < timeoutMs
  · refine ⟨rest, hinto _ _ ?_, fun _ _ => rfl⟩
    have h32 : p.len.toNat ≤ 32 := by rw [p.toNat_len]; exact p.short
    rw [hbytes]
    exact recvFrame_refused hopen.1 hopen.2 _ (by rw [hlen, p.toNat_len]) h32 hchk rest
  · exact ⟨_, hinto _ _ (recvFrame_closed hopen _ _), fun hfd ht => absurd ⟨hfd, ht⟩ hopen⟩

/-- A command with 3 bytes, the second of them damaged, and a byte behind it. -/
theorem recvFrame_detects_payload :
    ∃ left, recvFrameInto port 500 ⟨7, 8, some (List.replicate 8 9)⟩
        (((Packet.wire ⟨0x10, [0x00, 0x01, 0x2C], by decide⟩).set 5 0xFE).map some ++
          [some 0xAA]) =
        .done (some (false, ⟨7, 8, some (List.replicate 8 9)⟩)) left ∧
      (0 ≤ port.fd → 0 < (500 : Int) → left = [some 0xAA]) :=
  recvFrame_detects port 500 _ _ 5 0xFE (by decide) [some 0xAA]

end TR.Proof.Uart
