import TennisRobot.Proof.Uart.Frame

/-!
# The buffers of `recv_frame`

`LEN` is a byte of the peer's. The loop that stores the payload is bounded by the
local buffer of 32 bytes, but the checksum reads `LEN` bytes of it, and the copy
writes `LEN` bytes to the caller's buffer of 8, of which it knows nothing.
`cmds_inBounds_iff` says for which streams the two commands stay in their buffers.
-/

namespace TR.Proof.Uart

open TR.Impl.Uart

section OutOfRange

variable {d : UartMotorDriver} (hfd : 0 ≤ d.fd) {timeoutMs : Int} (ht : 0 < timeoutMs) {cap : Nat}
  {l rest : List Outcome}

include hfd ht

/-- The frames for which `recv_frame` leaves a buffer. -/
theorem recvFrame_outOfRange_iff :
    recvFrame d (some cap) timeoutMs l = .done .outOfRange rest ↔
      ∃ head cmd len bs chk, l = head ++ (bodyBytes cmd len bs chk).map some ++ rest ∧
        HeaderEnds timeoutMs head ∧ bs.length = min len.toNat 32 ∧
        (32 < len.toNat ∨ cap < len.toNat ∧ checksum cmd len bs = chk) := by
  rw [recvFrame_done_iff hfd ht (by simp)]
  refine exists_congr fun head => exists_congr fun cmd => exists_congr fun len =>
    exists_congr fun bs => exists_congr fun chk => and_congr_right fun _ => and_congr_right fun _ =>
      and_congr_right fun hbs => ?_
  rw [checkFrame_cases hbs]
  split_ifs with h32 hchk hcap
  · simp [h32]
  · simp [h32, hchk]
  · simp [h32, Nat.not_lt.mpr hcap]
  · rw [ne_eq, not_not] at hchk
    simp [hchk, Nat.not_le.mp hcap]

end OutOfRange

/-- The first frame that the outcomes hold, if it is complete, fits the caller's 8
bytes, or fits the local buffer and has a wrong checksum. -/
def InBounds (l : List Outcome) : Prop :=
  ∀ head cmd len bs chk rest, HeaderEnds 500 head → bs.length = min len.toNat 32 →
    l = head ++ (bodyBytes cmd len bs chk).map some ++ rest →
      len.toNat ≤ 8 ∨ len.toNat ≤ 32 ∧ checksum cmd len bs ≠ chk

theorem recvFrame_inBounds_iff {d : UartMotorDriver} (hfd : 0 ≤ d.fd) (l : List Outcome) :
    (∀ rest, recvFrame d (some 8) 500 l ≠ .done .outOfRange rest) ↔ InBounds l := by
  refine ⟨fun h head cmd len bs chk rest hhead hbs hl => ?_, fun h rest hout => ?_⟩
  · have hnot := h rest
    rw [ne_eq, recvFrame_outOfRange_iff hfd (by decide)] at hnot
    by_contra hn
    push Not at hn
    refine hnot ⟨head, cmd, len, bs, chk, hl, hhead, hbs, ?_⟩
    by_cases h32 : len.toNat ≤ 32
    · exact .inr ⟨hn.1, hn.2 h32⟩
    · exact .inl (Nat.not_le.mp h32)
  · obtain ⟨head, cmd, len, bs, chk, hl, hhead, hbs, hlen⟩ :=
      (recvFrame_outOfRange_iff hfd (by decide)).mp hout
    rcases h head cmd len bs chk rest hhead hbs hl with h8 | ⟨h32, hchk⟩
    · omega
    · exact hlen.elim (fun h => absurd h (Nat.not_lt.mpr h32)) fun h => hchk h.2

/-- `cmd_init` and `cmd_config` stay in their buffers exactly for the streams that
hold no frame too long for them. -/
theorem cmds_inBounds_iff (d : UartMotorDriver) (hfd : 0 ≤ d.fd) (ppr pwmFreq : UInt16)
    (l : List Outcome) :
    ((∀ rest, (cmdInit d).2 l ≠ .done .outOfRange rest) ↔ InBounds l) ∧
      ((∀ rest, (cmdConfig d ppr pwmFreq).2 l ≠ .done .outOfRange rest) ↔ InBounds l) :=
  ⟨recvFrame_inBounds_iff hfd l, recvFrame_inBounds_iff hfd l⟩

theorem cmds_inBounds_ack :
    ((∀ rest, (cmdInit port).2 ([0xAA, 0x55, 0x01, 0x00, 0x01].map some) ≠
        .done .outOfRange rest) ↔ InBounds ([0xAA, 0x55, 0x01, 0x00, 0x01].map some)) ∧
      ((∀ rest, (cmdConfig port 4680 20000).2 ([0xAA, 0x55, 0x01, 0x00, 0x01].map some) ≠
        .done .outOfRange rest) ↔ InBounds ([0xAA, 0x55, 0x01, 0x00, 0x01].map some)) :=
  cmds_inBounds_iff port (by decide) 4680 20000 ([0xAA, 0x55, 0x01, 0x00, 0x01].map some)

/-- A frame with `LEN` 9 and the right checksum is copied beyond the caller's
buffer, and one with `LEN` 33 is summed up beyond the local one. -/
theorem cmds_outOfRange :
    (cmdInit port).2 ((FRAME_SOF0 :: FRAME_SOF1 ::
        bodyBytes 0x01 9 (List.replicate 9 0) 0x08).map some) = .done .outOfRange [] ∧
      (cmdConfig port 4680 20000).2 ((FRAME_SOF0 :: FRAME_SOF1 ::
        bodyBytes 0x02 33 (List.replicate 32 0) 0x23).map some) = .done .outOfRange [] := by
  decide +kernel

end TR.Proof.Uart
