import TennisRobot.Proof.Uart.Frame

/-!
# Frames in a stream

Where `recv_frame` finds the frames in what the line delivers. Frames that
`send_frame` writes back to back are read off one by one, whatever their payloads
are (`recvFrame_calls`). After bytes that hold no start of a frame, the next frame
is found exactly where they end in an even number of `AA` (`headerEnds_iff`,
`recvFrame_resync_iff`), while `test_uart_probe` finds it there in any case
(`testUartProbe_wire`).
-/

namespace TR.Proof.Uart

open TR.Impl.Uart TR.Reader

/-! ## The start of a frame -/

theorem exists_snoc_of_sofRun_odd {l : List Outcome} (h : Odd (sofRun l)) :
    ∃ pre, l = pre ++ [some FRAME_SOF0] := by
  induction l using List.reverseRecOn with
  | nil => simp at h
  | append_singleton pre o =>
    rw [sofRun_snoc] at h
    split_ifs at h with ho
    · exact ⟨pre, by rw [ho]⟩
    · simp at h

section Header

variable {timeout : Int} (ht : 0 < timeout) {g : List UInt8}
  (hg : ¬[FRAME_SOF0, FRAME_SOF1] <:+: g)

include ht hg

/-- Bytes without a start of a frame keep the hunt going. -/
theorem searching_bytes : Searching timeout (g.map some) where
  time := by
    rw [List.count_eq_zero.mpr (by simp)]
    simpa using ht
  going pre o hp := by
    rintro ⟨hodd, ho⟩
    obtain ⟨pre, rfl⟩ := exists_snoc_of_sofRun_odd hodd
    rcases ho with rfl | rfl
    · have := hp.subset (List.mem_append_right _ (List.mem_singleton_self none))
      simp at this
    · have hin : [some FRAME_SOF0, some FRAME_SOF1] <:+: g.map some := by
        refine List.IsInfix.trans ⟨pre, [], ?_⟩ hp.isInfix
        simp
      obtain ⟨l, hl, heq⟩ := List.infix_map_iff.mp hin
      apply hg
      rwa [show [FRAME_SOF0, FRAME_SOF1] = l from
        List.map_injective_iff.mpr (Option.some_injective _) (by simpa using heq)]

/-- The start of a frame that comes next is found exactly after an even number of
`AA`. -/
theorem headerEnds_iff :
    HeaderEnds timeout ((g ++ [FRAME_SOF0, FRAME_SOF1]).map some) ↔ Even (sofRun (g.map some)) := by
  have hl : (g ++ [FRAME_SOF0, FRAME_SOF1]).map some =
      (g.map some ++ [some FRAME_SOF0]) ++ [some FRAME_SOF1] := by simp
  have hrun : Odd (sofRun (g.map some ++ [some FRAME_SOF0])) ↔ Even (sofRun (g.map some)) := by
    rw [sofRun_snoc, if_pos rfl, Nat.odd_add_one, Nat.not_odd_iff_even]
  rw [HeaderEnds, hl]
  refine ⟨fun ⟨pre, hpre, _, hodd⟩ => ?_, fun h => ⟨_, rfl, ?_, hrun.mpr h⟩⟩
  · obtain rfl := List.append_cancel_right hpre
    exact hrun.mp hodd
  · refine searching_snoc.mpr ⟨searching_bytes ht hg, fun hs => ?_, by simp⟩
    rcases hs.2 with ho | ho <;> exact absurd ho (by decide)

end Header

/-! ## Received -/

section Received

variable {d : UartMotorDriver} (hfd : 0 ≤ d.fd) {timeoutMs : Int} (ht : 0 < timeoutMs) {cap : Nat}

include hfd ht

/-- A frame after bytes without a start of a frame. -/
theorem recvFrame_append_wire {g : List UInt8} (hg : ¬[FRAME_SOF0, FRAME_SOF1] <:+: g) {p : Packet}
    (hp : p.payload.length ≤ cap) (rest : List Outcome) :
    recvFrame d (some cap) timeoutMs ((g ++ p.wire).map some ++ rest) =
        .done (.accepted p.cmd p.len p.payload) rest ↔ Even (sofRun (g.map some)) := by
  have hl : (g ++ p.wire).map some ++ rest = (g ++ [FRAME_SOF0, FRAME_SOF1]).map some ++
      (bodyBytes p.cmd p.len p.payload (checksum p.cmd p.len p.payload)).map some ++ rest := by
    simp [Packet.wire]
  rw [recvFrame_accepted_iff hfd ht, ← headerEnds_iff ht hg, hl]
  refine ⟨fun h => ?_, fun h => ⟨?_, _, h, rfl⟩⟩
  · obtain ⟨-, head, hhead, heq⟩ := h
    rw [List.append_cancel_right_eq, List.append_cancel_right_eq] at heq
    rwa [heq]
  · rw [p.toNat_len]
    exact ⟨rfl, p.short, hp⟩

theorem recvFrame_wire {p : Packet} (hp : p.payload.length ≤ cap) (rest : List Outcome) :
    recvFrame d (some cap) timeoutMs (p.wire.map some ++ rest) =
      .done (.accepted p.cmd p.len p.payload) rest := by
  have h := recvFrame_append_wire hfd ht (g := []) (by decide) hp rest
  rw [List.nil_append] at h
  exact h.mpr (by decide)

/-- Frames in a row are read off one by one. -/
theorem calls_wire (packets : List Packet) (hcap : ∀ p ∈ packets, p.payload.length ≤ cap)
    (rest : List Outcome) :
    calls (recvFrame d (some cap) timeoutMs) packets.length
        ((packets.map Packet.wire).flatten.map some ++ rest) =
      .done (packets.map fun p => (.accepted p.cmd p.len p.payload, 5 + p.payload.length)) rest := by
  have h := calls_flatten (m := recvFrame d (some cap) timeoutMs)
    (packets.map fun p => (p.wire.map some, .accepted p.cmd p.len p.payload)) ?_ rest
  · simpa [List.map_flatten, Function.comp_def, Packet.length_wire] using h
  · intro q hq rest
    obtain ⟨p, hp, rfl⟩ := List.mem_map.mp hq
    exact recvFrame_wire hfd ht (hcap p hp) rest

end Received

/-- The frames that `send_frame` writes, one after another and with anything
behind them, are what as many calls of `recv_frame` return, each of them reading
one frame. -/
theorem recvFrame_calls (d : UartMotorDriver) (hfd : 0 ≤ d.fd) {timeoutMs : Int}
    (ht : 0 < timeoutMs) (cap : Nat) (packets : List Packet)
    (hcap : ∀ p ∈ packets, p.payload.length ≤ cap) (rest : List Outcome) :
    ∃ frames : List (List UInt8),
      (packets.map fun p => sendFrame d p.cmd (some p.payload) p.len) = frames.map some ∧
      calls (recvFrame d (some cap) timeoutMs) packets.length (frames.flatten.map some ++ rest) =
        .done (packets.map fun p => (.accepted p.cmd p.len p.payload, 5 + p.payload.length)) rest := by
  refine ⟨packets.map Packet.wire, ?_, calls_wire hfd ht packets hcap rest⟩
  rw [List.map_map]
  exact List.map_congr_left fun p _ => sendFrame_eq hfd p

/-- Three commands, one with the start of a frame in its payload, and a byte
behind them. -/
def threePackets : List Packet :=
  [⟨0x10, [0xAA, 0x55, 0x01], by decide⟩, ⟨0x11, [], by decide⟩, ⟨0xAA, [0x55], by decide⟩]

theorem recvFrame_calls_threePackets :
    ∃ frames : List (List UInt8),
      (threePackets.map fun p => sendFrame port p.cmd (some p.payload) p.len) = frames.map some ∧
      calls (recvFrame port (some 8) 500) 3 (frames.flatten.map some ++ [some 0xAA]) =
        .done (threePackets.map fun p => (.accepted p.cmd p.len p.payload, 5 + p.payload.length))
          [some 0xAA] :=
  recvFrame_calls port (by decide) (by decide) 8 threePackets (by decide) [some 0xAA]

/-! ## Resynchronisation -/

/-- The scan finds the first start of a frame. -/
theorem scanHeader_append {g : List UInt8} (hg : ¬[FRAME_SOF0, FRAME_SOF1] <:+: g) (l : List UInt8) :
    scanHeader (g ++ FRAME_SOF0 :: FRAME_SOF1 :: l) = some g.length := by
  induction g with
  | nil => simp [scanHeader]
  | cons a g ih =>
    have hg' : ¬[FRAME_SOF0, FRAME_SOF1] <:+: g := fun h => hg (List.infix_cons h)
    have hne : ¬(a = FRAME_SOF0 ∧ (g ++ FRAME_SOF0 :: FRAME_SOF1 :: l).head? = some FRAME_SOF1) := by
      rintro ⟨rfl, hb⟩
      cases g with
      | nil => simp [FRAME_SOF0, FRAME_SOF1] at hb
      | cons b g =>
        obtain rfl : b = FRAME_SOF1 := by simpa using hb
        exact hg ⟨[], g, rfl⟩
    have hi := ih hg'
    cases hgl : g ++ FRAME_SOF0 :: FRAME_SOF1 :: l with
    | nil => simp at hgl
    | cons b raw =>
      rw [hgl] at hne hi
      rw [List.cons_append, hgl, scanHeader, if_neg (by simpa using hne), hi]
      rfl

/-- The probe finds the first frame. -/
theorem testUartProbe_wire {g : List UInt8} (hg : ¬[FRAME_SOF0, FRAME_SOF1] <:+: g) (p : Packet)
    (more : List UInt8) :
    testUartProbe (g ++ p.wire ++ more) = .motor g.length p.cmd p.len p.payload := by
  have hwire : p.wire ++ more = FRAME_SOF0 :: FRAME_SOF1 :: p.cmd :: p.len ::
      (p.payload ++ checksum p.cmd p.len p.payload :: more) := by
    simp [Packet.wire, bodyBytes]
  have hidx (k : Nat) : (g ++ (p.wire ++ more))[g.length + k]? = (p.wire ++ more)[k]? := by
    rw [List.getElem?_append_right (Nat.le_add_right ..), Nat.add_sub_cancel_left]
  have hcmd : (g ++ (p.wire ++ more))[g.length + 2]? = some p.cmd := by rw [hidx, hwire]; rfl
  have hlen : (g ++ (p.wire ++ more))[g.length + 3]? = some p.len := by rw [hidx, hwire]; rfl
  have hchk : (g ++ (p.wire ++ more))[g.length + 4 + p.len.toNat]? =
      some (checksum p.cmd p.len p.payload) := by
    rw [Nat.add_assoc, hidx, hwire, p.toNat_len, Nat.add_comm]
    simp
  have hpayload : ((g ++ (p.wire ++ more)).drop (g.length + 4)).take p.len.toNat = p.payload := by
    rw [List.drop_append, List.drop_of_length_le (by omega), Nat.add_sub_cancel_left, hwire,
      p.toNat_len]
    simp
  rw [List.append_assoc, testUartProbe, if_neg (by simp [hwire])]
  have hscan := scanHeader_append hg (p.cmd :: p.len ::
    (p.payload ++ checksum p.cmd p.len p.payload :: more))
  rw [← hwire] at hscan
  simp only [hscan, hcmd, hlen, hchk, hpayload]
  exact if_pos rfl

/-- After bytes without a start of a frame, `test_uart_probe` finds the frame that
comes next, and `recv_frame` accepts it exactly where the bytes end in an even
number of `AA`. -/
theorem recvFrame_resync_iff (d : UartMotorDriver) (hfd : 0 ≤ d.fd) {timeoutMs : Int}
    (ht : 0 < timeoutMs) (cap : Nat) (g : List UInt8) (hg : ¬[FRAME_SOF0, FRAME_SOF1] <:+: g)
    (p : Packet) (hp : p.payload.length ≤ cap) (more : List UInt8) :
    testUartProbe (g ++ p.wire ++ more) = .motor g.length p.cmd p.len p.payload ∧
      (recvFrame d (some cap) timeoutMs ((g ++ p.wire ++ more).map some) =
          .done (.accepted p.cmd p.len p.payload) (more.map some) ↔
        Even (sofRun (g.map some))) := by
  have hmap : (g ++ p.wire ++ more).map some = (g ++ p.wire).map some ++ more.map some :=
    List.map_append
  rw [hmap]
  exact ⟨testUartProbe_wire hg p more, recvFrame_append_wire hfd ht hg hp (more.map some)⟩

/-- An acknowledged `CMD_INIT`. -/
def initPacket : Packet := ⟨0x01, [], by decide⟩

theorem recvFrame_resync_two :
    testUartProbe ([0xAA, 0xAA] ++ initPacket.wire ++ []) = .motor 2 0x01 0 [] ∧
      (recvFrame port (some 8) 500 (([0xAA, 0xAA] ++ initPacket.wire ++ []).map some) =
          .done (.accepted 0x01 0 []) [] ↔
        Even (sofRun ([0xAA, 0xAA].map some))) :=
  recvFrame_resync_iff port (by decide) (by decide) 8 [0xAA, 0xAA] (by decide) initPacket
    (by decide) []

/-- One `AA` in front of a frame, and the frame is lost. -/
theorem recvFrame_misses_frame :
    ¬[FRAME_SOF0, FRAME_SOF1] <:+: [0xAA] ∧
      testUartProbe ([0xAA] ++ initPacket.wire) = .motor 1 0x01 0 [] ∧
      recvFrame port (some 8) 500 (([0xAA] ++ initPacket.wire).map some) = .pending := by
  decide

end TR.Proof.Uart
