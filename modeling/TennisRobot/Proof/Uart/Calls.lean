import Mathlib.Data.List.Forall2
import TennisRobot.Proof.Uart.Damage
import TennisRobot.Proof.Uart.Stream

/-!
# Calls of `recv_frame` in a row

What calls in a row make of a line. Frames with noise before them and with a checksum that
is right or wrong are taken one by one: a wrong checksum costs its own frame and no other
(`recvFrame_pieces`). And whatever a line delivers, gaps included, the frames that calls
accept stand in it, whole, one behind the other (`recvFrame_sound`): none is made up, none
is put together from two, and none is returned twice.
-/

namespace TR.Proof.Uart

open TR.Impl.Uart TR.Reader

/-! ## Frames with noise -/

/-- Noise without the start of a frame, then a frame with any `CHK`. -/
structure Piece where
  noise : List UInt8
  cmd : UInt8
  len : UInt8
  payload : List UInt8
  chk : UInt8
  clean : ¬[FRAME_SOF0, FRAME_SOF1] <:+: noise
  even : Even (sofRun (noise.map some))
  length_payload : payload.length = len.toNat
  short : len.toNat ≤ 32

namespace Piece

/-- The bytes on the line. -/
def bytes (p : Piece) : List UInt8 :=
  p.noise ++ FRAME_SOF0 :: FRAME_SOF1 :: bodyBytes p.cmd p.len p.payload p.chk

/-- What is to be made of it. -/
def verdict (p : Piece) : Recv :=
  if checksum p.cmd p.len p.payload = p.chk then .accepted p.cmd p.len p.payload else .refused

end Piece

section Received

variable {d : UartMotorDriver} (hfd : 0 ≤ d.fd) {timeoutMs : Int} (ht : 0 < timeoutMs)

include hfd ht

/-- Behind the start of a frame. -/
theorem recvFrame_of_header {head : List Outcome} (hh : HeaderEnds timeoutMs head)
    (out : Option Nat) (l : List Outcome) :
    recvFrame d out timeoutMs (head ++ l) = recvBody out l := by
  obtain ⟨pre, rfl, hpre, hodd⟩ := hh
  have hunted : hunt timeoutMs (pre ++ some FRAME_SOF1 :: l) = .done true l :=
    (hunt_true_iff ht).mpr ⟨pre, rfl, hpre, hodd⟩
  rw [recvFrame, if_neg (Int.not_lt.mpr hfd), List.append_assoc, List.singleton_append]
  exact bind_of_done hunted

theorem recvFrame_piece {cap : Nat} (p : Piece) (hcap : p.len.toNat ≤ cap) (rest : List Outcome) :
    recvFrame d (some cap) timeoutMs (p.bytes.map some ++ rest) = .done p.verdict rest := by
  have hl : p.bytes.map some ++ rest = (p.noise ++ [FRAME_SOF0, FRAME_SOF1]).map some ++
      ((bodyBytes p.cmd p.len p.payload p.chk).map some ++ rest) := by
    simp [Piece.bytes]
  have hbs : p.payload.length = min p.len.toNat 32 := by
    rw [p.length_payload, min_eq_left p.short]
  rw [hl, recvFrame_of_header hfd ht ((headerEnds_iff ht p.clean).mpr p.even),
    recvBody_bytes _ hbs, checkFrame_cases hbs, if_neg (Nat.not_lt.mpr p.short), if_pos hcap,
    Piece.verdict]
  split_ifs <;> first | rfl | contradiction

end Received

/-- Frames in a row, with noise before each and whatever checksums: those with the right one
are accepted, and no other is. Each call reads the noise and the frame, and no more. -/
theorem recvFrame_pieces (d : UartMotorDriver) (hfd : 0 ≤ d.fd) {timeoutMs : Int}
    (ht : 0 < timeoutMs) (cap : Nat) (pieces : List Piece) (hcap : ∀ p ∈ pieces, p.len.toNat ≤ cap)
    (rest : List Outcome) :
    calls (recvFrame d (some cap) timeoutMs) pieces.length
        ((pieces.map Piece.bytes).flatten.map some ++ rest) =
      .done (pieces.map fun p => (p.verdict, p.bytes.length)) rest := by
  have h := calls_flatten (m := recvFrame d (some cap) timeoutMs)
    (pieces.map fun p => (p.bytes.map some, p.verdict)) ?_ rest
  · simpa [List.map_flatten, Function.comp_def] using h
  · intro q hq rest
    obtain ⟨p, hp, rfl⟩ := List.mem_map.mp hq
    exact recvFrame_piece hfd ht p (hcap p hp) rest

/-- A frame between two that are damaged. -/
def threePieces : List Piece :=
  [⟨[0x55, 0xAA, 0x00], 0x10, 3, [0x00, 0x01, 0x2D], 0x12, by decide, by decide, by decide,
      by decide⟩,
    ⟨[0xAA, 0xAA], 0x11, 1, [0x01], 0x11, by decide, by decide, by decide, by decide⟩,
    ⟨[], 0x12, 0, [], 0x00, by decide, by decide, by decide, by decide⟩]

theorem recvFrame_pieces_three :
    calls (recvFrame port (some 8) 500) 3
        ((threePieces.map Piece.bytes).flatten.map some ++ [none]) =
      .done [(.refused, 11), (.accepted 0x11 1 [0x01], 8), (.refused, 5)] [none] :=
  recvFrame_pieces port (by decide) (by decide) 8 threePieces (by decide) [none]

/-! ## Whatever the line delivers -/

theorem suffixed_hunt (deadline : Int) : Suffixed (hunt deadline) := by
  intro l found rest h
  by_cases ht : 0 < deadline
  · have hl : ¬Searching deadline l := fun hl => by
      rw [(hunt_pending_iff ht).mpr hl] at h
      cases h
    obtain ⟨pre, o, rest', rfl, hpre, hstop⟩ := exists_stop ht hl
    rw [hunt_stop hpre hstop] at h
    obtain ⟨-, rfl⟩ := Read.done.inj h
    exact ⟨pre ++ [o], by simp⟩
  · rw [hunt_of_nonpos (Int.not_lt.mp ht)] at h
    exact (Read.done.inj h).2 ▸ List.suffix_refl l

theorem suffixed_readPayload (n i : Nat) (payload : List UInt8) :
    Suffixed (readPayload n i payload) := by
  induction n generalizing i payload with
  | zero => exact suffixed_pure _
  | succ n ih =>
    refine suffixed_next.bind fun o => ?_
    cases o with
    | none => exact suffixed_pure _
    | some b => exact ih (i + 1) (payload.set i b)

theorem suffixed_recvBody (out : Option Nat) : Suffixed (recvBody out) := by
  refine suffixed_next.bind fun o => ?_
  cases o with
  | none => exact suffixed_pure _
  | some cmd =>
    refine suffixed_next.bind fun o => ?_
    cases o with
    | none => exact suffixed_pure _
    | some len =>
      refine (suffixed_readPayload _ _ _).bind fun payload => ?_
      cases payload with
      | none => exact suffixed_pure _
      | some payload =>
        refine suffixed_next.bind fun o => ?_
        cases o with
        | none => exact suffixed_pure _
        | some chk => exact suffixed_pure _

/-- `recv_frame` leaves what it has not read. -/
theorem suffixed_recvFrame (d : UartMotorDriver) (out : Option Nat) (timeoutMs : Int) :
    Suffixed (recvFrame d out timeoutMs) := by
  unfold recvFrame
  split
  · exact suffixed_pure _
  · refine (suffixed_hunt timeoutMs).bind fun found => ?_
    cases found with
    | false => exact suffixed_pure _
    | true => exact suffixed_recvBody out

/-- Whatever the line delivers, calls in a row read pieces of it in a row, and a call that
accepts a frame has read its bytes at the end of its piece, one directly behind the other,
with the checksum that belongs to them. -/
theorem recvFrame_sound (d : UartMotorDriver) (timeoutMs : Int) (cap n : Nat)
    (l rest : List Outcome) (rs : List (Recv × Nat))
    (h : calls (recvFrame d (some cap) timeoutMs) n l = .done rs rest) :
    ∃ pieces : List (List Outcome), l = pieces.flatten ++ rest ∧
      List.Forall₂ (fun r piece => r.2 = piece.length ∧
        ∀ cmd len payload, r.1 = .accepted cmd len payload → payload.length ≤ cap ∧
          ∃ (p : Packet) (head : List Outcome), (p.cmd, p.len, p.payload) = (cmd, len, payload) ∧
            piece = head ++ p.wire.map some) rs pieces := by
  obtain ⟨pieces, hl, hpieces⟩ := calls_pieces (suffixed_recvFrame d _ timeoutMs) h
  refine ⟨pieces, hl, hpieces.imp fun r piece ⟨hlen, more, hr⟩ => ⟨hlen, ?_⟩⟩
  intro cmd len payload hacc
  rw [hacc] at hr
  by_cases hopen : 0 ≤ d.fd ∧ 0 < timeoutMs
  · obtain ⟨⟨hpayload, h32, hcap⟩, head, hhead, heq⟩ :=
      (recvFrame_accepted_iff hopen.1 hopen.2).mp hr
    rw [List.append_cancel_right_eq] at heq
    obtain ⟨pre, rfl, -, hodd⟩ := hhead
    obtain ⟨pre, rfl⟩ := exists_snoc_of_sofRun_odd hodd
    have hp : UInt8.ofNat payload.length = len := by rw [hpayload, UInt8.ofNat_toNat]
    refine ⟨by omega, ⟨cmd, payload, by omega⟩, pre, by rw [Packet.len, hp], ?_⟩
    rw [heq, Packet.wire, Packet.len, hp]
    simp
  · rw [recvFrame_closed hopen] at hr
    cases (Read.done.inj hr).1

/-- A frame that breaks off, and the same once more. -/
theorem recvFrame_sound_gap : ∃ pieces : List (List Outcome),
    [some 0xAA, some 0x55, some 0x01, none] ++ initPacket.wire.map some = pieces.flatten ++ [] ∧
    List.Forall₂ (fun r piece => r.2 = piece.length ∧
      ∀ cmd len payload, r.1 = .accepted cmd len payload → payload.length ≤ 8 ∧
        ∃ (p : Packet) (head : List Outcome), (p.cmd, p.len, p.payload) = (cmd, len, payload) ∧
          piece = head ++ p.wire.map some)
      [(Recv.refused, 4), (.accepted 0x01 0 [], 5)] pieces :=
  recvFrame_sound port 500 8 2 _ [] _ (by decide)

end TR.Proof.Uart
