import TennisRobot.Proof.Uart.Hunt

/-!
# Frames

What `recv_frame` makes of the outcomes. After the start of a frame it reads
`CMD`, `LEN`, `min LEN 32` bytes and `CHK`, and returns what `checkFrame` says of
them (`recvBody_done_iff`, `checkFrame_cases`). With the hunt that is everything it
can return but `false` (`recvFrame_done_iff`): the frames it accepts
(`recvFrame_accepted_iff`) are those of `wire`, the bytes that `send_frame` writes
(`sendFrame_eq`).
-/

namespace TR.Proof.Uart

open TR.Impl.Uart TR.Reader

/-! ## The checksum -/

/-- The checksum of a frame. -/
def checksum (cmd len : UInt8) (payload : List UInt8) : UInt8 :=
  payload.foldl (· ^^^ ·) (cmd ^^^ len)

/-- Reading a list index by index, with a check, is a fold over its start. -/
theorem foldlM_getElem? {α β : Type} (g : β → α → β) (l : List α) (b : β) (n : Nat) :
    (List.range n).foldlM (fun b i => l[i]?.map (g b)) b =
      if n ≤ l.length then some ((l.take n).foldl g b) else none := by
  induction n with
  | zero => simp
  | succ n ih =>
    rw [List.range_succ, List.foldlM_append, ih]
    by_cases hn : n + 1 ≤ l.length
    · have hlt : n < l.length := hn
      rw [if_pos hlt.le, if_pos hn, List.take_succ_eq_append_getElem hlt, List.foldl_append]
      simp only [List.foldlM_cons, List.foldlM_nil, List.getElem?_eq_getElem hlt, Option.map_some,
        List.foldl_cons, List.foldl_nil]
      rfl
    · rw [if_neg hn]
      split_ifs
      · simp [List.getElem?_eq_none (Nat.le_of_not_lt hn)]
      · rfl

theorem calcChecksum_eq (cmd len : UInt8) (payload : List UInt8) :
    calcChecksum cmd len payload =
      if len.toNat ≤ payload.length then some (checksum cmd len (payload.take len.toNat))
      else none :=
  foldlM_getElem? _ _ _ _

/-! ## The body -/

section Payload

variable {n : Nat} {l rest : List Outcome}

/-- The bytes are stored one after another. -/
theorem readPayload_bytes (bs pre post : List UInt8) (l : List Outcome) :
    readPayload bs.length pre.length (pre ++ List.replicate bs.length 0 ++ post)
      (bs.map some ++ l) = .done (some (pre ++ bs ++ post)) l := by
  induction bs generalizing pre with
  | nil => simp [readPayload]
  | cons b bs ih =>
    have hset : (pre ++ List.replicate (bs.length + 1) 0 ++ post).set pre.length b =
        pre ++ [b] ++ List.replicate bs.length 0 ++ post := by
      simp [List.replicate_succ]
    have hstep : readPayload (bs.length + 1) pre.length
        (pre ++ List.replicate (bs.length + 1) 0 ++ post) (some b :: (bs.map some ++ l)) =
        readPayload bs.length (pre.length + 1) (pre ++ [b] ++ List.replicate bs.length 0 ++ post)
          (bs.map some ++ l) := by
      rw [← hset]
      rfl
    rw [List.length_cons, List.map_cons, List.cons_append, hstep]
    simpa using ih (pre ++ [b])

/-- Only bytes that come are stored. -/
theorem bytes_of_readPayload {i : Nat} {payload payload' : List UInt8}
    (h : readPayload n i payload l = .done (some payload') rest) :
    ∃ bs : List UInt8, bs.length = n ∧ l = bs.map some ++ rest := by
  induction n generalizing i payload l with
  | zero =>
    obtain ⟨-, rfl⟩ := Read.done.inj h
    exact ⟨[], rfl, rfl⟩
  | succ n ih =>
    obtain ⟨o, mid, rfl, h⟩ := next_bind_eq_done.mp h
    cases o with
    | none => cases (Read.done.inj h).1
    | some b =>
      obtain ⟨bs, hn, rfl⟩ := ih h
      exact ⟨b :: bs, by rw [List.length_cons, hn], rfl⟩

end Payload

/-- What follows the start of a frame: `CMD`, `LEN`, the payload and `CHK`. -/
def bodyBytes (cmd len : UInt8) (payload : List UInt8) (chk : UInt8) : List UInt8 :=
  cmd :: len :: payload ++ [chk]

/-- The local buffer, once the bytes `bs` are received. -/
def buffer (bs : List UInt8) : List UInt8 := bs ++ List.replicate (32 - bs.length) 0

theorem recvBody_bytes (out : Option Nat) {cmd len chk : UInt8} {bs : List UInt8}
    (hbs : bs.length = min len.toNat 32) (rest : List Outcome) :
    recvBody out ((bodyBytes cmd len bs chk).map some ++ rest) =
      .done (checkFrame out cmd len (buffer bs) chk) rest := by
  have hread := readPayload_bytes bs [] (List.replicate (32 - bs.length) 0) (some chk :: rest)
  rw [List.nil_append, List.nil_append, List.replicate_append_replicate,
    Nat.add_sub_cancel' (hbs ▸ min_le_right ..), hbs] at hread
  have hl : (bodyBytes cmd len bs chk).map some ++ rest =
      some cmd :: some len :: (bs.map some ++ some chk :: rest) := by
    simp [bodyBytes]
  rw [hl, buffer, hbs]
  exact (bind_of_done hread).trans rfl

/-- What the body of a frame comes to, other than `false`. -/
theorem recvBody_done_iff {out : Option Nat} {l rest : List Outcome} {r : Recv}
    (hr : r ≠ .refused) : recvBody out l = .done r rest ↔
      ∃ cmd len bs chk, l = (bodyBytes cmd len bs chk).map some ++ rest ∧
        bs.length = min len.toNat 32 ∧ checkFrame out cmd len (buffer bs) chk = r := by
  refine ⟨fun h => ?_, fun ⟨cmd, len, bs, chk, hl, hbs, hc⟩ => ?_⟩
  · have hne {l' : List Outcome} (h : Read.done Recv.refused l' = .done r rest) : False :=
      hr (Read.done.inj h).1.symm
    obtain ⟨o, l1, rfl, h1⟩ := next_bind_eq_done.mp h
    cases o with
    | none => exact (hne h1).elim
    | some cmd =>
      obtain ⟨o, l2, rfl, h2⟩ := next_bind_eq_done.mp h1
      cases o with
      | none => exact (hne h2).elim
      | some len =>
        obtain ⟨o, l3, h3, h4⟩ := bind_eq_done.mp h2
        cases o with
        | none => exact (hne h4).elim
        | some payload =>
          obtain ⟨bs, hbs, rfl⟩ := bytes_of_readPayload h3
          obtain ⟨o, l4, rfl, h5⟩ := next_bind_eq_done.mp h4
          cases o with
          | none => exact (hne h5).elim
          | some chk =>
            obtain ⟨-, rfl⟩ := Read.done.inj h5
            have hl : some cmd :: some len :: (bs.map some ++ some chk :: l4) =
                (bodyBytes cmd len bs chk).map some ++ l4 := by simp [bodyBytes]
            rw [hl, recvBody_bytes out hbs] at h
            exact ⟨cmd, len, bs, chk, hl, hbs, (Read.done.inj h).1⟩
  · rw [hl, recvBody_bytes out hbs, hc]

section Buffer

variable {cmd len chk : UInt8} {bs : List UInt8} (hbs : bs.length = min len.toNat 32)

include hbs

theorem length_buffer : (buffer bs).length = 32 := by
  rw [buffer, List.length_append, List.length_replicate]
  omega

theorem take_buffer (h32 : len.toNat ≤ 32) : (buffer bs).take len.toNat = bs := by
  rw [buffer, List.take_append_of_le_length (by omega), List.take_of_length_le (by omega)]

/-- The checksum is computed inside the local buffer for frames of 32 bytes at
most. -/
theorem calcChecksum_buffer : calcChecksum cmd len (buffer bs) =
    if len.toNat ≤ 32 then some (checksum cmd len bs) else none := by
  rw [calcChecksum_eq, length_buffer hbs]
  split
  · rw [take_buffer hbs ‹_›]
  · rfl

/-- A frame with a wrong checksum is refused. -/
theorem checkFrame_refused {out : Option Nat} (h32 : len.toNat ≤ 32)
    (hchk : checksum cmd len bs ≠ chk) : checkFrame out cmd len (buffer bs) chk = .refused := by
  rw [checkFrame, calcChecksum_buffer hbs, if_pos h32]
  exact if_pos hchk

/-- What the body of a frame comes to, for frames that fit the local buffer or do
not, and those that fit the caller's. -/
theorem checkFrame_cases {cap : Nat} : checkFrame (some cap) cmd len (buffer bs) chk =
    if 32 < len.toNat then .outOfRange
    else if checksum cmd len bs ≠ chk then .refused
    else if len.toNat ≤ cap then .accepted cmd len bs else .outOfRange := by
  rw [checkFrame, calcChecksum_buffer hbs]
  by_cases h32 : 32 < len.toNat
  · rw [if_neg (Nat.not_le.mpr h32), if_pos h32]
  · have h32' := Nat.not_lt.mp h32
    rw [if_pos h32', if_neg h32, copyOut, length_buffer hbs, take_buffer hbs h32']
    simp only [h32', true_and]

end Buffer

/-! ## The frame -/

/-- The hunt ends with the start of a frame, after the outcomes `l`. -/
def HeaderEnds (timeout : Int) (l : List Outcome) : Prop :=
  ∃ pre, l = pre ++ [some FRAME_SOF1] ∧ Searching timeout pre ∧ Odd (sofRun pre)

section Recv

variable {d : UartMotorDriver} (hfd : 0 ≤ d.fd) {out : Option Nat} {timeoutMs : Int}
  (ht : 0 < timeoutMs) {l rest : List Outcome}

include hfd ht

/-- What `recv_frame` returns, other than `false`. -/
theorem recvFrame_done_iff {r : Recv} (hr : r ≠ .refused) :
    recvFrame d out timeoutMs l = .done r rest ↔
      ∃ head cmd len bs chk, l = head ++ (bodyBytes cmd len bs chk).map some ++ rest ∧
        HeaderEnds timeoutMs head ∧ bs.length = min len.toNat 32 ∧
        checkFrame out cmd len (buffer bs) chk = r := by
  rw [recvFrame, if_neg (Int.not_lt.mpr hfd)]
  refine ⟨fun h => ?_, fun ⟨head, cmd, len, bs, chk, hl, hhead, hbs, hc⟩ => ?_⟩
  · obtain ⟨found, mid, hunted, hbody⟩ := bind_eq_done.mp h
    cases found with
    | false => exact (hr (Read.done.inj hbody).1.symm).elim
    | true =>
      obtain ⟨pre, rfl, hpre, hodd⟩ := (hunt_true_iff ht).mp hunted
      obtain ⟨cmd, len, bs, chk, rfl, hbs, hc⟩ := (recvBody_done_iff hr).mp hbody
      exact ⟨pre ++ [some FRAME_SOF1], cmd, len, bs, chk, by simp, ⟨pre, rfl, hpre, hodd⟩, hbs, hc⟩
  · obtain ⟨pre, rfl, hpre, hodd⟩ := hhead
    rw [List.append_assoc, List.append_assoc, List.singleton_append] at hl
    rw [bind_of_done ((hunt_true_iff ht).mpr ⟨pre, hl, hpre, hodd⟩)]
    exact (recvBody_done_iff hr).mpr ⟨cmd, len, bs, chk, rfl, hbs, hc⟩

/-- The frames that `recv_frame` accepts. -/
theorem recvFrame_accepted_iff {cap : Nat} {cmd len : UInt8} {payload : List UInt8} :
    recvFrame d (some cap) timeoutMs l = .done (.accepted cmd len payload) rest ↔
      (payload.length = len.toNat ∧ len.toNat ≤ 32 ∧ len.toNat ≤ cap) ∧
        ∃ head, HeaderEnds timeoutMs head ∧
          l = head ++ (bodyBytes cmd len payload (checksum cmd len payload)).map some ++ rest := by
  rw [recvFrame_done_iff hfd ht (by simp)]
  refine ⟨fun ⟨head, cmd', len', bs, chk, hl, hhead, hbs, hc⟩ => ?_,
    fun ⟨⟨hlen, h32, hcap⟩, head, hhead, hl⟩ => ?_⟩
  · rw [checkFrame_cases hbs] at hc
    split_ifs at hc with h32 hchk hcap
    obtain ⟨rfl, rfl, rfl⟩ := Recv.accepted.inj hc
    rw [ne_eq, not_not] at hchk
    rw [hchk]
    exact ⟨⟨by omega, Nat.not_lt.mp h32, hcap⟩, head, hhead, hl⟩
  · have hbs : payload.length = min len.toNat 32 := by omega
    refine ⟨head, cmd, len, payload, _, hl, hhead, hbs, ?_⟩
    rw [checkFrame_cases hbs, if_neg (Nat.not_lt.mpr h32), if_neg (not_not.mpr rfl), if_pos hcap]

end Recv

/-! ## What is sent -/

/-- A command with a payload that fits into the receiver's buffer. -/
structure Packet where
  cmd : UInt8
  payload : List UInt8
  short : payload.length ≤ 32

/-- `LEN`. -/
def Packet.len (p : Packet) : UInt8 := UInt8.ofNat p.payload.length

theorem Packet.toNat_len (p : Packet) : p.len.toNat = p.payload.length := by
  have := p.short
  rw [len, UInt8.toNat_ofNat']
  omega

/-- The bytes of a frame. -/
def Packet.wire (p : Packet) : List UInt8 :=
  FRAME_SOF0 :: FRAME_SOF1 ::
    bodyBytes p.cmd p.len p.payload (checksum p.cmd p.len p.payload)

theorem Packet.length_wire (p : Packet) : p.wire.length = 5 + p.payload.length := by
  simp only [wire, bodyBytes, List.length_cons, List.length_append, List.length_nil]
  omega

/-- `send_frame` writes the bytes of the frame. -/
theorem sendFrame_eq {d : UartMotorDriver} (hfd : 0 ≤ d.fd) (p : Packet) :
    sendFrame d p.cmd (some p.payload) p.len = some p.wire := by
  have h32 := p.short
  have hfits : p.len.toNat ≤ p.payload.length ∧ 4 + p.len.toNat < 64 := by
    rw [p.toNat_len]
    omega
  rw [sendFrame, if_neg (Int.not_lt.mpr hfd)]
  simp only [Option.getD_some, calcChecksum_eq, if_pos hfits, if_pos hfits.1]
  rw [p.toNat_len, List.take_length]
  rfl

end TR.Proof.Uart
