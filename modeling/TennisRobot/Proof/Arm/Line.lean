import Mathlib.Data.List.Forall2
import TennisRobot.Impl.Arm

/-!
# The servo line

All servos hang on one serial line, where a command ends with `!`. `set_angle` ends
its commands so, and they are read back as they were meant (`decode_text`); the two
methods for the torque do not, so that a command of theirs runs on into the next.
The stream falls into the commands that were sent exactly when none of them is for
the torque (`stream_wellFramed_iff`).
-/

namespace TR.Proof.Arm

open TR.Impl.Arm

/-! ## The pulse -/

/-- The pulse for an angle: 500 to 2500 for the angles from 0 to 270. -/
def pulseOf (angle : Rat) : Int := ⌊500 + max 0 (min 270 angle) * 2000 / 270⌋

theorem pulseOf_mono {a b : Rat} (h : a ≤ b) : pulseOf a ≤ pulseOf b := by
  have hclamp : max 0 (min 270 a) ≤ max 0 (min 270 b) := max_le_max le_rfl (min_le_min le_rfl h)
  refine Int.floor_le_floor ?_
  linarith

theorem pulseOf_bounds (angle : Rat) : 500 ≤ pulseOf angle ∧ pulseOf angle ≤ 2500 := by
  have h0 : 0 ≤ max 0 (min 270 angle) := le_max_left _ _
  have h1 : max 0 (min 270 angle) ≤ 270 := max_le (by norm_num) (min_le_left _ _)
  unfold pulseOf
  refine ⟨Int.le_floor.mpr ?_, Int.floor_le_iff.mpr ?_⟩
  · push_cast
    linarith
  · push_cast
    linarith

/-- The angle that `set_angle` goes on with. -/
theorem clamp_eq (angle : Rat) :
    (if angle < 0 ∨ angle > ANGLE_MAX then max 0 (min ANGLE_MAX angle) else angle) =
      max 0 (min 270 angle) := by
  show (if angle < 0 ∨ angle > 270 then max 0 (min 270 angle) else angle) = _
  split
  · rfl
  · rename_i h
    obtain ⟨h0, h1⟩ := not_or.mp h
    rw [min_eq_right (not_lt.mp h1), max_eq_right (not_lt.mp h0)]

theorem setAngle_eq (servoId : Int) (angle : Rat) (timeMs : Int) :
    setAngle servoId angle timeMs = ⟨servoId, pulseOf angle, timeMs⟩ := by
  have h0 : 0 ≤ max 0 (min 270 angle) := le_max_left _ _
  have hraw : castInt (500 + max 0 (min 270 angle) / ANGLE_MAX * 2000) = pulseOf angle := by
    have hpos : 0 ≤ 500 + max 0 (min 270 angle) / ANGLE_MAX * 2000 := by
      show 0 ≤ 500 + max 0 (min 270 angle) / 270 * 2000
      linarith
    rw [castInt_of_nonneg hpos, pulseOf]
    congr 1
    show 500 + max 0 (min 270 angle) / 270 * 2000 = _
    ring
  obtain ⟨hlo, hhi⟩ := pulseOf_bounds angle
  unfold setAngle angleToPulse
  rw [clamp_eq]
  dsimp only
  rw [hraw]
  show (⟨servoId, max 500 (min 2500 (pulseOf angle)), timeMs⟩ : ServoCmd) = _
  rw [min_eq_right hhi, max_eq_right hlo]

/-! ## The texts -/

/-- A command of `set_angle`, read from the line. -/
def decode (text : List Char) : Option ServoCmd := do
  let text ← expect '#' text
  let (servoId, text) ← readNat text
  let text ← expect 'P' text
  let (pulse, text) ← readNat text
  let text ← expect 'T' text
  let (timeMs, text) ← readNat text
  let text ← expect '!' text
  if text = [] then some ⟨servoId, pulse, timeMs⟩ else none

section Text

variable {c : ServoCmd} (hid : 0 ≤ c.servoId) (hp : 0 ≤ c.pulse) (ht : 0 ≤ c.timeMs)

include hid hp ht

/-- A command is read back. -/
theorem decode_text : decode c.text = some c := by
  unfold decode ServoCmd.text
  simp only [expect_cons, Option.bind_eq_bind, Option.bind_some, readNat_printfD hid (c := 'P') rfl,
    readNat_printfD hp (c := 'T') rfl, readNat_printfD ht (c := '!') rfl, if_true,
    Int.natAbs_of_nonneg hid, Int.natAbs_of_nonneg hp, Int.natAbs_of_nonneg ht]

/-- Its only `!` is at the end. -/
theorem text_stop : ∃ body, '!' ∉ body ∧ c.text = body ++ ['!'] := by
  have hdigits {w : Nat} {n : Int} (hn : 0 ≤ n) : '!' ∉ printfD w n := by
    intro hm
    cases isDigit_of_mem_printfD hn hm
  refine ⟨'#' :: (printfD 3 c.servoId ++ 'P' :: (printfD 4 c.pulse ++ 'T' :: printfD 0 c.timeMs)),
    ?_, by simp [ServoCmd.text]⟩
  simp [hdigits hid, hdigits hp, hdigits ht]

end Text

/-! ## The stream -/

/-- What the callers keep to. -/
def InRange : LineCall → Prop
  | .setAngle servoId _ timeMs => (0 ≤ servoId ∧ servoId ≤ 255) ∧ 0 ≤ timeMs ∧ timeMs ≤ 9999
  | .releaseTorque servoId => 0 ≤ servoId ∧ servoId ≤ 255
  | .restoreTorque servoId => 0 ≤ servoId ∧ servoId ≤ 255

/-- A call of `set_angle`. -/
def setsAngle : LineCall → Bool
  | .setAngle .. => true
  | _ => false

/-- What a call is to send: a command from `#` to `!`, and one that is read back. -/
structure WellFramed (c : LineCall) (cmd : List Char) : Prop where
  start : cmd.head? = some '#'
  stop : cmd.getLast? = some '!'
  decoded : ∀ servoId angle timeMs, c = .setAngle servoId angle timeMs →
    decode cmd = some ⟨servoId, pulseOf angle, timeMs⟩

/-- A number in range is short. -/
theorem length_printfD_le_of_le {w k : Nat} (hk : 0 < k) {n m : Int} (h0 : 0 ≤ n) (hle : n ≤ m)
    (hm : m < 10 ^ k) : (printfD w n).length ≤ max w k := by
  have hlt : n < 10 ^ k := hle.trans_lt hm
  refine length_printfD_le h0 hk ?_
  zify
  rwa [abs_of_nonneg h0]

/-- No text is too long for its buffer. -/
theorem snprintf_text {c : LineCall} (h : InRange c) : snprintf c.bufSize c.text = c.text := by
  have hservo {n : Int} (h0 : 0 ≤ n) (hle : n ≤ 255) : (printfD 3 n).length ≤ 3 :=
    length_printfD_le_of_le (k := 3) (by decide) h0 hle (by decide)
  apply snprintf_eq_self
  cases c with
  | setAngle servoId angle timeMs =>
    obtain ⟨⟨h0, h1⟩, ht0, ht1⟩ := h
    obtain ⟨hlo, hhi⟩ := pulseOf_bounds angle
    have hid := hservo h0 h1
    have hp : (printfD 4 (pulseOf angle)).length ≤ 4 :=
      length_printfD_le_of_le (k := 4) (by decide) (by omega) hhi (by decide)
    have ht : (printfD 0 timeMs).length ≤ 4 :=
      length_printfD_le_of_le (k := 4) (by decide) ht0 ht1 (by decide)
    simp only [LineCall.text, LineCall.bufSize, setAngle_eq, ServoCmd.text, List.length_cons,
      List.length_append, List.length_nil]
    omega
  | releaseTorque servoId | restoreTorque servoId =>
    have hid := hservo h.1 h.2
    simp only [LineCall.text, LineCall.bufSize, releaseText, restoreText, List.length_cons,
      List.length_append, List.length_nil]
    omega

/-- On an open port a text is written as it is. -/
theorem sent_eq {fd : Int} (hfd : 0 ≤ fd) {c : LineCall} (h : InRange c) : c.sent fd = c.text := by
  unfold LineCall.sent sendCommand
  rw [if_neg (Int.not_lt.mpr hfd), snprintf_text h]

theorem stream_eq {fd : Int} (hfd : 0 ≤ fd) {calls : List LineCall} (h : ∀ c ∈ calls, InRange c) :
    stream fd calls = (calls.map LineCall.text).flatten := by
  rw [stream, List.flatMap_def]
  exact congrArg List.flatten (List.map_congr_left fun c hc => sent_eq hfd (h c hc))

/-- The text of `set_angle` has one `!`, at the end. -/
theorem setAngle_text_stop {servoId timeMs : Int} {angle : Rat}
    (h : InRange (.setAngle servoId angle timeMs)) : ∃ body, '!' ∉ body ∧
      (LineCall.setAngle servoId angle timeMs).text = body ++ ['!'] := by
  obtain ⟨⟨h0, -⟩, ht0, -⟩ := h
  obtain ⟨hlo, -⟩ := pulseOf_bounds angle
  rw [LineCall.text, setAngle_eq]
  exact text_stop h0 (show 0 ≤ pulseOf angle by omega) ht0

/-- The `!`s of a text: that of `set_angle` has one, the others have none. -/
theorem count_text {c : LineCall} (h : InRange c) :
    c.text.count '!' = if setsAngle c then 1 else 0 := by
  have hno {n : Int} (hn : 0 ≤ n) : (printfD 3 n).count '!' = 0 := by
    refine List.count_eq_zero.mpr fun hm => ?_
    cases isDigit_of_mem_printfD hn hm
  cases c with
  | setAngle servoId angle timeMs =>
    obtain ⟨body, hb, he⟩ := setAngle_text_stop h
    rw [he, List.count_append, List.count_eq_zero.mpr hb]
    rfl
  | releaseTorque servoId | restoreTorque servoId =>
    simp [LineCall.text, releaseText, restoreText, setsAngle, List.count_append, hno h.1]

theorem count_stream {fd : Int} (hfd : 0 ≤ fd) {calls : List LineCall}
    (h : ∀ c ∈ calls, InRange c) : (stream fd calls).count '!' = calls.countP setsAngle := by
  rw [stream_eq hfd h]
  induction calls with
  | nil => rfl
  | cons c calls ih =>
    obtain ⟨hc, hcalls⟩ := List.forall_mem_cons.mp h
    rw [List.map_cons, List.flatten_cons, List.count_append, count_text hc, ih hcalls,
      List.countP_cons, Nat.add_comm]

theorem wellFramed_text {c : LineCall} (h : InRange c) (hs : setsAngle c = true) :
    WellFramed c c.text := by
  cases c with
  | releaseTorque | restoreTorque => cases hs
  | setAngle servoId angle timeMs =>
    obtain ⟨body, -, he⟩ := setAngle_text_stop h
    refine ⟨rfl, by rw [he, List.getLast?_concat], ?_⟩
    rintro _ _ _ ⟨⟩
    obtain ⟨⟨h0, -⟩, ht0, -⟩ := h
    obtain ⟨hlo, -⟩ := pulseOf_bounds angle
    rw [LineCall.text, setAngle_eq]
    exact decode_text h0 (show 0 ≤ pulseOf angle by omega) ht0

/-- The stream of a sequence of calls, cut after each `!`, is a command for each call
exactly when all of them set an angle. No text is cut off, and the pulses are monotone
in the angle and in their range. -/
theorem stream_wellFramed_iff (fd : Int) (hfd : 0 ≤ fd) (calls : List LineCall)
    (h : ∀ c ∈ calls, InRange c) :
    (List.Forall₂ WellFramed calls (cutAfter '!' (stream fd calls)) ↔
      ∀ c ∈ calls, setsAngle c = true) ∧
    (∀ c ∈ calls, snprintf c.bufSize c.text = c.text) ∧
    (∀ a b, a ≤ b → pulseOf a ≤ pulseOf b) ∧ ∀ a, 500 ≤ pulseOf a ∧ pulseOf a ≤ 2500 := by
  refine ⟨⟨fun hf => ?_, fun hs => ?_⟩, fun c hc => snprintf_text (h c hc), fun _ _ => pulseOf_mono,
    pulseOf_bounds⟩
  · -- Every piece has a `!`, and only the texts of `set_angle` do.
    have hflip : List.Forall₂ (fun t c => WellFramed c t) (cutAfter '!' (stream fd calls)) calls :=
      hf.flip
    have hstops := ((List.forall₂_and_left _ _).mp (hflip.imp fun t c hw =>
      (⟨List.mem_of_getLast? hw.stop, hw⟩ : '!' ∈ t ∧ WellFramed c t))).1
    have hle := length_le_count_flatten '!' hstops
    rw [flatten_cutAfter, count_stream hfd h, ← hf.length_eq] at hle
    exact List.countP_eq_length.mp (Nat.le_antisymm List.countP_le_length hle)
  · have hcut : cutAfter '!' (stream fd calls) = calls.map LineCall.text := by
      rw [stream_eq hfd h]
      refine cutAfter_flatten '!' fun t ht => ?_
      obtain ⟨c, hc, rfl⟩ := List.mem_map.mp ht
      have hs := hs c hc
      cases c with
      | releaseTorque | restoreTorque => cases hs
      | setAngle servoId angle timeMs => exact setAngle_text_stop (h _ hc)
    rw [hcut, List.forall₂_map_right_iff, List.forall₂_same]
    exact fun c hc => wellFramed_text (h c hc) (hs c hc)

/-- A servo is moved, and its torque released and restored. -/
def moveAndRelease : List LineCall :=
  [.setAngle 0 150 1000, .releaseTorque 255, .restoreTorque 255, .setAngle 2 50 500]

theorem stream_wellFramed_moveAndRelease :
    (List.Forall₂ WellFramed moveAndRelease (cutAfter '!' (stream 3 moveAndRelease)) ↔
      ∀ c ∈ moveAndRelease, setsAngle c = true) ∧
    (∀ c ∈ moveAndRelease, snprintf c.bufSize c.text = c.text) ∧
    (∀ a b, a ≤ b → pulseOf a ≤ pulseOf b) ∧ ∀ a, 500 ≤ pulseOf a ∧ pulseOf a ≤ 2500 :=
  stream_wellFramed_iff 3 (by decide) moveAndRelease (by simp [moveAndRelease, InRange])

/-- A command for the torque runs on into the next one. -/
theorem release_runs_on :
    cutAfter '!' (stream 3 [.releaseTorque 255, .setAngle 0 150 1000]) =
        ["#255PULK#000P1611T1000!".toList] ∧
      ¬List.Forall₂ WellFramed [.releaseTorque 255, .setAngle 0 150 1000]
        (cutAfter '!' (stream 3 [.releaseTorque 255, .setAngle 0 150 1000])) := by
  have hcut : cutAfter '!' (stream 3 [.releaseTorque 255, .setAngle 0 150 1000]) =
      ["#255PULK#000P1611T1000!".toList] := by decide +kernel
  refine ⟨hcut, fun hf => ?_⟩
  rw [hcut] at hf
  cases hf with
  | cons _ hf => cases hf

end TR.Proof.Arm
