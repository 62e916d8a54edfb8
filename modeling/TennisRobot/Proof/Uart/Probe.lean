import TennisRobot.Proof.Uart.Stream

/-!
# The probe

`test_uart_probe` asks a port for an answer and says by its exit code what is there. It
reads from 256 bytes, gives up after two seconds of silence, and takes 50 ms of it for the
end once something has come: unlike `recv_frame`, it returns whatever the line delivers
(`within_probeRead`). Its exit code is that of `Verdict`, of the bytes that have come
(`probeExit_iff`); it reads no others.
-/

namespace TR.Proof.Uart

open TR.Impl.Uart TR.Reader

/-! ## The exit code -/

/-- What an exit code says of the bytes that have come: `g` is what stands before the first
start of a frame. -/
inductive Verdict : List UInt8 → Int → Prop
  /-- Nothing. -/
  | noReply : Verdict [] 2
  /-- No start of a frame. -/
  | noHeader {raw : List UInt8} (hne : raw ≠ []) (h : ¬[FRAME_SOF0, FRAME_SOF1] <:+: raw) :
    Verdict raw 3
  /-- A frame that is not whole. -/
  | incomplete {g tail : List UInt8} (hg : ¬[FRAME_SOF0, FRAME_SOF1] <:+: g)
    (h : ∀ cmd len more, tail = cmd :: len :: more → more.length ≤ len.toNat) :
    Verdict (g ++ FRAME_SOF0 :: FRAME_SOF1 :: tail) 4
  /-- A frame with a checksum that is wrong. -/
  | badChecksum {g payload more : List UInt8} {cmd len chk : UInt8}
    (hg : ¬[FRAME_SOF0, FRAME_SOF1] <:+: g) (hlen : payload.length = len.toNat)
    (h : chk ≠ checksum cmd len payload) :
    Verdict (g ++ FRAME_SOF0 :: FRAME_SOF1 :: (bodyBytes cmd len payload chk ++ more)) 5
  /-- A frame. -/
  | motor {g payload more : List UInt8} {cmd len : UInt8}
    (hg : ¬[FRAME_SOF0, FRAME_SOF1] <:+: g) (hlen : payload.length = len.toNat) :
    Verdict (g ++ FRAME_SOF0 :: FRAME_SOF1 ::
      (bodyBytes cmd len payload (checksum cmd len payload) ++ more)) 0

/-- A first start of a frame is where the scan finds it, or there is none. -/
theorem scanHeader_cases (raw : List UInt8) :
    (scanHeader raw = none ∧ ¬[FRAME_SOF0, FRAME_SOF1] <:+: raw) ∨
      ∃ g tail, raw = g ++ FRAME_SOF0 :: FRAME_SOF1 :: tail ∧ ¬[FRAME_SOF0, FRAME_SOF1] <:+: g := by
  induction raw with
  | nil => exact .inl ⟨rfl, by decide⟩
  | cons a raw ih =>
    rcases ih with ⟨hnone, hraw⟩ | ⟨g, tail, rfl, hg⟩
    · cases raw with
      | nil => exact .inl ⟨rfl, fun h => by simpa using h.length_le⟩
      | cons b raw =>
        by_cases hab : a = FRAME_SOF0 ∧ b = FRAME_SOF1
        · obtain ⟨rfl, rfl⟩ := hab
          exact .inr ⟨[], raw, rfl, by decide⟩
        · refine .inl ⟨by rw [scanHeader, if_neg hab, hnone]; rfl, fun h => ?_⟩
          rcases List.infix_cons_iff.mp h with h | h
          · obtain ⟨ha, h'⟩ := List.cons_prefix_cons.mp h
            exact hab ⟨ha.symm, (List.cons_prefix_cons.mp h').1.symm⟩
          · exact hraw h
    · by_cases hag : [FRAME_SOF0, FRAME_SOF1] <:+: a :: g
      · rcases List.infix_cons_iff.mp hag with h | h
        · obtain ⟨rest, hrest⟩ := h
          obtain ⟨rfl, rfl⟩ := List.cons.inj hrest
          exact .inr ⟨[], rest ++ FRAME_SOF0 :: FRAME_SOF1 :: tail, rfl, by decide⟩
        · exact absurd h hg
      · exact .inr ⟨a :: g, tail, rfl, hag⟩

/-- The bytes behind `LEN`. -/
theorem getElem?_behind (g more : List UInt8) (a b cmd len : UInt8) (k : Nat) :
    (g ++ a :: b :: cmd :: len :: more)[g.length + 4 + k]? = more[k]? := by
  rw [List.getElem?_append_right (by omega), show g.length + 4 + k - g.length = k + 4 by omega]
  rfl

section Behind

variable {g : List UInt8} (hg : ¬[FRAME_SOF0, FRAME_SOF1] <:+: g)

include hg

theorem probeExit_short {tail : List UInt8} (h : tail.length < 3) :
    probeExit (g ++ FRAME_SOF0 :: FRAME_SOF1 :: tail) = some 4 := by
  have hlen : (g ++ FRAME_SOF0 :: FRAME_SOF1 :: tail).length = g.length + 2 + tail.length := by
    simp only [List.length_append, List.length_cons]
    omega
  rw [probeExit, if_neg (by omega), scanHeader_append hg]
  exact if_pos (by omega)

/-- The exit code, with `CMD` and `LEN` behind the first start of a frame. -/
theorem probeExit_append (cmd len : UInt8) {more : List UInt8} (hmore : more ≠ []) :
    probeExit (g ++ FRAME_SOF0 :: FRAME_SOF1 :: cmd :: len :: more) =
      if more.length ≤ len.toNat then some 4
      else if more[len.toNat]? = some (checksum cmd len (more.take len.toNat)) then some 0
      else some 5 := by
  have hpos := List.length_pos_iff.mpr hmore
  set raw := g ++ FRAME_SOF0 :: FRAME_SOF1 :: cmd :: len :: more with hraw
  have hlen : raw.length = g.length + 4 + more.length := by
    simp only [hraw, List.length_append, List.length_cons]
    omega
  have hcmd : raw[g.length + 2]? = some cmd := by simp [hraw]
  have hlen' : raw[g.length + 3]? = some len := by simp [hraw]
  have hget (k : Nat) : raw[g.length + 4 + k]? = more[k]? := getElem?_behind ..
  rw [probeExit, if_neg (by omega), scanHeader_append hg]
  simp only [hcmd, hlen', hget, Option.bind_eq_bind, Option.bind_some]
  rw [if_neg (by omega)]
  by_cases hshort : more.length ≤ len.toNat
  · rw [if_pos (by omega), if_pos hshort]
    rfl
  · have hlt : len.toNat < more.length := by omega
    rw [if_neg (by omega), if_neg hshort, foldlM_getElem?, if_pos hlt.le,
      List.getElem?_eq_getElem hlt]
    simp only [Option.bind_some, Option.some.injEq]
    rw [← checksum]
    split <;> rfl

/-- The exit code for a frame that is whole. -/
theorem probeExit_frame {cmd len : UInt8} {payload : List UInt8}
    (hlen : payload.length = len.toNat) (chk : UInt8) (more : List UInt8) :
    probeExit (g ++ FRAME_SOF0 :: FRAME_SOF1 :: (bodyBytes cmd len payload chk ++ more)) =
      if chk = checksum cmd len payload then some 0 else some 5 := by
  have hbody : bodyBytes cmd len payload chk ++ more = cmd :: len :: (payload ++ chk :: more) := by
    simp [bodyBytes]
  have hchk : (payload ++ chk :: more)[len.toNat]? = some chk := by simp [← hlen]
  have htake : (payload ++ chk :: more).take len.toNat = payload := by
    rw [← hlen, List.take_left]
  have hlong : ¬(payload ++ chk :: more).length ≤ len.toNat := by
    rw [List.length_append, List.length_cons]
    omega
  rw [hbody, probeExit_append hg cmd len (by simp), if_neg hlong, hchk, htake]
  simp only [Option.some.injEq]

end Behind

/-- The exit code is that of the verdict. -/
theorem probeExit_of_verdict {raw : List UInt8} {code : Int} (h : Verdict raw code) :
    probeExit raw = some code := by
  cases h with
  | noReply => rfl
  | noHeader hne h =>
    rcases scanHeader_cases raw with ⟨hnone, -⟩ | ⟨g, tail, rfl, -⟩
    · rw [probeExit, if_neg (by simpa using hne), hnone]
    · exact absurd ⟨g, tail, by simp⟩ h
  | @incomplete g tail hg h =>
    match tail with
    | [] => exact probeExit_short hg (by simp)
    | [_] => exact probeExit_short hg (by simp)
    | [_, _] => exact probeExit_short hg (by simp)
    | cmd :: len :: x :: more =>
      rw [probeExit_append hg cmd len (List.cons_ne_nil x more), if_pos (h cmd len _ rfl)]
  | badChecksum hg hlen h => rw [probeExit_frame hg hlen, if_neg h]
  | motor hg hlen => rw [probeExit_frame hg hlen, if_pos rfl]

/-- Whatever has come, there is a verdict. -/
theorem exists_verdict (raw : List UInt8) : ∃ code, Verdict raw code := by
  by_cases hne : raw = []
  · exact ⟨2, hne ▸ .noReply⟩
  rcases scanHeader_cases raw with ⟨-, h⟩ | ⟨g, tail, rfl, hg⟩
  · exact ⟨3, .noHeader hne h⟩
  match tail with
  | [] => exact ⟨4, .incomplete hg fun _ _ _ h => by cases h⟩
  | [_] => exact ⟨4, .incomplete hg fun _ _ _ h => by cases h⟩
  | cmd :: len :: more =>
    by_cases hshort : more.length ≤ len.toNat
    · exact ⟨4, .incomplete hg fun _ _ _ h => by cases h; exact hshort⟩
    · have hlt : len.toNat < more.length := Nat.not_le.mp hshort
      have hlen : (more.take len.toNat).length = len.toNat := List.length_take_of_le hlt.le
      have hbody : cmd :: len :: more =
          bodyBytes cmd len (more.take len.toNat) more[len.toNat] ++ more.drop (len.toNat + 1) := by
        simp [bodyBytes]
      rw [hbody]
      by_cases hchk : more[len.toNat] = checksum cmd len (more.take len.toNat)
      · rw [hchk]
        exact ⟨0, .motor hg hlen⟩
      · exact ⟨5, .badChecksum hg hlen hchk⟩

theorem probeExit_iff {raw : List UInt8} {code : Int} :
    probeExit raw = some code ↔ Verdict raw code := by
  refine ⟨fun h => ?_, probeExit_of_verdict⟩
  obtain ⟨code', hv⟩ := exists_verdict raw
  rw [probeExit_of_verdict hv] at h
  exact Option.some.inj h ▸ hv

/-! ## Reading -/

section Read

variable {budgetMs : Int} {raw : List UInt8} {l : List Outcome}

theorem probeRead_stop (h : ¬(raw.length < 256 ∧ budgetMs > 0)) (l : List Outcome) :
    probeRead budgetMs raw l = .done raw l := by
  rw [probeRead.eq_def, if_neg h]

theorem probeRead_some (h : raw.length < 256 ∧ budgetMs > 0) (b : UInt8) :
    probeRead budgetMs raw (some b :: l) = probeRead budgetMs (raw ++ [b]) l := by
  rw [probeRead.eq_def, if_pos h]

theorem probeRead_none (h : raw.length < 256 ∧ budgetMs > 0) :
    probeRead budgetMs raw (none :: l) =
      if raw.length > 0 then .done raw l else probeRead (budgetMs - 50) raw l := by
  rw [probeRead.eq_def, if_pos h]

end Read

/-- Once something has come, as many reads as there is room for end it. -/
theorem within_probeRead_pos (budgetMs : Int) {raw : List UInt8} (h0 : 0 < raw.length)
    {n : Nat} (hn : 256 ≤ raw.length + n) : Within n (probeRead budgetMs raw) := by
  induction n generalizing raw with
  | zero => exact fun l _ => ⟨raw, l, probeRead_stop (by omega) l, by omega⟩
  | succ n ih =>
    intro l hl
    by_cases h : raw.length < 256 ∧ budgetMs > 0
    · match l, hl with
      | none :: l, hl =>
        refine ⟨raw, l, by rw [probeRead_none h, if_pos h0], ?_⟩
        rw [List.length_cons]
        omega
      | some b :: l, hl =>
        have hraw : (raw ++ [b]).length = raw.length + 1 := List.length_append
        obtain ⟨raw', rest, hr, hlen⟩ := ih (show 0 < (raw ++ [b]).length by omega) (by omega) l
          (Nat.le_of_succ_le_succ hl)
        refine ⟨raw', rest, by rw [probeRead_some h, hr], ?_⟩
        rw [List.length_cons]
        omega
    · exact ⟨raw, l, probeRead_stop h l, by omega⟩

/-- Before that, a silent read takes 50 ms off the budget. -/
theorem within_probeRead_step {budgetMs : Int} {n : Nat} (hn : 255 ≤ n)
    (h : Within n (probeRead (budgetMs - 50) [])) : Within (n + 1) (probeRead budgetMs []) := by
  intro l hl
  by_cases hb : budgetMs > 0
  · have hgo : ([] : List UInt8).length < 256 ∧ budgetMs > 0 := ⟨by decide, hb⟩
    have one (b : UInt8) : Within n (probeRead budgetMs [b]) :=
      within_probeRead_pos budgetMs (List.length_pos_of_mem (List.mem_singleton_self b))
        (by rw [List.length_singleton]; omega)
    match l, hl with
    | none :: l, hl =>
      obtain ⟨raw, rest, hr, hlen⟩ := h l (Nat.le_of_succ_le_succ hl)
      refine ⟨raw, rest, ?_, by rw [List.length_cons]; omega⟩
      rw [probeRead_none hgo, if_neg (by decide), hr]
    | some b :: l, hl =>
      obtain ⟨raw, rest, hr, hlen⟩ := one b l (Nat.le_of_succ_le_succ hl)
      exact ⟨raw, rest, (probeRead_some hgo b).trans hr, by rw [List.length_cons]; omega⟩
  · exact ⟨[], l, probeRead_stop (fun hc => hb hc.2) l, by omega⟩

theorem within_probeRead {budgetMs : Int} {k : Nat} (hk : budgetMs ≤ 50 * (k + 1 : Int)) :
    Within (k + 256) (probeRead budgetMs []) := by
  induction k generalizing budgetMs with
  | zero =>
    refine within_probeRead_step (n := 255) (Nat.le_refl _) fun l _ => ?_
    exact ⟨[], l, probeRead_stop (by omega) l, by omega⟩
  | succ k ih => exact within_probeRead_step (n := k + 256) (by omega) (ih (by omega))

/-- The bytes that are in `raw` are those that have come. -/
theorem bytes_of_probeRead {budgetMs : Int} {raw raw' : List UInt8} {l rest : List Outcome}
    (h : probeRead budgetMs raw l = .done raw' rest) (hraw : raw.length ≤ 256) :
    raw'.length ≤ 256 ∧ ∃ read, l = read ++ rest ∧ raw' = raw ++ read.filterMap id := by
  induction l generalizing budgetMs raw with
  | nil =>
    rw [probeRead.eq_def] at h
    split at h
    · cases h
    · obtain ⟨rfl, rfl⟩ := Read.done.inj h
      exact ⟨hraw, [], rfl, (List.append_nil _).symm⟩
  | cons o l ih =>
    by_cases hgo : raw.length < 256 ∧ budgetMs > 0
    · cases o with
      | none =>
        rw [probeRead_none hgo] at h
        split at h
        · obtain ⟨rfl, rfl⟩ := Read.done.inj h
          exact ⟨hraw, [none], rfl, (List.append_nil _).symm⟩
        · obtain ⟨hlen, read, rfl, rfl⟩ := ih h hraw
          exact ⟨hlen, none :: read, rfl, rfl⟩
      | some b =>
        rw [probeRead_some hgo] at h
        obtain ⟨hlen, read, rfl, rfl⟩ := ih h (by rw [List.length_append]; exact hgo.1)
        exact ⟨hlen, some b :: read, rfl, List.append_assoc _ _ _⟩
    · rw [probeRead_stop hgo] at h
      obtain ⟨rfl, rfl⟩ := Read.done.inj h
      exact ⟨hraw, [], rfl, (List.append_nil _).symm⟩

/-- The probe returns after 295 reads at most, whatever the line delivers, and what it
returns is the verdict on the bytes that have come; it never looks at others. -/
theorem probeMain_returns (l : List Outcome) (hl : 295 ≤ l.length) :
    ∃ code read rest, probeMain true l = .done (some code) rest ∧ l = read ++ rest ∧
      read.length ≤ 295 ∧ (read.filterMap id).length ≤ 256 ∧
      ∀ c, Verdict (read.filterMap id) c ↔ c = code := by
  have hwithin : Within 295 (probeRead 2000 []) := within_probeRead (k := 39) (by decide)
  obtain ⟨raw, rest, hr, hlen⟩ := hwithin l hl
  obtain ⟨hraw, read, rfl, rfl⟩ := bytes_of_probeRead hr (by decide)
  rw [List.nil_append] at hr hraw
  obtain ⟨code, hv⟩ := exists_verdict (read.filterMap id)
  refine ⟨code, read, rest, ?_, rfl, ?_, hraw, fun c => ?_⟩
  · rw [← probeExit_of_verdict hv]
    exact bind_of_done hr
  · rw [List.length_append] at hlen
    omega
  · rw [← probeExit_iff, probeExit_of_verdict hv, Option.some.injEq, eq_comm]

-- 294 reads are not enough: a byte may come just before the two seconds are over.
example : probeMain true (List.replicate 39 none ++ List.replicate 255 (some 0)) = .pending := by
  decide +kernel

theorem probeMain_returns_silent :
    ∃ code read rest, probeMain true (List.replicate 295 none) = .done (some code) rest ∧
      List.replicate 295 none = read ++ rest ∧ read.length ≤ 295 ∧
      (read.filterMap id).length ≤ 256 ∧ ∀ c, Verdict (read.filterMap id) c ↔ c = code :=
  probeMain_returns (List.replicate 295 none) (by rw [List.length_replicate])

end TR.Proof.Uart
