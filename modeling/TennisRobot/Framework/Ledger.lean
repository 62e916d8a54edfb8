import Mathlib.Data.List.Basic
import Mathlib.Data.Multiset.AddSub
import Mathlib.Logic.Function.Basic
import TennisRobot.Framework.Machine

/-!
# Resources that are taken and given back

A trace of calls takes resources and gives them back (`Move`). `settle` keeps the
ledger of what is held: it fails when a resource is taken that is held, or one given
back that is not, so that a trace that settles to nothing gives back exactly once
whatever it takes. Traces settle one after the other (`settle_append`), and one inside
the other (`settle_bracket`). `settleAll` does the same where a resource may be there
more than once: it ends in what there is of each.

`Guarded e P t` says that wherever `e` stands in `t`, what is before it satisfies `P`;
for two traces one after the other it is `guarded_append`, and for the outputs of a
machine `guarded_outputs`, step by step.
-/

namespace TR

variable {κ α : Type}

/-- A resource is taken or given back. -/
inductive Move (κ : Type)
  | take (k : κ)
  | give (k : κ)

/-- A ledger with nothing in it. -/
def nothing : κ → Bool := fun _ => false

section Settle

variable [DecidableEq κ]

/-- The ledger after a move. -/
def Move.apply (held : κ → Bool) : Move κ → Option (κ → Bool)
  | .take k => if held k then none else some (Function.update held k true)
  | .give k => if held k then some (Function.update held k false) else none

/-- The ledger after some moves. -/
def settle (held : κ → Bool) (moves : List (Move κ)) : Option (κ → Bool) :=
  moves.foldlM Move.apply held

variable {held held' : κ → Bool} {k : κ} {moves : List (Move κ)}

@[simp] theorem settle_nil : settle held [] = some held := rfl

theorem settle_take (h : held k = false) :
    settle held (.take k :: moves) = settle (Function.update held k true) moves := by
  rw [settle, List.foldlM_cons, Move.apply, h]
  rfl

theorem settle_give (h : held k = true) :
    settle held (.give k :: moves) = settle (Function.update held k false) moves := by
  rw [settle, List.foldlM_cons, Move.apply, h]
  rfl

theorem settle_append (m : List (Move κ)) (h : settle held moves = some held') :
    settle held (moves ++ m) = settle held' m := by
  rw [settle, List.foldlM_append]
  show (settle held moves).bind _ = _
  rw [h]
  rfl

/-- A resource that is taken, and given back when the moves between have left the
ledger as it was. -/
theorem settle_bracket (h : held k = false)
    (hm : settle (Function.update held k true) moves = some (Function.update held k true)) :
    settle held (.take k :: (moves ++ [.give k])) = some held := by
  rw [settle_take h, settle_append _ hm, settle_give (Function.update_self k true held), settle_nil,
    Function.update_idem, ← h, Function.update_eq_self]

theorem settle_pair (h : held k = false) : settle held [.take k, .give k] = some held := by
  show settle held (.take k :: ([] ++ [.give k])) = _
  exact settle_bracket h rfl

end Settle

/-! ## Resources in any number -/

section SettleAll

variable [DecidableEq κ]

/-- What is live after a move. -/
def Move.applyAll (live : Multiset κ) : Move κ → Option (Multiset κ)
  | .take k => some (k ::ₘ live)
  | .give k => if k ∈ live then some (live.erase k) else none

/-- What is live after some moves. -/
def settleAll (live : Multiset κ) (moves : List (Move κ)) : Option (Multiset κ) :=
  moves.foldlM Move.applyAll live

variable {live live' : Multiset κ} {moves : List (Move κ)}

@[simp] theorem settleAll_nil : settleAll live [] = some live := rfl

theorem settleAll_take (k : κ) :
    settleAll live (.take k :: moves) = settleAll (k ::ₘ live) moves := rfl

theorem settleAll_give (k : κ) :
    settleAll (k ::ₘ live) (.give k :: moves) = settleAll live moves := by
  rw [settleAll, List.foldlM_cons, Move.applyAll, if_pos (Multiset.mem_cons_self k live),
    Multiset.erase_cons_head]
  rfl

theorem settleAll_append (m : List (Move κ)) (h : settleAll live moves = some live') :
    settleAll live (moves ++ m) = settleAll live' m := by
  rw [settleAll, List.foldlM_append]
  show (settleAll live moves).bind _ = _
  rw [h]
  rfl

theorem settleAll_takes (l : List κ) : settleAll live (l.map .take) = some (l + live) := by
  induction l generalizing live with
  | nil => exact congrArg some (Multiset.zero_add live).symm
  | cons k l ih =>
    rw [List.map_cons, settleAll_take, ih, ← Multiset.cons_coe, Multiset.cons_add,
      Multiset.add_cons]

/-- All that is live is given back, each once. -/
theorem settleAll_gives (l : List κ) : settleAll (l : Multiset κ) (l.map .give) = some 0 := by
  induction l with
  | nil => rfl
  | cons k l ih =>
    rw [← Multiset.cons_coe, List.map_cons, settleAll_give]
    exact ih

end SettleAll

/-! ## What stands before an event -/

/-- Wherever `e` stands in `t`, what is before it satisfies `P`. -/
def Guarded (e : α) (P : List α → Prop) (t : List α) : Prop :=
  ∀ pre post, t = pre ++ e :: post → P pre

section Guarded

variable {e : α} {P : List α → Prop} {t u : List α}

theorem guarded_of_not_mem (h : e ∉ t) : Guarded e P t := by
  rintro pre post rfl
  exact absurd (List.mem_append_right pre List.mem_cons_self) h

theorem guarded_append :
    Guarded e P (t ++ u) ↔ Guarded e P t ∧ Guarded e (fun pre => P (t ++ pre)) u := by
  refine ⟨fun h => ⟨?_, ?_⟩, ?_⟩
  · rintro pre post rfl
    exact h pre (post ++ u) (by simp)
  · rintro pre post rfl
    exact h (t ++ pre) post (by simp)
  · rintro ⟨ht, hu⟩ pre post he
    rcases List.append_eq_append_iff.mp he with ⟨m, rfl, hm⟩ | ⟨m, rfl, hm⟩
    · exact hu m post hm
    · cases m with
      | nil => exact (List.append_nil pre).symm ▸ by simpa using hu [] post (by simpa using hm.symm)
      | cons x m =>
        obtain ⟨rfl, -⟩ := List.cons.inj hm
        exact ht pre m rfl

/-- A single event. -/
theorem guarded_singleton : Guarded e P [e] ↔ P [] := by
  refine ⟨fun h => h [] [] rfl, fun h pre post he => ?_⟩
  cases pre with
  | nil => exact h
  | cons x pre =>
    have hne : pre ++ e :: post ≠ [] :=
      List.append_ne_nil_of_right_ne_nil pre (List.cons_ne_nil e post)
    exact absurd (List.cons.inj he).2.symm hne

/-- A single event among others. -/
theorem guarded_middle {pre post : List α} (hpre : e ∉ pre) (hpost : e ∉ post) :
    Guarded e P (pre ++ e :: post) ↔ P pre := by
  rw [← List.singleton_append, guarded_append, guarded_append, guarded_singleton, List.append_nil]
  refine ⟨fun h => h.2.1, fun h => ⟨guarded_of_not_mem hpre, h, guarded_of_not_mem hpost⟩⟩

end Guarded

/-- What guards `e` in the outputs of a run guards it in those of each of its steps. -/
theorem guarded_outputs {σ ι ω : Type} (m : Machine σ ι ω) (s : σ) {e : ω} {P : List ω → Prop}
    (is : List ι) : Guarded e P (m.outputs s is) ↔ ∀ pre i post, is = pre ++ i :: post →
      Guarded e (fun out => P (m.outputs s pre ++ out)) (m.step (m.run s pre) i).2 := by
  induction is using List.reverseRecOn with
  | nil =>
    have he : e ∉ m.outputs s [] := List.not_mem_nil
    refine iff_of_true (guarded_of_not_mem he) fun pre i post h => ?_
    exact absurd h.symm (List.append_ne_nil_of_right_ne_nil pre (List.cons_ne_nil i post))
  | append_singleton is j ih =>
    rw [m.outputs_snoc, guarded_append, ih]
    refine ⟨fun ⟨hinit, hlast⟩ pre i post h => ?_, fun h => ⟨fun pre i post hi => ?_, ?_⟩⟩
    · rcases List.eq_nil_or_concat post with rfl | ⟨post, k, rfl⟩
      · obtain ⟨rfl, hj⟩ := List.append_inj' h rfl
        cases List.singleton_inj.mp hj
        exact hlast
      · rw [List.concat_eq_append, ← List.cons_append, ← List.append_assoc] at h
        exact hinit pre i post (List.append_inj' h rfl).1
    · exact h pre i (post ++ [j]) (by rw [hi, List.append_assoc, List.cons_append])
    · exact h is j [] rfl

end TR
