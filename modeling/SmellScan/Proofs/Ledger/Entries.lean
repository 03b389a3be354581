import Mathlib.Data.Int.Notation
import SmellScan.Ledger
import SmellScan.Proofs.FirstWins

/-!
# What a ledger holds

A ledger keeps the first finding of each key, so what it holds after some findings is what it held
before and the firsts among the new keys (`entries_extend`). Merging is feeding the entries of
another ledger: it does not matter whether that one was merged with a third before
(`merge_assoc`) or was merged already (`merge_merge_self`).
-/

namespace SmellScan

/-- What makes two findings one detection: file, line and smell. -/
def Finding.key (f : Finding) : String × ℤ × String := (f.file, f.line, f.smell)

theorem Finding.sameKey_iff {f g : Finding} : f.sameKey g = true ↔ f.key = g.key := by
  simp [sameKey, key, and_assoc]

namespace Ledger

theorem ext {l l' : Ledger} (h : l.entries = l'.entries) : l = l' := by
  cases l
  cases l'
  exact congrArg Ledger.mk h

theorem holds_iff {l : Ledger} {f : Finding} :
    l.holds f = true ↔ f.key ∈ l.entries.map Finding.key := by
  simp only [holds, List.any_eq_true, Finding.sameKey_iff, List.mem_map]

theorem entries_add (l : Ledger) (f : Finding) :
    (l.add f).entries = addNew Finding.key l.entries f := by
  by_cases h : l.holds f = true
  · rw [add, if_pos h, addNew, if_pos (holds_iff.1 h)]
  · rw [add, if_neg h, addNew, if_neg fun hmem => h (holds_iff.2 hmem)]

theorem entries_extend_eq_foldl (l : Ledger) (fs : List Finding) :
    (l.extend fs).entries = fs.foldl (addNew Finding.key) l.entries := by
  induction fs generalizing l with
  | nil => rfl
  | cons f fs ih =>
    rw [extend, List.foldl_cons, List.foldl_cons, ← entries_add]
    exact ih (l.add f)

/-- **Feeding a ledger adds the firsts among the new keys.** -/
theorem entries_extend (l : Ledger) (fs : List Finding) :
    (l.extend fs).entries =
      l.entries ++ strangers Finding.key l.entries (firsts Finding.key fs) := by
  rw [entries_extend_eq_foldl, foldl_addNew]

theorem extend_extend (l : Ledger) (fs gs : List Finding) :
    (l.extend fs).extend gs = l.extend (fs ++ gs) :=
  List.foldl_append.symm

/-- A ledger that holds the firsts of what it was fed goes on doing so. -/
theorem entries_extend_firsts {l : Ledger} {fed : List Finding}
    (h : l.entries = firsts Finding.key fed) (fs : List Finding) :
    (l.extend fs).entries = firsts Finding.key (fed ++ fs) := by
  rw [entries_extend_eq_foldl, h, foldl_addNew_firsts]

theorem entries_empty_extend (fs : List Finding) :
    (empty.extend fs).entries = firsts Finding.key fs :=
  @entries_extend_firsts empty [] rfl fs

/-- Findings whose keys are held change nothing. -/
theorem extend_of_forall_holds {l : Ledger} {fs : List Finding}
    (h : ∀ f ∈ fs, f.key ∈ l.entries.map Finding.key) : l.extend fs = l := by
  refine ext ?_
  rw [entries_extend, strangers, List.filter_eq_nil_iff.2, List.append_nil]
  intro f hf
  simpa using h f ((firsts_sublist Finding.key fs).subset hf)

/-- Only the firsts of what is fed matter. -/
theorem extend_congr {fs gs : List Finding} (h : firsts Finding.key fs = firsts Finding.key gs)
    (l : Ledger) : l.extend fs = l.extend gs := by
  refine ext ?_
  rw [entries_extend, entries_extend, h]

/-! ## Merging -/

theorem merge_self (l : Ledger) : l.merge l = l :=
  extend_of_forall_holds fun _ hf => List.mem_map_of_mem hf

/-- **Merging a ledger twice is merging it once.** -/
theorem merge_merge_self (l m : Ledger) : (l.merge m).merge m = l.merge m := by
  refine extend_of_forall_holds fun f hf => ?_
  rw [merge, entries_extend, mem_map_append_strangers, mem_map_firsts]
  exact Or.inr (List.mem_map_of_mem hf)

/-- **Merging is associative.** -/
theorem merge_assoc (l m n : Ledger) : (l.merge m).merge n = l.merge (m.merge n) := by
  rw [merge, merge, extend_extend, merge, merge, entries_extend]
  refine extend_congr ?_ l
  -- what `m` holds already is dropped on either side
  rw [firsts_append, firsts_append, firsts_strangers, firsts_firsts, strangers_strangers]

end Ledger

end SmellScan
