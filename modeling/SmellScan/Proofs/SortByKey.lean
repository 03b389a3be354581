import Mathlib.Data.List.Basic
import Mathlib.Data.List.Nodup

/-!
# Sorting by a key

Elements whose keys all differ have one sorted arrangement. In it the keys ascend strictly
(`pairwise_mergeSort_key`), and it does not depend on the order in which the elements came
(`mergeSort_key_congr`). Among pairs of a key and a value, looking a key up is then finding its pair
(`lookup_eq_some_iff_mem`).
-/

namespace SmellScan

variable {α κ : Type} (key : α → κ) (r : κ → κ → Prop) [DecidableRel r]

/-- Elements sorted by keys that differ are in strictly ascending order. -/
theorem pairwise_mergeSort_key (htrans : ∀ a b c, r a b → r b c → r a c)
    (htotal : ∀ a b, r a b ∨ r b a) {as : List α} (hkeys : (as.map key).Nodup) :
    (as.mergeSort fun a b => r (key a) (key b)).Pairwise
      fun a b => r (key a) (key b) ∧ key a ≠ key b := by
  have hsorted : (as.mergeSort fun a b => r (key a) (key b)).Pairwise
      fun a b => r (key a) (key b) := by
    have h := @List.pairwise_mergeSort _ (fun a b => decide (r (key a) (key b)))
      (fun a b c => by simpa using htrans (key a) (key b) (key c))
      (fun a b => by simpa using htotal (key a) (key b)) as
    exact h.imp of_decide_eq_true
  have hne : (as.mergeSort fun a b => r (key a) (key b)).Pairwise fun a b => key a ≠ key b := by
    rw [← List.pairwise_map]
    exact ((List.mergeSort_perm as _).map key).nodup_iff.2 hkeys
  exact hsorted.and hne

/-- The order in which the elements came does not matter. -/
theorem mergeSort_key_congr (htrans : ∀ a b c, r a b → r b c → r a c)
    (htotal : ∀ a b, r a b ∨ r b a) (hanti : ∀ a b, r a b → r b a → a = b) {as bs : List α}
    (hkeys : (as.map key).Nodup) (hperm : bs.Perm as) :
    (bs.mergeSort fun a b => r (key a) (key b)) = as.mergeSort fun a b => r (key a) (key b) := by
  have hkeys' : (bs.map key).Nodup := (hperm.map key).nodup_iff.2 hkeys
  refine List.Perm.eq_of_pairwise ?_ (pairwise_mergeSort_key key r htrans htotal hkeys')
    (pairwise_mergeSort_key key r htrans htotal hkeys)
    (((List.mergeSort_perm _ _).trans hperm).trans (List.mergeSort_perm _ _).symm)
  rintro a b _ _ ⟨hab, hne⟩ ⟨hba, -⟩
  exact absurd (hanti _ _ hab hba) hne

/-- Where keys differ, looking one up is finding its pair. -/
theorem lookup_eq_some_iff_mem [BEq κ] [LawfulBEq κ] {pairs : List (κ × α)}
    (hkeys : (pairs.map Prod.fst).Nodup) {k : κ} {a : α} :
    pairs.lookup k = some a ↔ (k, a) ∈ pairs := by
  induction pairs with
  | nil => simp
  | cons e pairs ih =>
    obtain ⟨k', a'⟩ := e
    obtain ⟨hk', hpairs⟩ := List.nodup_cons.1 hkeys
    rw [List.lookup_cons, List.mem_cons]
    by_cases hk : k = k'
    · subst hk
      have hnot : (k, a) ∉ pairs := fun h => hk' (List.mem_map.2 ⟨_, h, rfl⟩)
      simp [hnot, eq_comm]
    · rw [beq_eq_false_iff_ne.2 hk]
      simp only [Prod.mk.injEq, hk, false_and, false_or]
      exact ih hpairs

end SmellScan
