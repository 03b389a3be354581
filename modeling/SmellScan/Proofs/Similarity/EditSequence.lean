import Mathlib.Order.Bounds.Defs
import SmellScan.Proofs.Similarity.EditScript

/-!
# Edits in any order

A script goes through two lists from the left and never comes back. Edits as one thinks of them are
made one after the other, each anywhere in what the edits before have left: an element comes, goes
or is replaced (`Edit`). This module shows that going back and forth does not help.

* One edit is a script with one edit (`Edit.script`), and two scripts one after the other make one
  script with at most as many edits (`EditScript.trans`); so a sequence of edits gives a script
  that is no longer (`exists_script_of_run`).
* A script is a sequence of edits, made from the left (`exists_run_of_script`).

Hence the distance is the least number of edits that turn one list into another, in whatever order
and wherever they are made (`editDistance_isLeast`).
-/

namespace SmellScan.Similarity

variable {α : Type} {as bs cs : List α} {m n : ℕ}

/-! ## One script after another -/

namespace EditScript

/-- A script that starts from two parts has a part for each. -/
theorem split {xs ys : List α} (h : EditScript (xs ++ ys) cs n) :
    ∃ us vs k l, cs = us ++ vs ∧ k + l = n ∧ EditScript xs us k ∧ EditScript ys vs l := by
  generalize hzs : xs ++ ys = zs at h
  induction h generalizing xs with
  | nil =>
    obtain ⟨rfl, rfl⟩ := List.append_eq_nil_iff.1 hzs
    exact ⟨[], [], 0, 0, rfl, rfl, nil, nil⟩
  | @keep a zs cs n h ih =>
    rcases List.append_eq_cons_iff.1 hzs with ⟨rfl, rfl⟩ | ⟨xs, rfl, rfl⟩
    · exact ⟨[], a :: cs, 0, n, rfl, Nat.zero_add n, nil, keep a h⟩
    · obtain ⟨us, vs, k, l, rfl, rfl, hu, hv⟩ := ih rfl
      exact ⟨a :: us, vs, k, l, rfl, rfl, keep a hu, hv⟩
  | @replace a b zs cs n h ih =>
    rcases List.append_eq_cons_iff.1 hzs with ⟨rfl, rfl⟩ | ⟨xs, rfl, rfl⟩
    · exact ⟨[], b :: cs, 0, n + 1, rfl, Nat.zero_add _, nil, replace a b h⟩
    · obtain ⟨us, vs, k, l, rfl, rfl, hu, hv⟩ := ih rfl
      exact ⟨b :: us, vs, k + 1, l, rfl, by omega, replace a b hu, hv⟩
  | @delete a zs cs n h ih =>
    rcases List.append_eq_cons_iff.1 hzs with ⟨rfl, rfl⟩ | ⟨xs, rfl, rfl⟩
    · exact ⟨[], cs, 0, n + 1, rfl, Nat.zero_add _, nil, delete a h⟩
    · obtain ⟨us, vs, k, l, rfl, rfl, hu, hv⟩ := ih rfl
      exact ⟨us, vs, k + 1, l, rfl, by omega, delete a hu, hv⟩
  | insert b _ ih =>
    obtain ⟨us, vs, k, l, rfl, rfl, hu, hv⟩ := ih hzs
    exact ⟨b :: us, vs, k + 1, l, rfl, by omega, insert b hu, hv⟩

/-- An element in front may be another one, or be missing, at the price of one edit. -/
theorem exists_le_succ {b : α} (h : EditScript [b] cs n) (as : List α) (has : as.length ≤ 1) :
    ∃ k ≤ n + 1, EditScript as cs k := by
  obtain ⟨k, hk, hscript⟩ := exists_le_max as cs
  have hlength := h.length_le
  rw [List.length_singleton] at hlength
  exact ⟨k, by omega, hscript⟩

/-- **Two scripts one after the other** make one with at most as many edits. -/
theorem trans (h : EditScript as bs m) (h' : EditScript bs cs n) :
    ∃ k ≤ m + n, EditScript as cs k := by
  -- what becomes of the first element of `bs` is split off from the second script
  induction h generalizing cs n with
  | nil => exact ⟨n, by omega, h'⟩
  | delete a _ ih =>
    obtain ⟨k, hk, hscript⟩ := ih h'
    exact ⟨k + 1, by omega, delete a hscript⟩
  | @keep a as bs m _ ih =>
    obtain ⟨us, vs, k, l, rfl, rfl, hu, hv⟩ := split (show EditScript ([a] ++ bs) _ _ from h')
    obtain ⟨k', hk', hscript⟩ := ih hv
    exact ⟨k + k', by omega, append hu hscript⟩
  | @replace a b as bs m _ ih =>
    obtain ⟨us, vs, k, l, rfl, rfl, hu, hv⟩ := split (show EditScript ([b] ++ bs) _ _ from h')
    obtain ⟨k', hk', hscript⟩ := ih hv
    obtain ⟨l', hl', hfirst⟩ := hu.exists_le_succ [a] le_rfl
    exact ⟨l' + k', by omega, append hfirst hscript⟩
  | @insert b as bs m _ ih =>
    obtain ⟨us, vs, k, l, rfl, rfl, hu, hv⟩ := split (show EditScript ([b] ++ bs) _ _ from h')
    obtain ⟨k', hk', hscript⟩ := ih hv
    obtain ⟨l', hl', hfirst⟩ := hu.exists_le_succ [] (Nat.zero_le 1)
    exact ⟨l' + k', by omega, append hfirst hscript⟩

end EditScript

/-! ## Edits -/

/-- A single edit at a position, from 0, of a list. -/
inductive Edit (α : Type) where
  /-- `a` comes to stand at position `i`. -/
  | insert (i : ℕ) (a : α)
  /-- What stands at position `i` goes. -/
  | delete (i : ℕ)
  /-- `a` takes the place of what stands at position `i`. -/
  | substitute (i : ℕ) (a : α)
  deriving DecidableEq, Repr

namespace Edit

/-- The list after an edit, if the list has the position. -/
def apply : Edit α → List α → Option (List α)
  | insert i a, as => if i ≤ as.length then some (as.take i ++ a :: as.drop i) else none
  | delete i, as => if i < as.length then some (as.take i ++ as.drop (i + 1)) else none
  | substitute i a, as => if i < as.length then some (as.take i ++ a :: as.drop (i + 1)) else none

/-- The list after several edits, each made in what those before it have left. -/
def run : List (Edit α) → List α → Option (List α)
  | [], as => some as
  | e :: es, as => (e.apply as).bind (run es)

/-- **One edit is a script with one edit**: all before and behind its position is kept. -/
theorem script {e : Edit α} (h : e.apply as = some bs) : EditScript as bs 1 := by
  cases e with
  | insert i a =>
    obtain ⟨-, h⟩ := Option.ite_none_right_eq_some.1 h
    cases h
    simpa using (EditScript.refl (as.take i)).append (.insert a (.refl (as.drop i)))
  | delete i =>
    obtain ⟨hi, h⟩ := Option.ite_none_right_eq_some.1 h
    cases h
    have hscript := (EditScript.refl (as.take i)).append (.delete as[i] (.refl (as.drop (i + 1))))
    rwa [← List.drop_eq_getElem_cons hi, List.take_append_drop] at hscript
  | substitute i a =>
    obtain ⟨hi, h⟩ := Option.ite_none_right_eq_some.1 h
    cases h
    have hscript :=
      (EditScript.refl (as.take i)).append (.replace as[i] a (.refl (as.drop (i + 1))))
    rwa [← List.drop_eq_getElem_cons hi, List.take_append_drop] at hscript

/-- The same edit one position further on. -/
def later : Edit α → Edit α
  | insert i a => insert (i + 1) a
  | delete i => delete (i + 1)
  | substitute i a => substitute (i + 1) a

theorem apply_later (e : Edit α) (a : α) (as : List α) :
    e.later.apply (a :: as) = (e.apply as).map (a :: ·) := by
  cases e with
  | insert i b =>
    simp only [later, apply, List.length_cons, Nat.add_le_add_iff_right]
    split_ifs <;> rfl
  | delete i | substitute i b =>
    simp only [later, apply, List.length_cons, Nat.add_lt_add_iff_right]
    split_ifs <;> rfl

/-- Edits behind an element leave it where it is. -/
theorem run_later (es : List (Edit α)) (a : α) (as : List α) :
    run (es.map later) (a :: as) = (run es as).map (a :: ·) := by
  induction es generalizing as with
  | nil => rfl
  | cons e es ih =>
    rw [List.map_cons, run, run, apply_later]
    cases e.apply as with
    | none => rfl
    | some bs => exact ih bs

end Edit

/-! ## Sequences of edits and scripts -/

/-- **A script that is no longer** than a sequence of edits. -/
theorem exists_script_of_run {es : List (Edit α)} (h : Edit.run es as = some bs) :
    ∃ n ≤ es.length, EditScript as bs n := by
  induction es generalizing as with
  | nil =>
    cases h
    exact ⟨0, le_rfl, EditScript.refl bs⟩
  | cons e es ih =>
    obtain ⟨cs, hcs, hrest⟩ := Option.bind_eq_some_iff.1 h
    obtain ⟨n, hn, hscript⟩ := ih hrest
    obtain ⟨k, hk, hboth⟩ := (Edit.script hcs).trans hscript
    rw [List.length_cons]
    exact ⟨k, by omega, hboth⟩

/-- **A sequence of edits for a script**, from the left: what a script says of the first elements is
done first, and the other edits are made behind what has come of it. -/
theorem exists_run_of_script (h : EditScript as bs n) :
    ∃ es : List (Edit α), Edit.run es as = some bs ∧ es.length = n := by
  induction h with
  | nil => exact ⟨[], rfl, rfl⟩
  | keep a _ ih =>
    obtain ⟨es, hes, rfl⟩ := ih
    refine ⟨es.map Edit.later, ?_, List.length_map _⟩
    rw [Edit.run_later, hes, Option.map_some]
  | @replace a b as bs n _ ih =>
    obtain ⟨es, hes, rfl⟩ := ih
    refine ⟨.substitute 0 b :: es.map Edit.later, ?_, by simp⟩
    have hfirst : (Edit.substitute 0 b).apply (a :: as) = some (b :: as) := rfl
    rw [Edit.run, hfirst, Option.bind_some, Edit.run_later, hes, Option.map_some]
  | @delete a as bs n _ ih =>
    obtain ⟨es, hes, rfl⟩ := ih
    exact ⟨.delete 0 :: es, hes, rfl⟩
  | @insert b as bs n _ ih =>
    obtain ⟨es, hes, rfl⟩ := ih
    refine ⟨.insert 0 b :: es.map Edit.later, ?_, by simp⟩
    have hfirst : (Edit.insert 0 b).apply as = some (b :: as) := rfl
    rw [Edit.run, hfirst, Option.bind_some, Edit.run_later, hes, Option.map_some]

/-- **The edit distance is the least number of edits** that turn one list into another: as many are
enough, and no sequence of insertions, deletions and substitutions of single elements is shorter. -/
theorem editDistance_isLeast [DecidableEq α] (as bs : List α) :
    IsLeast {n | ∃ es : List (Edit α), Edit.run es as = some bs ∧ es.length = n}
      (editDistance as bs) := by
  have hdistance := isDistance_editDistance as bs
  constructor
  · exact exists_run_of_script hdistance.script
  · rintro n ⟨es, hes, rfl⟩
    obtain ⟨m, hm, hscript⟩ := exists_script_of_run hes
    exact (hdistance.least hscript).trans hm

end SmellScan.Similarity
