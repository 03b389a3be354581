import Mathlib.Order.MinMax
import Mathlib.Order.Nat
import SmellScan.Similarity.EditDistance

/-!
# Edit scripts and the table of distances

An edit script goes through two lists from the left and keeps, replaces, deletes or inserts one
element at a time; all but keeping count as one edit. The table of `editDistance` computes least
numbers of edits:

* a script can be read from the right as well (`EditScript.reverse`), so a least script of two
  lists with last elements goes on from one of three smaller pairs (`IsDistance.concat`);
* one row of the table holds the distances from `as` to the starts of `bs` (`IsRow`), and each step
  of the loop makes the row of one more element (`IsRow.next`);
* hence `editDistance` is the least number of edits (`isDistance_editDistance`).

Every script makes up for the difference of the lengths, so the distance is at least that, and it is
at most the greater length (`length_le_add_editDistance`, `editDistance_le_max`).
-/

namespace SmellScan.Similarity

variable {α : Type} {as bs : List α} {m n : ℕ}

/-! ## Scripts -/

/-- `EditScript as bs n`: there is a way from `as` to `bs`, left to right, with `n` edits. -/
inductive EditScript : List α → List α → ℕ → Prop
  /-- Nothing is left on either side. -/
  | nil : EditScript [] [] 0
  /-- The same element stands first on both sides. -/
  | keep (a : α) {as bs : List α} {n : ℕ} : EditScript as bs n → EditScript (a :: as) (a :: bs) n
  /-- One element takes the place of another. -/
  | replace (a b : α) {as bs : List α} {n : ℕ} :
    EditScript as bs n → EditScript (a :: as) (b :: bs) (n + 1)
  /-- An element goes. -/
  | delete (a : α) {as bs : List α} {n : ℕ} : EditScript as bs n → EditScript (a :: as) bs (n + 1)
  /-- An element comes. -/
  | insert (b : α) {as bs : List α} {n : ℕ} : EditScript as bs n → EditScript as (b :: bs) (n + 1)

namespace EditScript

theorem refl : ∀ as : List α, EditScript as as 0
  | [] => nil
  | a :: as => keep a (refl as)

theorem deleteAll : ∀ as : List α, EditScript as [] as.length
  | [] => nil
  | a :: as => delete a (deleteAll as)

theorem symm (h : EditScript as bs n) : EditScript bs as n := by
  induction h with
  | nil => exact nil
  | keep a _ ih => exact keep a ih
  | replace a b _ ih => exact replace b a ih
  | delete a _ ih => exact insert a ih
  | insert b _ ih => exact delete b ih

theorem append {as' bs' : List α} (h : EditScript as bs m) (h' : EditScript as' bs' n) :
    EditScript (as ++ as') (bs ++ bs') (m + n) := by
  induction h with
  | nil => simpa using h'
  | keep a _ ih => exact keep a ih
  | replace a b _ ih => simpa only [List.cons_append, Nat.add_right_comm] using replace a b ih
  | delete a _ ih => simpa only [List.cons_append, Nat.add_right_comm] using delete a ih
  | insert b _ ih => simpa only [List.cons_append, Nat.add_right_comm] using insert b ih

/-- **A script can be read from the right.** -/
theorem reverse (h : EditScript as bs n) : EditScript as.reverse bs.reverse n := by
  induction h with
  | nil => exact nil
  | keep a _ ih => simpa using ih.append (keep a nil)
  | replace a b _ ih => simpa using ih.append (replace a b nil)
  | delete a _ ih => simpa using ih.append (delete a nil)
  | insert b _ ih => simpa using ih.append (insert b nil)

/-- A script makes up for the difference of the lengths. -/
theorem length_le (h : EditScript as bs n) :
    as.length ≤ bs.length + n ∧ bs.length ≤ as.length + n := by
  induction h <;> simp only [List.length_cons, List.length_nil] <;> omega

theorem exists_le_max : ∀ as bs : List α, ∃ n ≤ max as.length bs.length, EditScript as bs n
  | [], bs => ⟨bs.length, by simp, (deleteAll bs).symm⟩
  | a :: as, [] => ⟨(a :: as).length, by simp, deleteAll (a :: as)⟩
  | a :: as, b :: bs => by
    obtain ⟨n, hn, h⟩ := exists_le_max as bs
    refine ⟨n + 1, ?_, replace a b h⟩
    simp only [List.length_cons]
    omega

section Inversion

variable [DecidableEq α] {a b : α}

/-- The first step of a script between two lists that are not empty. -/
theorem cons_inv (h : EditScript (a :: as) (b :: bs) n) :
    (∃ m, EditScript as bs m ∧ m + (if a = b then 0 else 1) ≤ n) ∨
      (∃ m, EditScript as (b :: bs) m ∧ m + 1 = n) ∨
      ∃ m, EditScript (a :: as) bs m ∧ m + 1 = n := by
  cases h with
  | keep _ h => exact Or.inl ⟨_, h, by simp⟩
  | replace _ _ h => exact Or.inl ⟨_, h, by split_ifs <;> omega⟩
  | delete _ h => exact Or.inr (Or.inl ⟨_, h, rfl⟩)
  | insert _ h => exact Or.inr (Or.inr ⟨_, h, rfl⟩)

/-- The last step of a script between two lists that are not empty. -/
theorem concat_inv (h : EditScript (as ++ [a]) (bs ++ [b]) n) :
    (∃ m, EditScript as bs m ∧ m + (if a = b then 0 else 1) ≤ n) ∨
      (∃ m, EditScript as (bs ++ [b]) m ∧ m + 1 = n) ∨
      ∃ m, EditScript (as ++ [a]) bs m ∧ m + 1 = n := by
  have hrev := h.reverse
  simp only [List.reverse_append, List.reverse_cons, List.reverse_nil, List.nil_append,
    List.singleton_append] at hrev
  rcases hrev.cons_inv with ⟨m, hm, hle⟩ | ⟨m, hm, he⟩ | ⟨m, hm, he⟩
  · exact Or.inl ⟨m, by simpa using hm.reverse, hle⟩
  · exact Or.inr (Or.inl ⟨m, by simpa using hm.reverse, he⟩)
  · exact Or.inr (Or.inr ⟨m, by simpa using hm.reverse, he⟩)

theorem concat (h : EditScript as bs n) (a b : α) :
    EditScript (as ++ [a]) (bs ++ [b]) (n + if a = b then 0 else 1) := by
  split_ifs with hab
  · subst hab
    exact h.append (keep a nil)
  · exact h.append (replace a b nil)

end Inversion

end EditScript

/-! ## Least scripts -/

/-- `d` is the least number of edits between two lists. -/
structure IsDistance (as bs : List α) (d : ℕ) : Prop where
  script : EditScript as bs d
  least : ∀ {n : ℕ}, EditScript as bs n → d ≤ n

namespace IsDistance

theorem symm {d : ℕ} (h : IsDistance as bs d) : IsDistance bs as d :=
  ⟨h.script.symm, fun hn => h.least hn.symm⟩

theorem nil_right (as : List α) : IsDistance as [] as.length :=
  ⟨EditScript.deleteAll as, fun hn => by simpa using hn.length_le.1⟩

/-- **The step of the table**: the distance of two lists with last elements, from the distances
without the one, the other, and both of these. -/
theorem concat [DecidableEq α] {a b : α} {diagonal above left : ℕ}
    (hdiagonal : IsDistance as bs diagonal) (habove : IsDistance as (bs ++ [b]) above)
    (hleft : IsDistance (as ++ [a]) bs left) :
    IsDistance (as ++ [a]) (bs ++ [b])
      (min (min (above + 1) (left + 1)) (diagonal + if a = b then 0 else 1)) := by
  constructor
  · -- the least of three numbers is one of them, and each has its script
    have hdel : EditScript (as ++ [a]) (bs ++ [b]) (above + 1) := by
      simpa using habove.script.append (EditScript.delete a EditScript.nil)
    have hins : EditScript (as ++ [a]) (bs ++ [b]) (left + 1) := by
      simpa using hleft.script.append (EditScript.insert b EditScript.nil)
    have hboth := hdiagonal.script.concat a b
    rcases min_choice (min (above + 1) (left + 1)) (diagonal + if a = b then 0 else 1) with h | h
    · rcases min_choice (above + 1) (left + 1) with h' | h' <;> rw [h, h'] <;> assumption
    · rw [h]
      exact hboth
  · intro n hn
    rcases hn.concat_inv with ⟨m, hm, hle⟩ | ⟨m, hm, rfl⟩ | ⟨m, hm, rfl⟩
    · have := hdiagonal.least hm
      omega
    · have := habove.least hm
      omega
    · have := hleft.least hm
      omega

end IsDistance

/-! ## Rows of the table -/

/-- The cells of the row of `as` behind the start `pre` of the other list: distances to `pre` with
one, two, … elements more. -/
inductive Cells (as : List α) : List α → List α → List ℕ → Prop
  | nil (pre : List α) : Cells as pre [] []
  | cons {pre bs : List α} {b : α} {d : ℕ} {row : List ℕ} :
    IsDistance as (pre ++ [b]) d → Cells as (pre ++ [b]) bs row → Cells as pre (b :: bs) (d :: row)

/-- A row of the table: the distances from `as` to all starts of `bs`. -/
def IsRow (as bs : List α) (row : List ℕ) : Prop :=
  ∃ first cells, row = first :: cells ∧ IsDistance as [] first ∧ Cells as [] bs cells

theorem Cells.range' (pre bs : List α) :
    Cells [] pre bs (List.range' (pre.length + 1) bs.length) := by
  induction bs generalizing pre with
  | nil => exact Cells.nil pre
  | cons b bs ih =>
    refine Cells.cons ?_ ?_
    · simpa using (IsDistance.nil_right (pre ++ [b])).symm
    · simpa using ih (pre ++ [b])

/-- The row above the table: from nothing to a start of `bs` all is inserted. -/
theorem isRow_range (bs : List α) : IsRow [] bs (List.range (bs.length + 1)) := by
  refine ⟨0, List.range' 1 bs.length, ?_, IsDistance.nil_right [], Cells.range' [] bs⟩
  rw [List.range_eq_range', List.range'_succ]

theorem Cells.getLastD {pre : List α} {row : List ℕ} {d : ℕ} (hd : IsDistance as pre d)
    (h : Cells as pre bs row) : IsDistance as (pre ++ bs) (row.getLastD d) := by
  induction h generalizing d with
  | nil => simpa using hd
  | cons hb _ ih =>
    rw [List.getLastD_cons]
    simpa only [List.append_assoc, List.singleton_append] using ih hb

variable [DecidableEq α]

/-- The cells of the next row, from left to right. -/
theorem Cells.extendRow {pre : List α} {a : α} {diagonal left : ℕ} {row : List ℕ}
    (hdiagonal : IsDistance as pre diagonal) (hleft : IsDistance (as ++ [a]) pre left)
    (h : Cells as pre bs row) :
    Cells (as ++ [a]) pre bs (Similarity.extendRow a diagonal left bs row) := by
  induction h generalizing diagonal left with
  | nil pre => exact Cells.nil pre
  | cons hb _ ih =>
    have hcell := hdiagonal.concat hb hleft
    exact Cells.cons hcell (ih hb hcell)

/-- **One step of the loop** makes the row of one more element. -/
theorem IsRow.next {row : List ℕ} (h : IsRow as bs row) (a : α) :
    IsRow (as ++ [a]) bs (nextRow bs row a) := by
  obtain ⟨first, cells, rfl, hfirst, hcells⟩ := h
  have hfirst' : IsDistance (as ++ [a]) [] (first + 1) := by
    have hlen : first = as.length :=
      le_antisymm (hfirst.least (EditScript.deleteAll as))
        (by simpa using hfirst.script.length_le.1)
    simpa [hlen] using IsDistance.nil_right (as ++ [a])
  exact ⟨first + 1, _, rfl, hfirst', hcells.extendRow hfirst hfirst'⟩

/-- **The whole loop.** -/
theorem IsRow.foldl {row : List ℕ} (h : IsRow as bs row) (as' : List α) :
    IsRow (as ++ as') bs (as'.foldl (nextRow bs) row) := by
  induction as' generalizing as row with
  | nil => simpa using h
  | cons a as' ih => simpa using ih (h.next a)

theorem isDistance_tableDistance (long short : List α) :
    IsDistance long short (tableDistance long short) := by
  unfold tableDistance
  split_ifs with hshort
  · rw [List.isEmpty_iff.1 hshort]
    exact IsDistance.nil_right long
  · obtain ⟨first, cells, hrow, hfirst, hcells⟩ := (isRow_range short).foldl long
    rw [lastRow, hrow, List.getLastD_cons]
    simpa using hcells.getLastD hfirst

/-- **The edit distance is the least number of edits.** -/
theorem isDistance_editDistance (as bs : List α) : IsDistance as bs (editDistance as bs) := by
  unfold editDistance
  split_ifs
  · exact (isDistance_tableDistance bs as).symm
  · exact isDistance_tableDistance as bs

/-! ## Bounds -/

theorem editDistance_self (as : List α) : editDistance as as = 0 :=
  Nat.le_zero.1 ((isDistance_editDistance as as).least (EditScript.refl as))

theorem length_le_add_editDistance (as bs : List α) :
    max as.length bs.length ≤ min as.length bs.length + editDistance as bs := by
  have h := (isDistance_editDistance as bs).script.length_le
  omega

theorem editDistance_le_max (as bs : List α) : editDistance as bs ≤ max as.length bs.length := by
  obtain ⟨n, hn, h⟩ := EditScript.exists_le_max as bs
  exact ((isDistance_editDistance as bs).least h).trans hn

end SmellScan.Similarity
