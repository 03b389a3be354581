import Mathlib.Data.Int.Notation
import Mathlib.Data.List.Basic
import Mathlib.Data.List.Pairwise
import SmellScan.Ledger

/-!
# The order of findings

Findings are sorted by their place, file and line, and those of one place keep the order in which
they came. A list is the stable sort of another (`IsStableSort`) when it is in order and shows the
same findings at each place in the same sequence. Sorting a ledger gives one
(`isStableSort_mergeSort`), and there is no other (`IsStableSort.unique`).
-/

namespace SmellScan

namespace Finding

/-- Where a finding is: its file and its line. -/
def place (f : Finding) : String × ℤ := (f.file, f.line)

theorem le_iff {f g : Finding} :
    f.le g = true ↔ f.file < g.file ∨ f.file = g.file ∧ f.line ≤ g.line := by
  unfold le
  split_ifs with hlt hgt
  · simp [hlt]
  · have hne : f.file ≠ g.file := fun he => String.lt_irrefl _ (he ▸ hgt)
    simp [hlt, hne]
  · have heq : f.file = g.file := String.le_antisymm (String.not_lt.1 hgt) (String.not_lt.1 hlt)
    simp [heq]

theorem le_trans (f g h : Finding) (hfg : f.le g = true) (hgh : g.le h = true) :
    f.le h = true := by
  rw [le_iff] at hfg hgh ⊢
  rcases hfg with hfg | ⟨hfg, hline⟩
  · rcases hgh with hgh | ⟨hgh, -⟩
    · exact Or.inl (String.lt_trans hfg hgh)
    · exact Or.inl (hgh ▸ hfg)
  · rcases hgh with hgh | ⟨hgh, hline'⟩
    · exact Or.inl (hfg ▸ hgh)
    · exact Or.inr ⟨hfg.trans hgh, Int.le_trans hline hline'⟩

theorem le_total (f g : Finding) : (f.le g || g.le f) = true := by
  simp only [Bool.or_eq_true, le_iff]
  by_cases hlt : f.file < g.file
  · exact Or.inl (Or.inl hlt)
  · by_cases hgt : g.file < f.file
    · exact Or.inr (Or.inl hgt)
    · have heq : f.file = g.file := String.le_antisymm (String.not_lt.1 hgt) (String.not_lt.1 hlt)
      rcases Int.le_total f.line g.line with h | h
      · exact Or.inl (Or.inr ⟨heq, h⟩)
      · exact Or.inr (Or.inr ⟨heq.symm, h⟩)

theorem le_of_place_eq {f g : Finding} (h : f.place = g.place) : f.le g = true := by
  obtain ⟨hfile, hline⟩ := Prod.mk.inj h
  exact le_iff.2 (Or.inr ⟨hfile, Int.le_of_eq hline⟩)

theorem place_eq_of_le {f g : Finding} (hfg : f.le g = true) (hgf : g.le f = true) :
    f.place = g.place := by
  rw [le_iff] at hfg hgf
  rcases hfg with hlt | ⟨heq, hline⟩
  · rcases hgf with hgt | ⟨heq, -⟩
    · exact absurd hgt (String.lt_asymm hlt)
    · exact absurd hlt (heq ▸ String.lt_irrefl _)
  · rcases hgf with hgt | ⟨-, hline'⟩
    · exact absurd hgt (heq ▸ String.lt_irrefl _)
    · exact Prod.ext heq (Int.le_antisymm hline hline')

end Finding

/-- `gs` is the stable sort of `fs` by file and line. -/
structure IsStableSort (fs gs : List Finding) : Prop where
  /-- Files ascend, and lines within a file. -/
  sorted : gs.Pairwise fun f g => f.file < g.file ∨ f.file = g.file ∧ f.line ≤ g.line
  /-- Each place shows the same findings in the same order. -/
  stable : ∀ place, gs.filter (·.place = place) = fs.filter (·.place = place)

/-- **Sorting a list gives its stable sort.** -/
theorem isStableSort_mergeSort (fs : List Finding) : IsStableSort fs (fs.mergeSort Finding.le) := by
  constructor
  · exact (List.pairwise_mergeSort Finding.le_trans Finding.le_total fs).imp
      Finding.le_iff.1
  · intro place
    -- the findings of one place are a sorted part of the list, and sorting keeps such parts
    have hpart : (fs.filter (·.place = place)).Sublist (fs.mergeSort Finding.le) := by
      refine List.sublist_mergeSort Finding.le_trans Finding.le_total ?_
        List.filter_sublist
      refine List.pairwise_of_forall_mem_list fun f hf g hg => ?_
      simp only [List.mem_filter, decide_eq_true_eq] at hf hg
      exact Finding.le_of_place_eq (hf.2.trans hg.2.symm)
    have hsub : (fs.filter (·.place = place)).Sublist
        ((fs.mergeSort Finding.le).filter (·.place = place)) := by
      simpa using hpart.filter (·.place = place)
    exact (hsub.eq_of_length ((List.mergeSort_perm fs _).filter _).length_eq.symm).symm

/-- **There is only one stable sort of a list.** -/
theorem IsStableSort.unique {fs gs hs : List Finding} (hg : IsStableSort fs gs)
    (hh : IsStableSort fs hs) : gs = hs := by
  have hplaces : ∀ place, gs.filter (·.place = place) = hs.filter (·.place = place) :=
    fun place => (hg.stable place).trans (hh.stable place).symm
  have hgs := hg.sorted
  have hhs := hh.sorted
  clear hg hh
  induction gs generalizing hs with
  | nil =>
    cases hs with
    | nil => rfl
    | cons h hs => simpa using hplaces h.place
  | cons g gs ih =>
    cases hs with
    | nil => simpa using hplaces g.place
    | cons h hs =>
      -- each head is in the other list, so neither comes before the other
      have hgmem : g ∈ h :: hs := by
        have hg : g ∈ (h :: hs).filter (·.place = g.place) := by
          rw [← hplaces]
          simp
        exact List.mem_of_mem_filter hg
      have hhmem : h ∈ g :: gs := by
        have hh : h ∈ (g :: gs).filter (·.place = h.place) := by
          rw [hplaces]
          simp
        exact List.mem_of_mem_filter hh
      have hplace : g.place = h.place := by
        refine Finding.place_eq_of_le ?_ ?_
        · rcases List.mem_cons.1 hhmem with rfl | hmem
          · exact Finding.le_of_place_eq rfl
          · exact Finding.le_iff.2 (List.rel_of_pairwise_cons hgs hmem)
        · rcases List.mem_cons.1 hgmem with rfl | hmem
          · exact Finding.le_of_place_eq rfl
          · exact Finding.le_iff.2 (List.rel_of_pairwise_cons hhs hmem)
      have hhead : g = h := by
        have hcons := hplaces g.place
        rw [List.filter_cons_of_pos (by simp), List.filter_cons_of_pos (by simp [hplace])] at hcons
        exact (List.cons.inj hcons).1
      subst hhead
      refine congrArg (g :: ·) (ih (fun place => ?_) hgs.tail hhs.tail)
      have hcons := hplaces place
      by_cases hp : g.place = place <;> simpa [List.filter_cons, hp] using hcons

theorem IsStableSort.eq_mergeSort {fs gs : List Finding} (h : IsStableSort fs gs) :
    fs.mergeSort Finding.le = gs :=
  (isStableSort_mergeSort fs).unique h

theorem IsStableSort.filter {fs gs : List Finding} (h : IsStableSort fs gs)
    (keep : Finding → Bool) : IsStableSort (fs.filter keep) (gs.filter keep) := by
  refine ⟨h.sorted.filter keep, fun place => ?_⟩
  rw [List.filter_comm, h.stable place, List.filter_comm]

/-- Sorting keeps the order of the findings that a filter leaves. -/
theorem filter_mergeSort (keep : Finding → Bool) (fs : List Finding) :
    (fs.mergeSort Finding.le).filter keep = (fs.filter keep).mergeSort Finding.le :=
  ((isStableSort_mergeSort fs).filter keep).eq_mergeSort.symm

end SmellScan
