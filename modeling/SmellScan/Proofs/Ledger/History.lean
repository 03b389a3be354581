import Mathlib.Data.Finset.Card
import Mathlib.Data.List.Infix
import Mathlib.Logic.Function.Basic
import SmellScan.Proofs.Ledger.Entries
import SmellScan.Proofs.Ledger.Order

/-!
# Ledgers over a history of operations

Any number of ledgers, named by the elements of a type, are worked on by a sequence of operations:
adding a finding, adding several, and merging one ledger into another or into itself. Each operation
feeds findings to its target; merging feeds what the source holds at that moment, in its order.

After every sequence each ledger records exactly what it was fed (`Ledger.Records`): it holds the
first finding of each key in order of arrival, and shows them stably sorted by file and line. One
operation keeps this (`entries_step`), so a run does (`entries_run`). `run_records` puts the laws
together.
-/

namespace SmellScan

/-- `l` records the findings `fed` to it. -/
structure Ledger.Records (fed : List Finding) (l : Ledger) : Prop where
  /-- The first finding of each key, in order of arrival. -/
  entries_eq : l.entries = firsts Finding.key fed
  /-- Each key is held once. -/
  nodup_keys : (l.entries.map Finding.key).Nodup
  /-- What is held for a key is the first finding fed for it. -/
  find?_eq : ∀ k, l.entries.find? (·.key = k) = fed.find? (·.key = k)
  /-- The size counts the keys. -/
  size_eq : l.size = (fed.map Finding.key).toFinset.card
  /-- The findings are shown by file and line, those of one line in order of arrival. -/
  findings_eq : IsStableSort l.entries l.findings

/-- A ledger that holds the firsts records what it was fed. -/
theorem Ledger.records_of_entries {fed : List Finding} {l : Ledger}
    (h : l.entries = firsts Finding.key fed) : l.Records fed := by
  have hnodup : (l.entries.map Finding.key).Nodup := by
    rw [h]
    exact nodup_map_firsts Finding.key fed
  refine ⟨h, hnodup, fun k => ?_, ?_, isStableSort_mergeSort l.entries⟩
  · rw [h]
    exact find?_firsts Finding.key k fed
  · have hkeys : (l.entries.map Finding.key).toFinset = (fed.map Finding.key).toFinset := by
      ext k
      rw [List.mem_toFinset, List.mem_toFinset, h, mem_map_firsts]
    rw [← hkeys, List.toFinset_card_of_nodup hnodup, List.length_map, Ledger.size]

/-- An operation on ledgers that are named by `ι`. -/
inductive LedgerOp (ι : Type) where
  /-- Add one finding. -/
  | add (target : ι) (f : Finding)
  /-- Add several findings one after the other. -/
  | extend (target : ι) (fs : List Finding)
  /-- Add what another ledger holds, or the same one. -/
  | merge (target source : ι)

namespace LedgerOp

variable {ι : Type}

/-- The ledger that an operation works on. -/
def target : LedgerOp ι → ι
  | add i _ | extend i _ | merge i _ => i

/-- The findings that an operation feeds to its target. -/
def feed (s : ι → Ledger) : LedgerOp ι → List Finding
  | add _ f => [f]
  | extend _ fs => fs
  | merge _ j => (s j).entries

/-- The target after an operation. -/
def result (s : ι → Ledger) : LedgerOp ι → Ledger
  | add i f => (s i).add f
  | extend i fs => (s i).extend fs
  | merge i j => (s i).merge (s j)

/-- What an operation answers: adding a finding tells whether its key is new. -/
def answer (s : ι → Ledger) : LedgerOp ι → Option Bool
  | add i f => some !(s i).holds f
  | extend _ _ | merge _ _ => none

/-- Every operation feeds its target and does nothing else to it. -/
theorem result_eq (s : ι → Ledger) (op : LedgerOp ι) :
    op.result s = (s op.target).extend (op.feed s) := by
  cases op <;> rfl

variable [DecidableEq ι]

/-- The ledgers after an operation. -/
def step (s : ι → Ledger) (op : LedgerOp ι) : ι → Ledger :=
  Function.update s op.target (op.result s)

/-- The ledgers after a sequence of operations. -/
def run (s : ι → Ledger) (ops : List (LedgerOp ι)) : ι → Ledger :=
  ops.foldl step s

/-- All that a sequence of operations feeds to the ledger `i`. -/
def fedTo (i : ι) : (ι → Ledger) → List (LedgerOp ι) → List Finding
  | _, [] => []
  | s, op :: ops => (if op.target = i then op.feed s else []) ++ fedTo i (step s op) ops

/-- No finding in any ledger. -/
def start : ι → Ledger := fun _ => Ledger.empty

/-! ## Steps -/

theorem step_eq_extend (s : ι → Ledger) (op : LedgerOp ι) (i : ι) :
    step s op i = (s i).extend (if op.target = i then op.feed s else []) := by
  by_cases h : op.target = i
  · subst h
    rw [step, Function.update_self, result_eq, if_pos rfl]
  · rw [step, Function.update_of_ne (Ne.symm h), if_neg h]
    rfl

/-- **One operation** leaves the firsts of what was fed, with what it feeds. -/
theorem entries_step {s : ι → Ledger} {i : ι} {fed : List Finding}
    (h : (s i).entries = firsts Finding.key fed) (op : LedgerOp ι) :
    (step s op i).entries =
      firsts Finding.key (fed ++ if op.target = i then op.feed s else []) := by
  rw [step_eq_extend, Ledger.entries_extend_firsts h]

theorem prefix_step (s : ι → Ledger) (op : LedgerOp ι) (i : ι) :
    (s i).entries <+: (step s op i).entries := by
  rw [step_eq_extend, Ledger.entries_extend]
  exact List.prefix_append _ _

/-- Merging a ledger into another, or into itself, leaves it as it was. -/
theorem step_merge_source (s : ι → Ledger) (i j : ι) : step s (merge i j) j = s j := by
  by_cases h : i = j
  · subst h
    exact (Function.update_self i _ s).trans (Ledger.merge_self (s i))
  · exact Function.update_of_ne (Ne.symm h) _ s

/-! ## Runs -/

/-- **A run** leaves the firsts of all that was fed. -/
theorem entries_run {s : ι → Ledger} {i : ι} {fed : List Finding}
    (h : (s i).entries = firsts Finding.key fed) (ops : List (LedgerOp ι)) :
    (run s ops i).entries = firsts Finding.key (fed ++ fedTo i s ops) := by
  induction ops generalizing s fed with
  | nil =>
    rw [fedTo, List.append_nil]
    exact h
  | cons op ops ih =>
    rw [fedTo, ← List.append_assoc]
    exact ih (entries_step h op)

theorem prefix_run (s : ι → Ledger) (ops : List (LedgerOp ι)) (i : ι) :
    (s i).entries <+: (run s ops i).entries := by
  induction ops generalizing s with
  | nil => exact List.prefix_refl _
  | cons op ops ih => exact (prefix_step s op i).trans (ih (step s op))

/-- **The laws of ledgers over any history**: each ledger records what it was fed; adding answers
whether the key was never fed before; what is held stays, unchanged and in its place; merging leaves
its source alone; and merging is associative and idempotent. -/
theorem run_records (ops : List (LedgerOp ι)) :
    (∀ i, (run start ops i).Records (fedTo i start ops)) ∧
      (∀ i f, answer (run start ops) (add i f) = some true ↔
        f.key ∉ (fedTo i start ops).map Finding.key) ∧
      (∀ i more, (run start ops i).entries <+: (run start (ops ++ more) i).entries) ∧
      (∀ i j, run start (ops ++ [merge i j]) j = run start ops j) ∧
      ∀ l m n : Ledger, (l.merge m).merge n = l.merge (m.merge n) ∧
        (l.merge m).merge m = l.merge m ∧ l.merge l = l := by
  have hentries : ∀ i, (run start ops i).entries = firsts Finding.key (fedTo i start ops) := by
    intro i
    simpa using @entries_run ι _ start i [] rfl ops
  refine ⟨fun i => Ledger.records_of_entries (hentries i), fun i f => ?_, fun i more => ?_,
    fun i j => ?_, fun l m n => ⟨l.merge_assoc m n, l.merge_merge_self m, l.merge_self⟩⟩
  · have hholds : (run start ops i).holds f = true ↔
        f.key ∈ (fedTo i start ops).map Finding.key := by
      rw [Ledger.holds_iff, hentries, mem_map_firsts]
    rw [← hholds]
    simp [answer]
  · rw [run, run, List.foldl_append]
    exact prefix_run _ more i
  · rw [run, List.foldl_append]
    exact step_merge_source (run start ops) i j

end LedgerOp

end SmellScan
