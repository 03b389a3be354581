import SmellScan.Finding

/-!
# Ledgers of findings

A ledger holds at most one finding for each file, line and smell, in the order in which they came;
the first one stays.
-/

namespace SmellScan

/-- Findings of different keys in order of arrival. -/
structure Ledger where
  entries : List Finding := []
  deriving DecidableEq, Repr

namespace Ledger

/-- The ledger without findings. -/
def empty : Ledger := {}

/-- A finding with the same key is held. -/
def holds (ledger : Ledger) (f : Finding) : Bool :=
  ledger.entries.any (·.sameKey f)

/-- The ledger with a finding added if its key is new. -/
def add (ledger : Ledger) (f : Finding) : Ledger :=
  if ledger.holds f then ledger else ⟨ledger.entries ++ [f]⟩

/-- The ledger with several findings added one after the other. -/
def extend (ledger : Ledger) (fs : List Finding) : Ledger :=
  fs.foldl add ledger

/-- The ledger with the findings of another added in the order in which that one holds them. -/
def merge (ledger other : Ledger) : Ledger :=
  ledger.extend other.entries

/-- How many findings are held. -/
def size (ledger : Ledger) : Nat :=
  ledger.entries.length

/-- The findings by file and line; those of one line keep their order. -/
def findings (ledger : Ledger) : List Finding :=
  ledger.entries.mergeSort Finding.le

end Ledger

end SmellScan
