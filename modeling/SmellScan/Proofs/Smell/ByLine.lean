import Mathlib.Data.List.Basic
import SmellScan.Smell.Basic

/-!
# Checks that go line by line

Some checks look at each line by itself and find at most one thing wrong with it. `byLine` is such a
check, given by what is wrong with a line. What it reports for a line is what it finds there and
does not depend on the other lines (`onLine_byLine`).
-/

namespace SmellScan.Occurrence

/-- What is reported of the line with the number `n`, given by what is wrong with it, if
anything. -/
def ofLine (n : ℕ) (wrong : Option String) : List Occurrence :=
  (wrong.map fun description => { line := n, description }).toList

/-- What is reported of all lines of a unit. -/
def byLine (unit : SourceUnit) (wrong? : List Char → Option String) : List Occurrence :=
  unit.numberedLines.flatMap fun (n, line) => ofLine n (wrong? line.toList)

/-- The occurrences on the line with the number `n`. -/
def onLine (n : ℕ) (found : List Occurrence) : List Occurrence :=
  found.filter fun o => o.line = n

theorem onLine_append (n : ℕ) (found found' : List Occurrence) :
    onLine n (found ++ found') = onLine n found ++ onLine n found' :=
  List.filter_append ..

theorem onLine_ofLine_self (n : ℕ) (wrong : Option String) :
    onLine n (ofLine n wrong) = ofLine n wrong := by
  cases wrong <;> simp [onLine, ofLine]

theorem onLine_ofLine_of_ne {m n : ℕ} (h : m ≠ n) (wrong : Option String) :
    onLine n (ofLine m wrong) = [] := by
  have hline : (m : Int) ≠ n := by omega
  cases wrong <;> simp [onLine, ofLine, hline]

section

variable {wrong? : List Char → Option String} {lines : List String} {start : ℕ}

/-- Nothing is found before the first line. -/
theorem onLine_flatMap_of_lt {n : ℕ} (h : n < start) :
    onLine n ((lines.zipIdx start).flatMap fun e => ofLine e.2 (wrong? e.1.toList)) = [] := by
  induction lines generalizing start with
  | nil => rfl
  | cons line lines ih =>
    rw [List.zipIdx_cons, List.flatMap_cons, onLine_append, onLine_ofLine_of_ne (by omega),
      ih (by omega)]
    rfl

theorem onLine_flatMap {k : ℕ} {line : String} (h : lines[k]? = some line) :
    onLine (k + start) ((lines.zipIdx start).flatMap fun e => ofLine e.2 (wrong? e.1.toList)) =
      ofLine (k + start) (wrong? line.toList) := by
  induction lines generalizing start k with
  | nil => simp at h
  | cons first lines ih =>
    rw [List.zipIdx_cons, List.flatMap_cons, onLine_append]
    cases k with
    | zero =>
      obtain rfl : first = line := by simpa using h
      rw [Nat.zero_add, onLine_ofLine_self, onLine_flatMap_of_lt (by omega), List.append_nil]
    | succ k =>
      rw [onLine_ofLine_of_ne (by omega), List.nil_append, Nat.add_right_comm, Nat.add_assoc]
      exact ih (by simpa using h)

end

/-- **A check that goes line by line reports for a line what it finds there.** -/
theorem onLine_byLine {unit : SourceUnit} {k : ℕ} {line : String}
    (h : unit.lines[k]? = some line) (wrong? : List Char → Option String) :
    onLine (k + 1) (byLine unit wrong?) = ofLine (k + 1) (wrong? line.toList) := by
  rw [byLine, SourceUnit.numberedLines, List.flatMap_map]
  exact onLine_flatMap h

end SmellScan.Occurrence
