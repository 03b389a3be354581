import SmellScan.Json.Basic
import SmellScan.Report.Basic

/-!
# Reading reports from JSON

A value of JSON is checked field by field, in the order in which the fields are declared, and all
that is wrong is reported, each fault with the way to it.
-/

namespace SmellScan

open Similarity (LineCluster)

/-- What is wrong with a field. -/
inductive FieldFault where
  | missing
  | notString
  | notInt
  | notIntText
  | notWhole
  | notFloat
  | notFloatText
  | notList
  | notObject
  deriving DecidableEq, Repr

/-- A fault with the way to it. -/
structure FieldError where
  place : List String
  fault : FieldFault
  deriving DecidableEq, Repr

/-- A value, or all that is wrong with it. -/
abbrev Checked (α : Type) := Except (List FieldError) α

namespace Checked

/-- A function and its argument, with the faults of both. -/
def apply {α β : Type} (f : Checked (α → β)) (a : Checked α) : Checked β :=
  match f, a with
  | .ok f, .ok a => .ok (f a)
  | .ok _, .error es => .error es
  | .error es, .ok _ => .error es
  | .error es, .error es' => .error (es ++ es')

/-- A single fault. -/
def fail {α : Type} (place : List String) (fault : FieldFault) : Checked α :=
  .error [⟨place, fault⟩]

/-- A reader of values at a place. -/
abbrev Reader (α : Type) := List String → Json → Checked α

/-- A text. -/
def string : Reader String
  | _, .str s => .ok s
  | place, _ => fail place .notString

/-- An integer. -/
def int : Reader Int
  | _, .int i => .ok i
  | _, .bool b => .ok (if b then 1 else 0)
  | place, .float x =>
    match x.truncate? with
    | some i => if Double.ofInt i = x then .ok i else fail place .notWhole
    | none => fail place .notWhole
  | place, .str _ => fail place .notIntText
  | place, _ => fail place .notInt

/-- A number. -/
def float : Reader Double
  | _, .int i => .ok (.ofInt i)
  | _, .float x => .ok x
  | _, .bool b => .ok (if b then .one else .zero)
  | place, .str _ => fail place .notFloatText
  | place, _ => fail place .notFloat

/-- Items from the `n`th on. -/
def items {α : Type} (read : Reader α) (place : List String) : Nat → List Json → Checked (List α)
  | _, [] => .ok []
  | n, j :: js =>
    apply ((read (place ++ [toString n]) j).map List.cons) (items read place (n + 1) js)

/-- A list. -/
def list {α : Type} (read : Reader α) : Reader (List α)
  | place, .arr js => items read place 0 js
  | place, _ => fail place .notList

/-- A field that must be there. -/
def required {α : Type} (key : String) (read : Reader α) (place : List String) (j : Json) :
    Checked α :=
  match j.get? key with
  | some value => read (place ++ [key]) value
  | none => fail (place ++ [key]) .missing

/-- A field that may be absent. -/
def optional {α : Type} (key : String) (default : α) (read : Reader α) (place : List String)
    (j : Json) : Checked α :=
  match j.get? key with
  | some value => read (place ++ [key]) value
  | none => .ok default

/-- A value or null. -/
def nullable {α : Type} (read : Reader α) : Reader (Option α)
  | _, .null => .ok none
  | place, j => (read place j).map some

/-- An object whose fields are read by `read`. -/
def object {α : Type} (read : Reader α) : Reader α
  | place, .obj fields => read place (.obj fields)
  | place, _ => fail place .notObject

/-- A named block. -/
def blockRef : Reader BlockRef :=
  object fun place j =>
    apply (apply ((required "start_line" int place j).map BlockRef.mk)
      (required "type" string place j)) (required "name" string place j)

/-- A shared run. -/
def lineCluster : Reader LineCluster :=
  object fun place j =>
    apply (apply ((required "block1_lines" (list int) place j).map LineCluster.mk)
      (required "block2_lines" (list int) place j)) (required "code" (list string) place j)

/-- The evidence for a near-copy. -/
def duplicateDetail : Reader DuplicateDetail :=
  object fun place j =>
    apply (apply (apply (apply ((required "block1" blockRef place j).map DuplicateDetail.mk)
      (required "block2" blockRef place j)) (required "similarity" float place j))
      (optional "similar_lines" [] (list lineCluster) place j))
      (optional "message" "" string place j)

/-- A finding. -/
def finding : Reader Finding :=
  object fun place j =>
    apply (apply (apply (apply (apply ((required "file" string place j).map Finding.mk)
      (required "line" int place j)) (required "smell" string place j))
      (required "description" string place j)) (required "fix" string place j))
      (optional "details" none (nullable duplicateDetail) place j)

/-- A diagnostic. -/
def diagnostic : Reader Diagnostic :=
  object fun place j =>
    apply ((required "file" string place j).map Diagnostic.mk) (required "message" string place j)

/-- A report. -/
def report : Reader Report :=
  object fun place j =>
    apply (apply (apply (apply ((required "root" string place j).map Report.mk)
      (optional "files_analyzed" 0 int place j)) (optional "findings" [] (list finding) place j))
      (optional "diagnostics" [] (list diagnostic) place j))
      (optional "duration_seconds" .zero float place j)

end Checked

/-- The finding that a value of JSON spells, or all that is wrong with it. -/
def Finding.ofJson (j : Json) : Checked Finding :=
  Checked.finding [] j

/-- The report that a value of JSON spells, or all that is wrong with it. -/
def Report.ofJson (j : Json) : Checked Report :=
  Checked.report [] j

end SmellScan
