import SmellScan.Proofs.Json.RoundTrip
import SmellScan.Report.Json
import SmellScan.Report.Reader

/-!
# The JSON text of a report can be read back

Every part of a report is found again in its value of JSON (`inverts_report`): the reader of a field
looks for its key and is given what the writer put there, lists item by item and absent evidence as
null. With the text of values read back as they are written, no report with finite doubles loses
anything (`ofJson_parse_json`).
-/

namespace SmellScan

open Similarity (LineCluster)

namespace Checked

/-! ## Readers and writers -/

/-- At every place the reader finds what the writer put there. -/
def Inverts {α : Type} (read : Reader α) (write : α → Json) : Prop :=
  ∀ place a, read place (write a) = .ok a

section Fields

variable {α : Type} {read : Reader α} {write : α → Json} (h : Inverts read write)
include h

theorem Inverts.required {j : Json} {key : String} {a : α} (hget : j.get? key = some (write a))
    (place : List String) : Checked.required key read place j = .ok a := by
  simp only [Checked.required, hget]
  exact h _ a

theorem Inverts.optional {j : Json} {key : String} {a : α} (hget : j.get? key = some (write a))
    (default : α) (place : List String) : Checked.optional key default read place j = .ok a := by
  simp only [Checked.optional, hget]
  exact h _ a

/-- Lists are found again item by item. -/
theorem Inverts.list : Inverts (Checked.list read) fun as => .arr (as.map write) := by
  intro place as
  have hitems : ∀ n, items read place n (as.map write) = .ok as := by
    induction as with
    | nil => exact fun _ => rfl
    | cons a as ih =>
      intro n
      rw [List.map_cons, items, h, ih]
      rfl
  exact hitems 0

/-- What may be absent is null, if nothing that is present is. -/
theorem Inverts.nullable (hnull : ∀ a, write a ≠ .null) :
    Inverts (Checked.nullable read) fun a => a.elim .null write := by
  intro place a
  cases a with
  | none => rfl
  | some a =>
    simp only [Option.elim_some, Checked.nullable]
    split
    case h_1 heq => exact absurd heq (hnull a)
    case h_2 =>
      rw [h]
      rfl

end Fields

theorem inverts_string : Inverts string .str := fun _ _ => rfl

theorem inverts_int : Inverts int .int := fun _ _ => rfl

theorem inverts_float : Inverts float .float := fun _ _ => rfl

/-! ## Parts of a report -/

theorem inverts_blockRef : Inverts blockRef BlockRef.toJson := by
  intro place b
  rfl

theorem inverts_lineCluster : Inverts lineCluster LineCluster.toJson := by
  intro place c
  simp only [LineCluster.toJson, lineCluster, object]
  rw [inverts_int.list.required rfl, inverts_int.list.required rfl,
    inverts_string.list.required rfl]
  rfl

theorem inverts_duplicateDetail : Inverts duplicateDetail DuplicateDetail.toJson := by
  intro place d
  simp only [DuplicateDetail.toJson, duplicateDetail, object]
  rw [inverts_blockRef.required rfl, inverts_blockRef.required rfl, inverts_float.required rfl,
    inverts_lineCluster.list.optional rfl, inverts_string.optional rfl]
  rfl

theorem get?_details (f : Finding) :
    f.toJson.get? "details" = some (f.details.elim .null DuplicateDetail.toJson) := by
  obtain ⟨_, _, _, _, _, _ | d⟩ := f <;> rfl

theorem inverts_finding : Inverts finding Finding.toJson := by
  intro place f
  have hdetails : ∀ default, optional "details" default (nullable duplicateDetail) place f.toJson =
      .ok f.details := fun default =>
    (inverts_duplicateDetail.nullable fun d => Json.noConfusion).optional (get?_details f) default _
  simp only [Finding.toJson, finding, object] at hdetails ⊢
  rw [inverts_string.required rfl, inverts_int.required rfl, inverts_string.required rfl,
    inverts_string.required rfl, inverts_string.required rfl, hdetails]
  rfl

theorem inverts_diagnostic : Inverts diagnostic Diagnostic.toJson := by
  intro place d
  rfl

/-- **A report is found again in its value of JSON.** -/
theorem inverts_report : Inverts report Report.toJson := by
  intro place r
  simp only [Report.toJson, report, object]
  rw [inverts_string.required rfl, inverts_int.optional rfl, inverts_finding.list.optional rfl,
    inverts_diagnostic.list.optional rfl, inverts_float.optional rfl]
  rfl

end Checked

/-! ## Reports with finite doubles -/

open Json (FiniteFloats)

theorem Json.FiniteFloats.arr_map {α : Type} {write : α → Json} {as : List α}
    (h : ∀ a ∈ as, FiniteFloats (write a)) : FiniteFloats (.arr (as.map write)) :=
  .arr (List.forall_mem_map.2 h)

theorem Json.FiniteFloats.obj_forall {fields : List (String × Json)}
    (h : fields.Forall fun field => FiniteFloats field.2) : FiniteFloats (.obj fields) :=
  .obj (List.forall_iff_forall_mem.1 h)

theorem BlockRef.finiteFloats (b : BlockRef) : FiniteFloats b.toJson := by
  refine .obj_forall ?_
  simp only [List.Forall]
  exact ⟨.int _, .str _, .str _⟩

theorem Similarity.LineCluster.finiteFloats (c : LineCluster) : FiniteFloats c.toJson := by
  refine .obj_forall ?_
  simp only [List.Forall]
  exact ⟨.arr_map fun i _ => .int i, .arr_map fun i _ => .int i, .arr_map fun s _ => .str s⟩

theorem DuplicateDetail.finiteFloats {d : DuplicateDetail} (h : d.similarity.IsDouble) :
    FiniteFloats d.toJson := by
  refine .obj_forall ?_
  simp only [List.Forall]
  exact ⟨d.block1.finiteFloats, d.block2.finiteFloats, .float h,
    .arr_map fun c _ => c.finiteFloats, .str _⟩

theorem Finding.finiteFloats {f : Finding} (h : ∀ d ∈ f.details, d.similarity.IsDouble) :
    FiniteFloats f.toJson := by
  refine .obj_forall ?_
  simp only [List.Forall]
  refine ⟨.str _, .int _, .str _, .str _, .str _, ?_⟩
  split
  case h_1 d hd => exact DuplicateDetail.finiteFloats (h d hd)
  case h_2 => exact .null

theorem Diagnostic.finiteFloats (d : Diagnostic) : FiniteFloats d.toJson := by
  refine .obj_forall ?_
  simp only [List.Forall]
  exact ⟨.str _, .str _⟩

namespace Report

/-- Every double of the report is a finite number. -/
structure HasDoubles (r : Report) : Prop where
  duration : r.duration.IsDouble
  similarity : ∀ f ∈ r.findings, ∀ d ∈ f.details, d.similarity.IsDouble

theorem HasDoubles.finiteFloats {r : Report} (h : r.HasDoubles) : FiniteFloats r.toJson := by
  refine .obj_forall ?_
  simp only [List.Forall]
  exact ⟨.str _, .int _, .arr_map fun f hf => Finding.finiteFloats (h.similarity f hf),
    .arr_map fun d _ => d.finiteFloats, .float h.duration⟩

/-- **The JSON text of a report loses nothing.** Whatever its texts, integers, lists and evidence,
the text is JSON, and the value it spells is read as an equal report. -/
theorem ofJson_parse_json (r : Report) (h : r.HasDoubles) :
    (Json.parse r.json).map Report.ofJson = some (.ok r) := by
  rw [json, Json.parse_indented h.finiteFloats, Option.map_some]
  congr 1
  exact Checked.inverts_report [] r

/-- A report with quotes, controls and a character above sixteen bits in its texts, integers beyond
the precision of doubles, a negative zero, and evidence that is present in one finding only. -/
def awkward : Report where
  root := "a\"\\\x01\n/😀"
  filesAnalyzed := 2 ^ 70 + 1
  findings :=
    [{ file := "", line := -3, smell := "\t", description := "\x7b", fix := "],", details := none },
     { file := "é\u2028", line := 10 ^ 20, smell := "s", description := "d", fix := "f",
       details := some {
         block1 := ⟨1, "method", "a\x7f"⟩
         block2 := ⟨0, "", "\r"⟩
         similarity := .finite false (3602879701896397 * 2 ^ 1019)
         similarLines := [⟨[], [7], ["\\u0041", ""]⟩]
         message := "\x0c" } }]
  diagnostics := []
  duration := .finite true 0

theorem ofJson_parse_json_awkward :
    awkward.HasDoubles ∧ (Json.parse awkward.json).map Report.ofJson = some (.ok awkward) := by
  have h : awkward.HasDoubles := ⟨by decide +kernel, by decide +kernel⟩
  exact ⟨h, ofJson_parse_json awkward h⟩

end Report

end SmellScan
