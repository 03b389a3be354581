import SmellScan.Proofs.Smell.EmptyCatch
import SmellScan.Proofs.Smell.MissingDefault
import SmellScan.Proofs.Smell.PropertyCount
import SmellScan.Proofs.Text.LineStart
import SmellScan.Smell.Registry

/-!
# Reported lines show what is reported

Three checks read their constructs from the whole text, over the ends of lines, and know each of
them by its offset. A construct begins with a word that holds no line feed, so the line that is
reported for it is one of the lines of the unit and has the word at the column of the offset
(`run_shows`).
-/

namespace SmellScan.Smell

open Text

/-- A construct that is read from the whole text of a unit. -/
inductive Construct where
  | catchClause
  | switchStatement
  | objectLiteral
  deriving DecidableEq, Repr

namespace Construct

/-- The smell that a construct can have. -/
def smell : Construct → Smell
  | catchClause => .emptyCatch
  | switchStatement => .missingDefault
  | objectLiteral => .largeObjects

/-- The word with which a construct begins. -/
def word : Construct → List Char
  | catchClause => "catch".toList
  | switchStatement => "switch".toList
  | objectLiteral => "const".toList

/-- The constructs that are found in a text and reported, with their offsets. -/
def reported (config : Config) (cs : List Char) : Construct → List (ℕ × List Char)
  | catchClause => (findAll EmptyCatch.clause? cs).filter fun e => EmptyCatch.Reported e.2
  | switchStatement => MissingDefault.unlabelled cs
  | objectLiteral => LargeObjects.large config cs

/-- What is reported of a construct, given by its offset and its body. -/
def occurrence (cs : List Char) : Construct → ℕ × List Char → Occurrence
  | catchClause => EmptyCatch.occurrence cs
  | switchStatement => MissingDefault.occurrence cs
  | objectLiteral => LargeObjects.occurrence cs

variable {c : Construct} {config : Config} {cs : List Char}

theorem occurrences_smell (c : Construct) (unit : SourceUnit) (config : Config) :
    c.smell.occurrences unit config =
      (c.reported config unit.text.toList).map (c.occurrence unit.text.toList) := by
  cases c with
  | catchClause => exact EmptyCatch.check_eq unit config
  | switchStatement => exact MissingDefault.check_eq unit config
  | objectLiteral => exact LargeObjects.check_eq unit config

theorem line_occurrence (c : Construct) (e : ℕ × List Char) :
    (c.occurrence cs e).line = lineOf cs e.1 := by
  cases c <;> rfl

theorem newline_not_mem_word (c : Construct) : '\n' ∉ c.word := by
  cases c <;> decide

/-- **A construct that is reported begins with its word**, at its offset. -/
theorem exists_word {e : ℕ × List Char} (he : e ∈ c.reported config cs) :
    ∃ before rest, cs = before ++ (c.word ++ rest) ∧ e.1 = before.length := by
  cases c with
  | catchClause =>
    refine EmptyCatch.readsBraced_clause?.exists_word ?_ (List.mem_of_mem_filter he)
    rintro head body ⟨⟨hw, hbinding, hw'⟩, -⟩
    simp only [List.append_assoc]
    exact List.prefix_append _ _
  | switchStatement =>
    refine MissingDefault.readsBraced_statement?.exists_word ?_ (List.mem_of_mem_filter he)
    rintro head body ⟨⟨hw, hne, hsubject, hw'⟩, -⟩
    simp only [List.append_assoc]
    exact List.prefix_append _ _
  | objectLiteral =>
    refine LargeObjects.readsBraced_literal?.exists_word ?_ (List.mem_of_mem_filter he)
    rintro head body ⟨⟨hw, hne, hname, hw', hv⟩, -⟩
    simp only [List.append_assoc]
    exact List.prefix_append _ _

/-- The line of a finding is one of the lines of the unit, and has the word of the construct at the
column of an offset. -/
structure Shows (c : Construct) (unit : SourceUnit) (offset : ℕ) (f : Finding) : Prop where
  pos : 1 ≤ f.line
  le_length : f.line ≤ unit.lines.length
  word : ShowsAt unit.lines c.word f.line.toNat offset

theorem shows_of_line {unit : SourceUnit} {offset n : ℕ} {f : Finding} (hline : f.line = n)
    (h : ShowsAt unit.lines c.word n offset) : c.Shows unit offset f := by
  obtain ⟨hpos, hle⟩ := h.one_le_and_le
  exact ⟨by omega, by omega, by rwa [hline, Int.toNat_natCast]⟩

end Construct

open Construct in
/-- **The lines of findings show the constructs that are found.** The number of a line is that of
the line which covers the offset, for all offsets of a text, and so the findings have, one after the
other, the lines on which the reported constructs begin. -/
theorem run_shows (unit : SourceUnit) (config : Config) (c : Construct) :
    (∀ offset ≤ unit.text.length, ∀ n,
        Covers unit.lines n offset ↔ n = lineOf unit.text.toList offset) ∧
      List.Forall₂ (fun e f => c.Shows unit e.1 f) (c.reported config unit.text.toList)
        (c.smell.run unit config) := by
  refine ⟨fun offset hoffset n => covers_iff hoffset, ?_⟩
  rw [run, occurrences_smell, List.map_map, List.forall₂_map_right_iff, List.forall₂_same]
  intro e he
  obtain ⟨before, rest, hcs, hoffset⟩ := exists_word he
  refine shows_of_line (c.line_occurrence e) ?_
  rw [hoffset]
  exact showsAt_lineOf hcs c.newline_not_mem_word

/-- A switch over several lines behind an empty one, at the end of a text without a line feed
there. -/
theorem run_shows_switch :
    let text := "f();\n\n  switch (x)\n\x7b\n  case 1: g();\n\x7d"
    let unit : SourceUnit := ⟨"a.js", text, .javascript, none, none⟩
    let config : Config := { baseDir := .here }
    let c := Construct.switchStatement
    (c.reported config text.toList).map Prod.fst = [8] ∧ 8 ≤ text.length ∧
      (Covers unit.lines 3 8 ↔ 3 = lineOf text.toList 8) ∧
      List.Forall₂ (fun e f => c.Shows unit e.1 f) (c.reported config text.toList)
        (c.smell.run unit config) := by
  intro text unit config c
  have h := run_shows unit config c
  exact ⟨by decide, by decide, h.1 8 (by decide) 3, h.2⟩

end SmellScan.Smell
