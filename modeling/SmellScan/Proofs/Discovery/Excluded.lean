import Mathlib.Data.List.Basic
import SmellScan.Discovery
import SmellScan.Proofs.PathPattern
import SmellScan.Proofs.Regex.Search

/-!
# Which files patterns leave out

A pattern that spells a word leaves out the files in whose paths the word is spelled, up to case
(`findsPattern_spellings`). The patterns of the usual configuration leave out the files whose paths
end in certain words, and the files of one tool by a name and an extension (`isAnalyzable_usual`).
-/

namespace SmellScan

open Regex

/-- The flags under which a pattern for paths is matched. -/
def caseless : Flags := [.unicode, .ignoreCase]

/-- Characters end in a word, up to case. A line feed behind the word does not count. -/
def EndsIn (word : String) (cs : List Char) : Prop :=
  ∃ before ending rest, cs = before ++ (ending ++ rest) ∧
    Spells caseless word.toList ending ∧ (rest = [] ∨ rest = ['\n'])

/-- Characters hold a word and end in another, up to case, with characters of one line between
them. A line feed behind the second word does not count. -/
def HoldsAndEndsIn (word ending : String) (cs : List Char) : Prop :=
  ∃ before held between last rest, cs = before ++ (held ++ (between ++ (last ++ rest))) ∧
    Spells caseless word.toList held ∧ '\n' ∉ between ∧ Spells caseless ending.toList last ∧
    (rest = [] ∨ rest = ['\n'])

namespace Host

variable {host : Host}

/-! ## Words -/

theorem readPattern_plain {pattern : String} {pieces : List PlainPiece}
    (hrefuses : host.refusesPattern pattern = false) (hpattern : pattern.toList = spell pieces) :
    host.readPattern pattern = .ok ⟨pieces.map PlainPiece.node, caseless, [none]⟩ := by
  rw [readPattern, if_neg (by simp [hrefuses]),
    parse_plain host.namedChar? (by simp) (by simp) hpattern]
  rfl

/-- The pattern that spells a word. -/
def spelling (word : String) : String :=
  String.ofList (quote word.toList)

/-- A word without special characters is the pattern that spells it. -/
theorem spelling_eq_self {word : String} (h : ∀ c ∈ word.toList, c ∉ specials) :
    spelling word = word := by
  rw [spelling, quote_eq_self h, String.ofList_toList]

theorem readPattern_spelling {word : String}
    (hrefuses : host.refusesPattern (spelling word) = false) :
    host.readPattern (spelling word) = .ok ⟨literals word.toList, caseless, [none]⟩ := by
  rw [← map_node_char]
  refine readPattern_plain hrefuses ?_
  rw [spelling, String.toList_ofList, spell_map_char]

/-- **Patterns that spell words leave out the paths in which one of the words is spelled**, up to
case. -/
theorem findsPattern_spellings (path : String) {words : List String}
    (hrefuses : ∀ pattern, host.refusesPattern pattern = false) :
    ∃ b, host.findsPattern path (words.map spelling) = .ok b ∧
      (b = true ↔ ∃ word ∈ words, ∃ before cs after,
        path.toList = before ++ (cs ++ after) ∧ Spells caseless word.toList cs) := by
  induction words with
  | nil => exact ⟨false, rfl, by simp⟩
  | cons word words ih =>
    obtain ⟨b, hb, hiff⟩ := ih
    refine ⟨_, findsPattern_cons (readPattern_spelling (hrefuses _)) hb, ?_⟩
    rw [Bool.or_eq_true, foundIn_word, hiff]
    simp only [List.exists_mem_cons_iff]

/-! ## The usual patterns -/

/-- A word at the end. -/
def endingPieces (word : String) : List PlainPiece :=
  word.toList.map .char ++ [.stop]

/-- A word, characters of one line, and another word at the end. -/
def wordsPieces (word ending : String) : List PlainPiece :=
  word.toList.map .char ++ .anyChars :: endingPieces ending

theorem map_node_endingPieces (word : String) :
    (endingPieces word).map PlainPiece.node = literals word.toList ++ [.anchor .stop] := by
  rw [endingPieces, List.map_append, map_node_char]
  rfl

theorem map_node_wordsPieces (word ending : String) :
    (wordsPieces word ending).map PlainPiece.node = literals word.toList ++
      .loop .greedy 0 none [.any] :: (endingPieces ending).map PlainPiece.node := by
  rw [wordsPieces, List.map_append, map_node_char]
  rfl

theorem isSome_run_endingPieces {groups : List (Option Width)} {word : String} {s : Cursor} :
    (runPart groups ((endingPieces word).map PlainPiece.node) caseless some s).isSome ↔
      ∃ ending rest, s.rest = ending ++ rest ∧ Spells caseless word.toList ending ∧
        (rest = [] ∨ rest = ['\n']) := by
  have hflags : Flag.multiline ∉ caseless := by decide
  rw [map_node_endingPieces]
  simp only [isSome_runPart_literals, isSome_runPart_stop hflags]
  simp [Cursor.beyond]

theorem foundIn_endingPieces {groups : List (Option Width)} {word path : String} :
    (Pattern.mk ((endingPieces word).map PlainPiece.node) caseless groups).foundIn path = true ↔
      EndsIn word path.toList := by
  rw [foundIn_iff]
  simp only [isSome_run_endingPieces, EndsIn]
  constructor
  · rintro ⟨skipped, _, htext, ending, rest, rfl, h⟩
    exact ⟨skipped, ending, rest, htext, h⟩
  · rintro ⟨skipped, ending, rest, htext, h⟩
    exact ⟨skipped, _, htext, ending, rest, rfl, h⟩

theorem foundIn_wordsPieces {groups : List (Option Width)} {word ending path : String} :
    (Pattern.mk ((wordsPieces word ending).map PlainPiece.node) caseless groups).foundIn path =
      true ↔ HoldsAndEndsIn word ending path.toList := by
  have hflags : Flag.dotAll ∉ caseless := by decide
  have hloop (s : Cursor) : (runPart groups (.loop .greedy 0 none [.any] ::
      (endingPieces ending).map PlainPiece.node) caseless some s).isSome ↔
        ∃ between rest, s.rest = between ++ rest ∧ '\n' ∉ between ∧
          (runPart groups ((endingPieces ending).map PlainPiece.node) caseless some
            (s.beyond between rest)).isSome :=
    isSome_run_anyChars hflags
  rw [foundIn_iff]
  dsimp only
  simp only [map_node_wordsPieces, isSome_runPart_literals word.toList, hloop,
    isSome_run_endingPieces, HoldsAndEndsIn]
  constructor
  · rintro ⟨before, _, htext, held, _, rfl, hheld, between, _, hbetween, hline, last, rest, hlast,
      h⟩
    obtain rfl : _ = between ++ _ := hbetween
    obtain rfl : _ = last ++ rest := hlast
    exact ⟨before, held, between, last, rest, htext, hheld, hline, h⟩
  · rintro ⟨before, held, between, last, rest, htext, hheld, hline, h⟩
    exact ⟨before, _, htext, held, _, rfl, hheld, between, _, rfl, hline, last, rest, rfl, h⟩

/-- A path is one that the usual patterns leave out. -/
def IsLeftOut (path : String) : Prop :=
  EndsIn ".min.js" path.toList ∨ EndsIn ".config.js" path.toList ∨
    HoldsAndEndsIn "eslint.config" ".js" path.toList ∨ EndsIn ".d.ts" path.toList

/-- **The usual patterns leave out paths by their ends**, and one kind of configuration by its
name. -/
theorem findsPattern_usual (hrefuses : ∀ pattern, host.refusesPattern pattern = false)
    (path : String) (baseDir : Path) :
    ∃ b, host.findsPattern path ({ baseDir } : Config).excludePatterns = .ok b ∧
      (b = true ↔ IsLeftOut path) := by
  have hmin : "\\.min\\.js$".toList = spell (endingPieces ".min.js") := by decide
  have hconfig : "\\.config\\.js$".toList = spell (endingPieces ".config.js") := by decide
  have htool : "eslint\\.config.*\\.js$".toList = spell (wordsPieces "eslint.config" ".js") := by
    decide
  have htypes : "\\.d\\.ts$".toList = spell (endingPieces ".d.ts") := by decide
  have hnone : host.findsPattern path [] = .ok false := rfl
  refine ⟨_, findsPattern_cons (readPattern_plain (hrefuses _) hmin)
    (findsPattern_cons (readPattern_plain (hrefuses _) hconfig)
      (findsPattern_cons (readPattern_plain (hrefuses _) htool)
        (findsPattern_cons (readPattern_plain (hrefuses _) htypes) hnone))), ?_⟩
  simp only [Bool.or_eq_true, foundIn_endingPieces, foundIn_wordsPieces, Bool.false_eq_true,
    or_false, IsLeftOut]

end Host

namespace Discovery

/-- **What is analysed by default**: the files with an extension of the languages whose paths the
usual patterns do not leave out. -/
theorem isAnalyzable_usual {host : Host}
    (hrefuses : ∀ pattern, host.refusesPattern pattern = false) (p : Path) (baseDir : Path) :
    ∃ b, isAnalyzable host { baseDir } p = .ok b ∧
      (b = true ↔ Text.lower p.suffix ∈ Language.extensions ∧ ¬Host.IsLeftOut p.toString) := by
  obtain ⟨found, hfound, hiff⟩ := Host.findsPattern_usual hrefuses p.toString baseDir
  have hallowed : ({ baseDir } : Config).allowedExtensions = Language.extensions := rfl
  rw [isAnalyzable, hfound, hallowed]
  by_cases hsuffix : Text.lower p.suffix ∈ Language.extensions
  · refine ⟨!found, if_pos (List.contains_iff_mem.2 hsuffix), ?_⟩
    rw [← hiff]
    simp [hsuffix]
  · exact ⟨false, if_neg (by simpa using hsuffix), by simp [hsuffix]⟩

end Discovery

end SmellScan
