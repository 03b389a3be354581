import Mathlib.Data.List.Basic
import SmellScan.Language
import SmellScan.Proofs.Text.Lines

/-!
# Spelling paths

A path whose components are names is read back from its text as it was (`ofString_toString`), so
different paths have different texts, and a file has the same extension by its path and by the text
of its path. Every path that is read from a text is of this kind (`isProper_ofString`).
-/

namespace SmellScan

namespace Path

/-- A text that stands between two slashes of a path and says something there. -/
structure IsComponent (part : String) : Prop where
  ne_empty : part ≠ ""
  ne_dot : part ≠ "."
  no_slash : '/' ∉ part.toList

/-- A path as it is read from a text. -/
structure IsProper (p : Path) : Prop where
  root : p.root = "" ∨ p.root = "/" ∨ p.root = "//"
  parts : ∀ part ∈ p.parts, IsComponent part

theorem isProper_ofString (s : String) : (ofString s).IsProper where
  root := by
    unfold ofString
    dsimp only
    split <;> simp
  parts := by
    intro part hpart
    obtain ⟨hsplit, hkept⟩ := List.mem_filter.1 hpart
    simp only [Bool.and_eq_true, bne_iff_ne] at hkept
    exact ⟨hkept.1, hkept.2, Text.not_mem_of_mem_split hsplit⟩

theorem IsProper.child {p : Path} {name : String} (hp : p.IsProper) (hname : IsComponent name) :
    (p.child name).IsProper where
  root := hp.root
  parts := by
    intro part hpart
    rcases List.mem_append.1 hpart with hpart | hpart
    · exact hp.parts part hpart
    · rwa [List.mem_singleton.1 hpart]

/-! ## Characters -/

variable {parts : List String}

theorem mem_toList_intercalate {c : Char} (hc : c ≠ '/') :
    c ∈ ("/".intercalate parts).toList ↔ ∃ part ∈ parts, c ∈ part.toList := by
  induction parts with
  | nil => simp
  | cons part parts ih =>
    cases parts with
    | nil => simp
    | cons next parts =>
      rw [String.intercalate_cons_cons, String.toList_append, String.toList_append, List.mem_append,
        List.mem_append, ih, List.exists_mem_cons_iff]
      simp [hc]

theorem split_slash_append (s : String) : Text.split '/' ("/" ++ s) = "" :: Text.split '/' s := by
  rw [Text.split, String.toList_append]
  rfl

/-- Components are what is kept of the pieces between slashes. -/
theorem filter_split_intercalate (hparts : ∀ part ∈ parts, IsComponent part) :
    (Text.split '/' ("/".intercalate parts)).filter (fun part => part != "" && part != ".") =
      parts := by
  by_cases hne : parts = []
  · rw [hne]
    decide
  · have hsplit : Text.split '/' ("/".intercalate parts) = parts :=
      Text.split_intercalate hne fun part hpart => (hparts part hpart).no_slash
    rw [hsplit]
    refine List.filter_eq_self.2 fun part hpart => ?_
    simp [(hparts part hpart).ne_empty, (hparts part hpart).ne_dot]

/-- Components that are joined do not begin with a slash. -/
theorem head?_intercalate_ne (hparts : ∀ part ∈ parts, IsComponent part) :
    ("/".intercalate parts).toList.head? ≠ some '/' := by
  cases parts with
  | nil => simp
  | cons part parts =>
    have hpart := hparts part List.mem_cons_self
    have hne : part.toList ≠ [] := fun h => hpart.ne_empty (String.toList_eq_nil_iff.1 h)
    obtain ⟨c, cs, hcs⟩ := List.exists_cons_of_ne_nil hne
    have hc : c ≠ '/' := by
      rintro rfl
      exact hpart.no_slash (hcs ▸ List.mem_cons_self)
    have hhead : ("/".intercalate (part :: parts)).toList.head? = some c := by
      cases parts <;> simp [hcs]
    rw [hhead]
    simpa using hc

theorem root_ofString_append {root s : String} (hroot : root = "" ∨ root = "/" ∨ root = "//")
    (hs : s.toList.head? ≠ some '/') : (ofString (root ++ s)).root = root := by
  unfold ofString
  rw [String.toList_append]
  cases hcs : s.toList with
  | nil => rcases hroot with rfl | rfl | rfl <;> rfl
  | cons c cs =>
    have hc : c ≠ '/' := by simpa [hcs] using hs
    rcases hroot with rfl | rfl | rfl <;> simp [hc]

theorem parts_ofString_append {root s : String} (hroot : root = "" ∨ root = "/" ∨ root = "//") :
    (ofString (root ++ s)).parts = (ofString s).parts := by
  have hslash : ∀ s, (ofString ("/" ++ s)).parts = (ofString s).parts := by
    intro s
    unfold ofString
    rw [split_slash_append]
    rfl
  rcases hroot with rfl | rfl | rfl
  · rw [String.empty_append]
  · exact hslash s
  · exact (hslash ("/" ++ s)).trans (hslash s)

/-- **A proper path is read back from its text.** -/
theorem ofString_toString {p : Path} (hp : p.IsProper) : ofString p.toString = p := by
  obtain ⟨root, parts⟩ := p
  unfold toString
  split_ifs with hhere
  · simp only [Bool.and_eq_true, beq_iff_eq, List.isEmpty_iff] at hhere
    rw [hhere.1, hhere.2]
    decide
  · have hroot := root_ofString_append hp.root (head?_intercalate_ne hp.parts)
    have hparts := (parts_ofString_append hp.root).trans (filter_split_intercalate hp.parts)
    exact congrArg₂ Path.mk hroot hparts

end Path

namespace Language

end Language

end SmellScan
