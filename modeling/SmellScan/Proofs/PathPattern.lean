import Mathlib.Data.List.Basic
import SmellScan.Config
import SmellScan.PathPattern
import SmellScan.Proofs.Regex.Depth

/-!
# Reading patterns

Where all patterns of a list can be read, a path is compared with all of them
(`findsPattern_eq_ok`). The patterns of the usual configuration can be read
(`exists_readPattern_default`), and only the host finds a pattern too deep
(`readPattern_eq_tooDeep_iff`).
-/

namespace SmellScan.Host

variable {host : Host} {pattern : String}

theorem exists_readPattern (hrefuses : host.refusesPattern pattern = false)
    (hparse : (Regex.parse host.namedChar? [.ignoreCase] pattern).isOk = true) :
    ∃ read, host.readPattern pattern = .ok read := by
  unfold readPattern
  rw [if_neg (by simp [hrefuses])]
  cases h : Regex.parse host.namedChar? [.ignoreCase] pattern with
  | ok read => exact ⟨read, rfl⟩
  | error fault =>
    rw [h] at hparse
    cases hparse

/-- **A pattern is too deep if the host refuses it**, and only then. -/
theorem readPattern_eq_tooDeep_iff :
    host.readPattern pattern = .error ⟨pattern, .tooDeep⟩ ↔ host.refusesPattern pattern = true := by
  unfold readPattern
  split_ifs with hrefuses
  · simp [hrefuses]
  · cases h : Regex.parse host.namedChar? [.ignoreCase] pattern with
    | ok read => simp [hrefuses, Except.mapError]
    | error fault =>
      have hne : fault ≠ .tooDeep := by
        rintro rfl
        exact Regex.parse_ne_tooDeep _ _ _ h
      simp [hrefuses, hne, Except.mapError]

theorem findsPattern_cons {path : String} {read : Regex.Pattern} {patterns : List String}
    {b : Bool} (hread : host.readPattern pattern = .ok read)
    (h : host.findsPattern path patterns = .ok b) :
    host.findsPattern path (pattern :: patterns) = .ok (read.foundIn path || b) := by
  rw [findsPattern, hread, h]
  change (if read.foundIn path = true then Except.ok true else _) = _
  cases read.foundIn path <;> rfl

/-- **Patterns that can be read are tried one after the other**: one of them is found in a path. -/
theorem findsPattern_eq_ok (path : String) {patterns : List String}
    {read : String → Regex.Pattern}
    (h : ∀ pattern ∈ patterns, host.readPattern pattern = .ok (read pattern)) :
    host.findsPattern path patterns = .ok (patterns.any fun pattern =>
      (read pattern).foundIn path) := by
  induction patterns with
  | nil => rfl
  | cons pattern patterns ih =>
    obtain ⟨hread, hpatterns⟩ := List.forall_mem_cons.1 h
    rw [List.any_cons]
    exact findsPattern_cons hread (ih hpatterns)

theorem exists_findsPattern (path : String) {patterns : List String}
    (h : ∀ pattern ∈ patterns, ∃ read, host.readPattern pattern = .ok read) :
    ∃ b, host.findsPattern path patterns = .ok b := by
  have hread : ∀ pattern ∈ patterns,
      host.readPattern pattern = .ok ((host.readPattern pattern).toOption.getD ⟨[], [], []⟩) := by
    intro pattern hpattern
    obtain ⟨read, hread⟩ := h pattern hpattern
    rw [hread]
    rfl
  exact ⟨_, findsPattern_eq_ok path hread⟩

/-- The patterns of the usual configuration can be read. -/
theorem exists_readPattern_default (parse : Language → String → ParseTree) (baseDir : Path) :
    ∀ pattern ∈ ({ baseDir } : Config).excludePatterns,
      ∃ read, (Host.usual parse).readPattern pattern = .ok read := by
  have hparse : ∀ pattern ∈ ({ baseDir := .here } : Config).excludePatterns,
      (Regex.parse (fun _ => none) [.ignoreCase] pattern).isOk = true := by
    decide +kernel
  exact fun pattern hpattern => exists_readPattern rfl (hparse pattern hpattern)

theorem refusesLevel_usual (parse : Language → String → ParseTree) {level : ℕ} (h : level ≤ 900) :
    (Host.usual parse).refusesLevel level = false :=
  decide_eq_false (Nat.not_lt.2 h)

end SmellScan.Host
