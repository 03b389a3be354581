import SmellScan.Proofs.Numeric.Digits
import SmellScan.Proofs.Smell.ByLine
import SmellScan.Proofs.Text.Lines
import SmellScan.Proofs.Text.Runs
import SmellScan.Proofs.Text.Scan
import SmellScan.Smell.LongParameterList

/-!
# How many parameters a header is said to have

The check for long parameter lists reads the first header of a line and takes for its number of
parameters one more than there are commas in its list. On headers of known form this is compared
with the number of parameters:

* behind the word `function`, a list with nothing in it and a list with a comma at its end are each
  said to have one parameter too many (`check_functionLine`);
* before an arrow, the list is read from the first opening parenthesis of the line on, so that every
  comma between that one and the list counts as well (`check_arrowLine`).

In both cases the check reports what it should if and only if the count is right or the wrong count
is within the limit too (`report_eq_report_iff`).
-/

namespace SmellScan.Smell.LongParameterList

open Occurrence Text

/-- What is said of a header with too many parameters. -/
def describe (config : Config) (count : ℕ) : String :=
  s!"Function has {count} parameters, which exceeds the recommended " ++
    s!"limit of {config.maxParameters}. Consider refactoring the function to " ++
    "use a single configuration object or simplifying the function's responsibilities."

/-- What is wrong with a header of so many parameters, if anything. -/
def excess? (config : Config) (count : ℕ) : Option String :=
  if config.maxParameters < count then some (describe config count) else none

/-- What is to be reported of the line `n` if its header has so many parameters. -/
def report (config : Config) (n count : ℕ) : List Occurrence :=
  ofLine n (excess? config count)

/-- Text that can stand between the commas of a list as one parameter. -/
structure IsParameter (text : List Char) : Prop where
  ink : ∃ c ∈ text, isBlank c = false
  plain : ∀ c ∈ [',', '(', ')', '\n'], c ∉ text

/-- A list of parameters as it is written, with a comma at its end or without. -/
def listed (params : List (List Char)) (trailing : Bool) : List Char :=
  joinWith [','] params ++ if trailing then [','] else []

/-- A line that begins with a header of the word `function`, a name and a list. -/
def functionLine (name : List Char) (params : List (List Char)) (trailing : Bool)
    (rest : List Char) : List Char :=
  "function".toList ++ ' ' :: (name ++ '(' :: (listed params trailing ++ ')' :: rest))

/-- A line that ends in the header of an arrow function. -/
def arrowLine (before : List Char) (params : List (List Char)) : List Char :=
  before ++ '(' :: (listed params false ++ ')' :: " => \x7b".toList)

/-- The number of commas of a text behind its first opening parenthesis. -/
def commasInside (text : List Char) : ℕ :=
  (text.dropWhile (· ≠ '(')).count ','

theorem isParameter_iff {text : List Char} : IsParameter text ↔
    text.any (!isBlank ·) = true ∧ [',', '(', ')', '\n'].all (!text.contains ·) = true := by
  simp only [List.any_eq_true, List.all_eq_true, Bool.not_eq_true', List.contains_eq_mem,
    decide_eq_false_iff_not]
  exact ⟨fun h => ⟨h.ink, h.plain⟩, fun h => ⟨h.1, h.2⟩⟩

instance (text : List Char) : Decidable (IsParameter text) :=
  decidable_of_iff _ isParameter_iff.symm

variable {unit : SourceUnit} {config : Config} {k : ℕ} {line : String}

/-! ## What is reported of a line -/

theorem check_eq (unit : SourceUnit) (config : Config) :
    check unit config = byLine unit fun cs => (lineCount? cs).bind (excess? config) := by
  rw [check, byLine, List.filterMap_eq_flatMap_toList]
  congr 1
  funext e
  cases h : lineCount? e.2.toList with
  | none => simp [h, ofLine]
  | some count =>
    simp only [h, ofLine, excess?, Option.bind_some]
    split_ifs <;> rfl

theorem onLine_check (hline : unit.lines[k]? = some line) {count : ℕ}
    (hcount : lineCount? line.toList = some count) :
    onLine (k + 1) (check unit config) = report config (k + 1) count := by
  rw [check_eq, onLine_byLine hline, hcount]
  rfl

/-- Between the same words no two numbers are spelled alike. -/
theorem eq_of_spelled_eq {first second third fourth : String} {m n : ℕ}
    (h : first ++ toString m ++ second ++ third ++ fourth =
      first ++ toString n ++ second ++ third ++ fourth) : m = n := by
  simp only [String.append_left_inj, String.append_right_inj] at h
  have hdigits := congrArg (fun s : String => digitsValue s.toList) h
  simpa [toString, Nat.repr] using hdigits

theorem describe_injective (config : Config) : Function.Injective (describe config) :=
  fun _ _ h => eq_of_spelled_eq h

/-- **Two counts are reported alike if they are the same or both within the limit.** -/
theorem report_eq_report_iff {n count count' : ℕ} :
    report config n count = report config n count' ↔
      count = count' ∨ (count ≤ config.maxParameters ∧ count' ≤ config.maxParameters) := by
  have hwrong : report config n count = report config n count' ↔
      excess? config count = excess? config count' := by
    constructor
    · intro h
      have hmap := congrArg (List.map Occurrence.description) h
      cases h₁ : excess? config count <;> cases h₂ : excess? config count' <;>
        simp [report, ofLine, h₁, h₂] at hmap ⊢
      exact hmap
    · intro h
      rw [report, h, report]
  rw [hwrong, excess?, excess?]
  split_ifs with h h' h'
  · rw [Option.some.injEq, (describe_injective config).eq_iff]
    constructor
    · exact Or.inl
    · rintro (heq | ⟨hle, -⟩)
      · exact heq
      · omega
  · simp only [false_iff]
    omega
  · simp only [false_iff]
    omega
  · simp only [true_iff]
    omega

/-! ## Lists as they are written -/

theorem count_joinWith {params : List (List Char)} (hne : params ≠ [])
    (hparams : ∀ p ∈ params, IsParameter p) :
    (joinWith [','] params).count ',' + 1 = params.length := by
  rw [← length_splitOn, splitOn_joinWith hne fun p hp => (hparams p hp).plain ',' (by simp)]

theorem not_mem_listed {params : List (List Char)} (hparams : ∀ p ∈ params, IsParameter p)
    (trailing : Bool) : ')' ∉ listed params trailing := by
  have hjoin : ')' ∉ joinWith [','] params :=
    not_mem_joinWith (by decide) fun p hp => (hparams p hp).plain ')' (by simp)
  cases trailing <;> simp [listed, hjoin]

/-- An empty list counts as one parameter, and a comma at the end adds one. -/
theorem countParameters_listed {params : List (List Char)} {trailing : Bool}
    (hparams : ∀ p ∈ params, IsParameter p) (htrailing : trailing = true → params ≠ []) :
    countParameters (listed params trailing) =
      params.length + if params = [] ∨ trailing = true then 1 else 0 := by
  rw [countParameters, listed, List.count_append]
  by_cases hne : params = []
  · have hfalse : trailing = false := by
      cases trailing with
      | false => rfl
      | true => exact absurd hne (htrailing rfl)
    simp [hne, hfalse, joinWith]
  · have hcount := count_joinWith hne hparams
    cases trailing with
    | false => simp [hne, hcount]
    | true => simp [hcount]

/-! ## Headers behind the word -/

theorem parenthesized?_append {inner : List Char} (hinner : ')' ∉ inner) (rest : List Char) :
    parenthesized? ('(' :: (inner ++ ')' :: rest)) = some (inner, rest) :=
  upTo?_eq_some.2 ⟨hinner, rfl⟩

theorem header?_functionLine {name : List Char} {params : List (List Char)} {trailing : Bool}
    (hname : ∀ c ∈ name, isWord c = true) (hparams : ∀ p ∈ params, IsParameter p)
    (rest : List Char) :
    header? (functionLine name params trailing rest) = some (listed params trailing) := by
  let list := '(' :: (listed params trailing ++ ')' :: rest)
  have hword : stripStart? "function".toList (functionLine name params trailing rest) =
      some (' ' :: (name ++ list)) :=
    stripStart?_eq_some.2 rfl
  have hparen : isWord '(' = false := by decide
  have hopen : list.dropWhile isWord = list := List.dropWhile_cons_of_neg (by simp [hparen])
  have htrim : trimLeft list = list := trimLeft_cons (by decide) _
  have hlist : trimLeft ((trimLeft (name ++ list)).dropWhile isWord) = list := by
    by_cases hne : name = []
    · rw [hne, List.nil_append, htrim, hopen, htrim]
    · rw [IsName.trimLeft_append ⟨hne, hname⟩, List.dropWhile_append_of_pos hname, hopen, htrim]
  have hblank : isBlank ' ' = true := by decide
  rw [header?, functionHeader?, hword]
  simp only [hblank, if_true, hlist, list]
  rw [parenthesized?_append (not_mem_listed hparams trailing)]
  rfl

/-- **A plain header is said to have as many parameters as it has, and one more if its list is empty
or ends in a comma.** So it is reported as it should be if its list does neither, or if the limit is
above the number of its parameters. -/
theorem check_functionLine (unit : SourceUnit) (config : Config) {k : ℕ} {line : String}
    {name rest : List Char} {params : List (List Char)} {trailing : Bool}
    (hline : unit.lines[k]? = some line)
    (hheader : line.toList = functionLine name params trailing rest)
    (hname : ∀ c ∈ name, isWord c = true) (hparams : ∀ p ∈ params, IsParameter p)
    (htrailing : trailing = true → params ≠ []) :
    onLine (k + 1) (check unit config) = report config (k + 1)
        (params.length + if params = [] ∨ trailing = true then 1 else 0) ∧
      (onLine (k + 1) (check unit config) = report config (k + 1) params.length ↔
        params ≠ [] ∧ trailing = false ∨ params.length < config.maxParameters) := by
  have hcount : lineCount? line.toList =
      some (params.length + if params = [] ∨ trailing = true then 1 else 0) := by
    rw [hheader, lineCount?, findFirst?_of_eq_some (header?_functionLine hname hparams rest),
      Option.map_some, countParameters_listed hparams htrailing]
  have hreport : onLine (k + 1) (check unit config) = _ := onLine_check hline hcount
  refine ⟨hreport, ?_⟩
  rw [hreport, report_eq_report_iff]
  split_ifs with h
  · have hnot : ¬(params ≠ [] ∧ trailing = false) := by
      rintro ⟨hne, hfalse⟩
      rcases h with hnil | htrue
      · exact hne hnil
      · rw [hfalse] at htrue
        cases htrue
    simp only [hnot, false_or]
    omega
  · simp only [not_or, Bool.not_eq_true] at h
    simp [h]

/-- A list that is counted as it should be. -/
theorem check_functionLine_exact :
    let unit : SourceUnit :=
      ⟨"a.js", "run();\nfunction build(a, b, c) \x7b\x7d", .javascript, none, none⟩
    let config : Config := { baseDir := .here }
    onLine 2 (check unit config) = report config 2 3 := by
  intro unit config
  have hline : unit.lines[1]? = some "function build(a, b, c) \x7b\x7d" := by decide
  have hheader : "function build(a, b, c) \x7b\x7d".toList = functionLine "build".toList
      ["a".toList, " b".toList, " c".toList] false " \x7b\x7d".toList := by
    decide
  have hname : ∀ c ∈ "build".toList, isWord c = true := List.all_eq_true.1 (by decide)
  exact (check_functionLine unit config hline hheader hname (by decide) (by decide)).1

/-- A comma at the end of a list counts for a parameter, and so does a list with nothing in it. -/
theorem check_functionLine_surplus :
    let config : Config := { baseDir := .here }
    let trailing : SourceUnit := ⟨"example.js", "function f(a, b,)", .javascript, none, none⟩
    let strict : Config := { baseDir := .here, maxParameters := 0 }
    let empty : SourceUnit := ⟨"example.js", "function f()", .javascript, none, none⟩
    trailing.lines = [String.ofList (functionLine ['f'] [['a'], [' ', 'b']] true [])] ∧
      IsParameter ['a'] ∧ IsParameter [' ', 'b'] ∧
      onLine 1 (check trailing config) ≠ report config 1 2 ∧
      empty.lines = [String.ofList (functionLine ['f'] [] false [])] ∧
      onLine 1 (check empty strict) ≠ report strict 1 0 := by
  intro config trailing strict empty
  refine ⟨by decide, by decide, by decide, ?_, by decide, ?_⟩
  · have hline : trailing.lines[0]? = some "function f(a, b,)" := by decide
    have hcount : lineCount? "function f(a, b,)".toList = some 3 := by decide
    rw [onLine_check hline hcount, Ne, report_eq_report_iff]
    decide
  · have hline : empty.lines[0]? = some "function f()" := by decide
    have hcount : lineCount? "function f()".toList = some 1 := by decide
    rw [onLine_check hline hcount, Ne, report_eq_report_iff]
    decide

/-! ## Headers before an arrow -/

/-- No header begins before the first opening parenthesis where the word does not stand. -/
theorem header?_eq_none {later : List Char} (hne : later ≠ []) (hopen : '(' ∉ later)
    (hword : ¬"function".toList <+: later) (rest : List Char) :
    header? (later ++ '(' :: rest) = none := by
  have hfunction : functionHeader? (later ++ '(' :: rest) = none := by
    rw [functionHeader?, stripStart?_append_cons (by decide) hword]
  have harrow : arrowHeader? (later ++ '(' :: rest) = none := by
    obtain ⟨c, later, rfl⟩ := List.exists_cons_of_ne_nil hne
    have hc : c ≠ '(' := by
      rintro rfl
      exact hopen List.mem_cons_self
    have hread : parenthesized? (c :: later ++ '(' :: rest) = none := by
      rw [List.cons_append, parenthesized?]
      exact fun _ hsplit => hc (List.cons.inj hsplit).1
    rw [arrowHeader?, hread]
  rw [header?, hfunction]
  exact harrow

theorem header?_arrow {inner : List Char} (hinner : ')' ∉ inner) :
    header? ('(' :: (inner ++ ')' :: " => \x7b".toList)) = some inner := by
  have hfunction : functionHeader? ('(' :: (inner ++ ')' :: " => \x7b".toList)) = none := by
    rw [functionHeader?, ← List.nil_append ('(' :: _),
      stripStart?_append_cons (by decide) (by decide)]
  have harrow : stripStart? ['=', '>'] (trimLeft " => \x7b".toList) = some " \x7b".toList := by
    decide
  rw [header?, hfunction]
  simp only [arrowHeader?, parenthesized?_append hinner, harrow, Option.map_some]

theorem lineCount?_arrow {outer inner : List Char} (hopen : '(' ∉ outer)
    (hword : ¬"function".toList <:+: outer) (hinner : ')' ∉ inner) :
    lineCount? (outer ++ '(' :: (inner ++ ')' :: " => \x7b".toList)) =
      some (countParameters inner) := by
  rw [lineCount?, findFirst?_append, findFirst?_of_eq_some (header?_arrow hinner), Option.map_some]
  intro later hne hlater
  refine header?_eq_none hne (fun hmem => hopen (hlater.mem hmem)) (fun hword' => hword ?_) _
  exact hword'.isInfix.trans hlater.isInfix

theorem commasInside_append {outer : List Char} (houter : '(' ∉ outer) (args : List Char) :
    commasInside (outer ++ '(' :: args) = args.count ',' := by
  rw [commasInside, List.dropWhile_append_of_pos (forall_ne_of_not_mem houter),
    List.dropWhile_cons_of_neg (by decide), List.count_cons_of_ne (by decide)]

theorem commasInside_of_not_mem {text : List Char} (h : '(' ∉ text) : commasInside text = 0 := by
  rw [commasInside, List.dropWhile_eq_nil_iff.2 (forall_ne_of_not_mem h), List.count_nil]

theorem lineCount?_arrowLine {before : List Char} {params : List (List Char)}
    (hword : ¬"function".toList <:+: before) (hclose : ')' ∉ before) (hne : params ≠ [])
    (hparams : ∀ p ∈ params, IsParameter p) :
    lineCount? (arrowLine before params) = some (params.length + commasInside before) := by
  have hlist := not_mem_listed hparams false
  have hlisted : countParameters (listed params false) = params.length := by
    rw [countParameters_listed hparams (by simp)]
    simp [hne]
  by_cases hopen : '(' ∈ before
  · obtain ⟨outer, args, rfl, houter⟩ := List.eq_append_cons_of_mem hopen
    -- the list is read together with the arguments before it
    have hsplit : arrowLine (outer ++ '(' :: args) params =
        outer ++ '(' :: (args ++ '(' :: listed params false ++ ')' :: " => \x7b".toList) := by
      change outer ++ '(' :: args ++ '(' :: (listed params false ++ ')' :: " => \x7b".toList) = _
      simp only [List.append_assoc, List.cons_append]
    have hinner : ')' ∉ args ++ '(' :: listed params false := by
      simp only [List.mem_append, List.mem_cons, not_or] at hclose ⊢
      exact ⟨hclose.2.2, by decide, hlist⟩
    have hinfix : outer <:+: outer ++ '(' :: args := ⟨[], '(' :: args, rfl⟩
    have hcount : countParameters (args ++ '(' :: listed params false) =
        args.count ',' + countParameters (listed params false) := by
      rw [countParameters, countParameters, List.count_append, List.count_cons_of_ne (by decide),
        Nat.add_assoc]
    rw [hsplit, lineCount?_arrow houter (fun h => hword (h.trans hinfix)) hinner, hcount, hlisted,
      commasInside_append houter, Nat.add_comm]
  · have hread : lineCount? (arrowLine before params) = _ := lineCount?_arrow hopen hword hlist
    rw [hread, hlisted, commasInside_of_not_mem hopen]
    rfl

/-- **The parameters of an arrow function are counted from the first opening parenthesis of its line
on.** So they are reported as they should be if no comma stands between that one and their own, or
if the count is within the limit with all these commas. -/
theorem check_arrowLine (unit : SourceUnit) (config : Config) {k : ℕ} {line : String}
    {before : List Char} {params : List (List Char)} (hline : unit.lines[k]? = some line)
    (hheader : line.toList = arrowLine before params) (hword : ¬"function".toList <:+: before)
    (hclose : ')' ∉ before) (hne : params ≠ []) (hparams : ∀ p ∈ params, IsParameter p) :
    onLine (k + 1) (check unit config) =
        report config (k + 1) (params.length + commasInside before) ∧
      (onLine (k + 1) (check unit config) = report config (k + 1) params.length ↔
        commasInside before = 0 ∨ params.length + commasInside before ≤ config.maxParameters) := by
  have hcount : lineCount? line.toList = some (params.length + commasInside before) := by
    rw [hheader, lineCount?_arrowLine hword hclose hne hparams]
  have hreport : onLine (k + 1) (check unit config) = _ := onLine_check hline hcount
  refine ⟨hreport, ?_⟩
  rw [hreport, report_eq_report_iff]
  omega

/-- A callback that is the only argument of its call. -/
theorem check_arrowLine_only :
    let unit : SourceUnit := ⟨"a.js", "load();\nthen((a, b, c) => \x7b", .javascript, none, none⟩
    let config : Config := { baseDir := .here }
    onLine 2 (check unit config) = report config 2 3 := by
  intro unit config
  have hline : unit.lines[1]? = some "then((a, b, c) => \x7b" := by decide
  have hheader : "then((a, b, c) => \x7b".toList =
      arrowLine "then(".toList ["a".toList, " b".toList, " c".toList] := by
    decide
  have hword : ¬"function".toList <:+: "then(".toList :=
    fun h => absurd (h.mem List.mem_cons_self) (by decide)
  exact (check_arrowLine unit config hline hheader hword (by decide) (by decide) (by decide)).1

/-- The argument before a callback is counted among its parameters. -/
theorem check_arrowLine_route :
    let config : Config := { baseDir := .here }
    let line := "app.get(route, (req, res) => \x7b"
    let unit : SourceUnit := ⟨"example.js", line, .javascript, none, none⟩
    let before := "app.get(route, ".toList
    let params := ["req".toList, " res".toList]
    unit.lines = [line] ∧ line.toList = arrowLine before params ∧
      ¬"function".toList <:+: before ∧ ¬['=', '>'] <:+: before ∧ ')' ∉ before ∧ '\n' ∉ before ∧
      (∀ p ∈ params, IsParameter p) ∧
      onLine 1 (check unit config) ≠ report config 1 params.length := by
  intro config line unit before params
  have hword : ¬"function".toList <:+: before :=
    fun h => absurd (h.mem List.mem_cons_self) (by decide)
  have harrow : ¬['=', '>'] <:+: before :=
    fun h => absurd (h.mem List.mem_cons_self) (by decide)
  refine ⟨by decide, by decide, hword, harrow, by decide, by decide, by decide, ?_⟩
  have hline : unit.lines[0]? = some line := by decide
  have hcount : lineCount? line.toList = some 3 := by decide
  rw [onLine_check hline hcount, Ne, report_eq_report_iff]
  decide

end SmellScan.Smell.LongParameterList
