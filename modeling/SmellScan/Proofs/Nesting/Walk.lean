import Mathlib.Data.Int.Notation
import Mathlib.Data.List.Basic
import SmellScan.Nesting
import SmellScan.Proofs.FirstWins

/-!
# The walk behind the nested lines

The search for nested lines goes over a tree and keeps what it has found as it goes. Here the walk
is taken apart from the search: `walk` lists the nodes in the order of the visit, each with its
depth, and knows neither limit nor lines found. The search keeps the first violation of each line
along the walk (`analyze_eq_firsts`), so a line is found if and only if the walk shows it at some
depth above the limit (`mem_lines_analyze`).

Searches with two limits go along one walk. The narrower limit finds more nodes too deep, and one of
these may be the first on a line where the wider limit finds another one further on; it is then
within the wider limit, and so not as deep as that one (`analyze_narrower`).
-/

namespace SmellScan.Nesting

mutual

/-- The nodes in the order of the visit, with the depth inside each. -/
def walk (depth : ℕ) : SyntaxNode → List (SyntaxNode × ℕ)
  | .mk info body arguments children =>
    let inside := depthInside info.kind depth
    (.mk info body arguments children, inside) ::
      ((if info.kind = .callExpression then walkAll inside arguments else []) ++
        (walkBody inside body ++ walkAll inside children))

/-- The nodes of a body. -/
def walkBody (depth : ℕ) : Body SyntaxNode → List (SyntaxNode × ℕ)
  | .none => []
  | .one n => walk depth n
  | .seq ns => walkAll depth ns

/-- The nodes of several trees, one after the other. -/
def walkAll (depth : ℕ) : List SyntaxNode → List (SyntaxNode × ℕ)
  | [] => []
  | n :: ns => walk depth n ++ walkAll depth ns

end

/-- The nodes below a node, by the depth inside it. -/
def walkBelow (inside : ℕ) (n : SyntaxNode) : List (SyntaxNode × ℕ) :=
  (if n.info.kind = .callExpression then walkAll inside n.arguments else []) ++
    (walkBody inside n.body ++ walkAll inside n.children)

theorem walk_eq_cons (depth : ℕ) (n : SyntaxNode) :
    walk depth n =
      (n, depthInside n.info.kind depth) :: walkBelow (depthInside n.info.kind depth) n := by
  cases n
  rfl

/-- The violation at a node of the walk, if there is one. -/
def violation? (maxDepth : ℤ) (e : SyntaxNode × ℕ) : Option NestingViolation :=
  e.1.info.line.bind fun l => if maxDepth < e.2 then some ⟨l, e.2⟩ else none

/-- What a node of the walk does to the violations found. -/
def note (maxDepth : ℤ) (found : List NestingViolation) (e : SyntaxNode × ℕ) :
    List NestingViolation :=
  report maxDepth e.1.info.line e.2 found

/-! ## The search along the walk -/

mutual

/-- **The search goes along the walk.** -/
theorem visit_eq_foldl (maxDepth : ℤ) (depth : ℕ) (n : SyntaxNode)
    (found : List NestingViolation) :
    visit maxDepth depth n found = (walk depth n).foldl (note maxDepth) found := by
  cases n with
  | mk info body arguments children =>
    -- the depth is passed down by value, so each slot is walked from the same depth
    rw [visit, walk, List.foldl_cons, List.foldl_append, List.foldl_append,
      visitAll_eq_foldl maxDepth _ children, visitBody_eq_foldl maxDepth _ body]
    by_cases hcall : info.kind = .callExpression
    · rw [if_pos hcall, if_pos hcall, visitAll_eq_foldl maxDepth _ arguments]
      rfl
    · rw [if_neg hcall, if_neg hcall]
      rfl

theorem visitBody_eq_foldl (maxDepth : ℤ) (depth : ℕ) (b : Body SyntaxNode)
    (found : List NestingViolation) :
    visitBody maxDepth depth b found = (walkBody depth b).foldl (note maxDepth) found := by
  cases b with
  | none => rfl
  | one n => exact visit_eq_foldl maxDepth depth n found
  | seq ns => exact visitAll_eq_foldl maxDepth depth ns found

theorem visitAll_eq_foldl (maxDepth : ℤ) (depth : ℕ) (ns : List SyntaxNode)
    (found : List NestingViolation) :
    visitAll maxDepth depth ns found = (walkAll depth ns).foldl (note maxDepth) found := by
  cases ns with
  | nil => rfl
  | cons n ns =>
    rw [visitAll, walkAll, List.foldl_append, visit_eq_foldl maxDepth depth n,
      visitAll_eq_foldl maxDepth depth ns]

end

theorem note_eq (maxDepth : ℤ) (found : List NestingViolation) (e : SyntaxNode × ℕ) :
    note maxDepth found e = (violation? maxDepth e).elim found (addNew (·.line) found) := by
  unfold note violation? report
  cases e.1.info.line with
  | none => rfl
  | some l =>
    have hany : found.any (·.line == l) = decide (l ∈ found.map (·.line)) := by
      rw [Bool.eq_iff_iff]
      simp
    by_cases hdeep : maxDepth < e.2
    · by_cases hl : l ∈ found.map (·.line)
      · simp [hdeep, hany, hl, addNew]
      · simp [hdeep, hany, hl, addNew]
    · simp [hdeep]

/-- **The search keeps the first violation of each line.** -/
theorem analyze_eq_firsts (root : SyntaxNode) (maxDepth : ℤ) :
    analyze root maxDepth = firsts (·.line) ((walk 0 root).filterMap (violation? maxDepth)) := by
  have hnote : (walk 0 root).foldl (note maxDepth) [] =
      ((walk 0 root).filterMap (violation? maxDepth)).foldl (addNew (·.line)) [] := by
    rw [List.foldl_filterMap]
    congr 1
    funext found e
    rw [note_eq]
    cases violation? maxDepth e with
    | none => rfl
    | some v => rfl
  rw [analyze, visit_eq_foldl, hnote]
  exact foldl_addNew_firsts NestingViolation.line [] _

/-! ## Lines and depths -/

/-- A line stands at a depth among nodes of a walk. -/
def Shows (l : ℤ) (k : ℕ) (es : List (SyntaxNode × ℕ)) : Prop :=
  ∃ e ∈ es, e.1.info.line = some l ∧ e.2 = k

@[simp] theorem shows_nil {l : ℤ} {k : ℕ} : Shows l k [] ↔ False := by
  simp [Shows]

@[simp] theorem shows_cons {l : ℤ} {k : ℕ} {e : SyntaxNode × ℕ} {es : List (SyntaxNode × ℕ)} :
    Shows l k (e :: es) ↔ (e.1.info.line = some l ∧ e.2 = k) ∨ Shows l k es := by
  simp [Shows]

@[simp] theorem shows_append {l : ℤ} {k : ℕ} {es es' : List (SyntaxNode × ℕ)} :
    Shows l k (es ++ es') ↔ Shows l k es ∨ Shows l k es' := by
  simp [Shows, or_and_right, exists_or]

theorem violation?_eq_some {maxDepth : ℤ} {e : SyntaxNode × ℕ} {v : NestingViolation} :
    violation? maxDepth e = some v ↔
      e.1.info.line = some v.line ∧ e.2 = v.depth ∧ maxDepth < v.depth := by
  obtain ⟨l, k⟩ := v
  simp only [violation?, Option.bind_eq_some_iff]
  constructor
  · rintro ⟨l', hline, h⟩
    split_ifs at h with hdeep
    cases h
    exact ⟨hline, rfl, hdeep⟩
  · rintro ⟨hline, rfl, hdeep⟩
    exact ⟨l, hline, if_pos hdeep⟩

/-- **A line is found if and only if the walk shows it above the limit.** -/
theorem mem_lines_analyze {root : SyntaxNode} {maxDepth l : ℤ} :
    l ∈ (analyze root maxDepth).map (·.line) ↔ ∃ k : ℕ, maxDepth < k ∧ Shows l k (walk 0 root) := by
  rw [analyze_eq_firsts, mem_map_firsts]
  simp only [List.mem_map, List.mem_filterMap, violation?_eq_some]
  constructor
  · rintro ⟨v, ⟨e, he, hline, hdepth, hdeep⟩, rfl⟩
    exact ⟨v.depth, hdeep, e, he, hline, hdepth⟩
  · rintro ⟨k, hdeep, e, he, hline, hdepth⟩
    exact ⟨⟨l, k⟩, ⟨e, he, hline, hdepth, hdeep⟩, rfl⟩

/-- Each line is found once. -/
theorem nodup_lines_analyze (root : SyntaxNode) (maxDepth : ℤ) :
    ((analyze root maxDepth).map (·.line)).Nodup := by
  rw [analyze_eq_firsts]
  exact nodup_map_firsts _ _

/-! ## Narrower limits -/

/-- A wider limit leaves out what is within it. -/
theorem violation?_of_le {narrow wide : ℤ} (h : narrow ≤ wide) (e : SyntaxNode × ℕ) :
    violation? wide e = (violation? narrow e).filter fun v => wide < v.depth := by
  unfold violation?
  cases e.1.info.line with
  | none => rfl
  | some l =>
    by_cases hwide : wide < e.2
    · have hnarrow : narrow < e.2 := by omega
      simp [hwide, hnarrow, Option.filter]
    · by_cases hnarrow : narrow < e.2 <;> simp [hwide, hnarrow, Option.filter]

/-- **The violations above a wider limit are those above a narrower one, less what is within the
wider one**, along the whole walk. -/
theorem filterMap_violation?_of_le {narrow wide : ℤ} (h : narrow ≤ wide)
    (es : List (SyntaxNode × ℕ)) :
    es.filterMap (violation? wide) =
      (es.filterMap (violation? narrow)).filter fun v => wide < v.depth := by
  rw [List.filter_filterMap]
  exact List.filterMap_congr fun e _ => violation?_of_le h e

/-- **A narrower limit finds every line again, at a depth that is no greater.** Each line is found
once; what the narrower limit finds on it is the same violation, or one that is within the wider
limit and so was passed over. -/
theorem analyze_narrower (root : SyntaxNode) {narrow wide : ℤ} (h : narrow ≤ wide)
    {v : NestingViolation} (hv : v ∈ analyze root wide) :
    ∃ v' ∈ analyze root narrow, v'.line = v.line ∧ v'.depth ≤ v.depth ∧
      (v' = v ∨ v'.depth ≤ wide) ∧ ∀ u ∈ analyze root narrow, u.line = v.line → u = v' := by
  rw [analyze_eq_firsts, filterMap_violation?_of_le h] at hv
  have hdeep : wide < v.depth := by
    have hmem := (firsts_sublist _ _).subset hv
    exact of_decide_eq_true (List.mem_filter.1 hmem).2
  obtain ⟨v', hv', hline, hor⟩ := exists_mem_firsts_of_filter _ hv
  rw [← analyze_eq_firsts] at hv'
  have hpassed : v' = v ∨ v'.depth ≤ wide :=
    hor.imp_right fun hle => Int.not_lt.1 (of_decide_eq_false hle)
  have hdepth : v'.depth ≤ v.depth := by
    rcases hpassed with rfl | hle
    · exact Nat.le_refl _
    · omega
  refine ⟨v', hv', hline, hdepth, hpassed, fun u hu huline => ?_⟩
  exact List.inj_on_of_nodup_map (nodup_lines_analyze root narrow) hu hv' (huline.trans hline.symm)

/-- A callback behind a function on its line: the limit that allows the function finds the
callback, and the one that does not finds the function. -/
theorem analyze_narrower_callback :
    let callback : SyntaxNode :=
      .mk ⟨.arrowFunction, "arrow_function", some 1, none, none⟩ .none [] []
    let function : SyntaxNode :=
      .mk ⟨.functionDeclaration, "function_declaration", some 1, none, none⟩ .none [] [callback]
    analyze function 1 = [⟨1, 2⟩] ∧
      ∃ v' ∈ analyze function 0, v'.line = 1 ∧ v'.depth ≤ 2 ∧
        (v' = ⟨1, 2⟩ ∨ v'.depth ≤ (1 : ℤ)) ∧ ∀ u ∈ analyze function 0, u.line = 1 → u = v' := by
  intro callback function
  have hwide : analyze function 1 = [⟨1, 2⟩] := by decide
  exact ⟨hwide, analyze_narrower function (by decide) (hwide ▸ List.mem_cons_self)⟩

end SmellScan.Nesting
