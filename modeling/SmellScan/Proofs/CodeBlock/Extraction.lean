import Mathlib.Data.Int.Notation
import Mathlib.Data.List.Basic
import Mathlib.Data.List.Nodup
import SmellScan.CodeBlock
import SmellScan.Proofs.FirstWins

/-!
# The blocks of a tree

The extraction goes over a tree and keeps the first block of each line as it goes. The order in
which it meets the nodes is `SyntaxNode.preorder`, and the table that it leaves behind holds the
first block of each line in that order (`extract_eq_firsts`). So a line has one block
(`nodup_keys_extract`), and that block starts on it and is long enough (`line_of_mem_extract`,
`length_of_mem_extract`).
-/

namespace SmellScan

namespace SyntaxNode

mutual

/-- The nodes of a tree: a node, then those of its children, of its arguments and of its body. -/
def preorder : SyntaxNode → List SyntaxNode
  | .mk info body arguments children =>
    .mk info body arguments children ::
      (preorderAll children ++ (preorderAll arguments ++ preorderBody body))

/-- The nodes of a body. -/
def preorderBody : Body SyntaxNode → List SyntaxNode
  | .none => []
  | .one n => preorder n
  | .seq ns => preorderAll ns

/-- The nodes of several trees, one after the other. -/
def preorderAll : List SyntaxNode → List SyntaxNode
  | [] => []
  | n :: ns => preorder n ++ preorderAll ns

end

end SyntaxNode

namespace CodeBlock

open SyntaxNode

/-- The entry that a node adds to a table, if it has a block. -/
def keyedBlock? (minLength : ℤ) (n : SyntaxNode) : Option (ℤ × CodeBlock) :=
  (ofInfo? minLength n.info).map fun block => (block.line, block)

/-! ## The walk -/

theorem collect_eq (minLength : ℤ) (n : SyntaxNode) (table : BlockTable) :
    collect minLength n.info table =
      (keyedBlock? minLength n).elim table (addNew Prod.fst table) := by
  unfold collect keyedBlock?
  cases ofInfo? minLength n.info with
  | none => rfl
  | some block =>
    have hany : table.any (·.1 == block.line) = decide (block.line ∈ table.map Prod.fst) := by
      rw [Bool.eq_iff_iff]
      simp
    by_cases hline : block.line ∈ table.map Prod.fst
    · simp [hany, hline, addNew]
    · simp [hany, hline, addNew]

/-- What a node does to a table. -/
def note (minLength : ℤ) (table : BlockTable) (n : SyntaxNode) : BlockTable :=
  collect minLength n.info table

mutual

/-- **The extraction goes over the nodes in pre-order.** -/
theorem visit_eq_foldl (minLength : ℤ) (n : SyntaxNode) (table : BlockTable) :
    visit minLength n table = n.preorder.foldl (note minLength) table := by
  cases n with
  | mk info body arguments children =>
    rw [visit, preorder, List.foldl_cons, List.foldl_append, List.foldl_append,
      visitBody_eq_foldl minLength body, visitAll_eq_foldl minLength arguments,
      visitAll_eq_foldl minLength children]
    rfl

theorem visitBody_eq_foldl (minLength : ℤ) (b : Body SyntaxNode) (table : BlockTable) :
    visitBody minLength b table = (preorderBody b).foldl (note minLength) table := by
  cases b with
  | none => rfl
  | one n => exact visit_eq_foldl minLength n table
  | seq ns => exact visitAll_eq_foldl minLength ns table

theorem visitAll_eq_foldl (minLength : ℤ) (ns : List SyntaxNode) (table : BlockTable) :
    visitAll minLength ns table = (preorderAll ns).foldl (note minLength) table := by
  cases ns with
  | nil => rfl
  | cons n ns =>
    rw [visitAll, preorderAll, List.foldl_append, visit_eq_foldl minLength n,
      visitAll_eq_foldl minLength ns]

end

/-- **The table holds the first block of each line in pre-order.** -/
theorem extract_eq_firsts (root : SyntaxNode) (minLength : ℤ) :
    extract root minLength = firsts Prod.fst (root.preorder.filterMap (keyedBlock? minLength)) := by
  have hnote : root.preorder.foldl (note minLength) [] =
      (root.preorder.filterMap (keyedBlock? minLength)).foldl (addNew Prod.fst) [] := by
    rw [List.foldl_filterMap]
    congr 1
    funext table n
    rw [note, collect_eq]
    cases keyedBlock? minLength n with
    | none => rfl
    | some e => rfl
  rw [extract, visit_eq_foldl, hnote]
  exact foldl_addNew_firsts Prod.fst [] _

/-! ## What the table holds -/

theorem ofInfo?_length {minLength : ℤ} {info : NodeInfo} {block : CodeBlock}
    (h : ofInfo? minLength info = some block) : minLength ≤ block.text.length := by
  unfold ofInfo? at h
  split_ifs at h with hkind
  split at h
  · split_ifs at h with hshort
    cases h
    exact Int.not_lt.1 hshort
  · cases h

variable {root : SyntaxNode} {minLength : ℤ} {e : ℤ × CodeBlock}

/-- A line has one block. -/
theorem nodup_keys_extract (root : SyntaxNode) (minLength : ℤ) :
    ((extract root minLength).map Prod.fst).Nodup := by
  rw [extract_eq_firsts]
  exact nodup_map_firsts Prod.fst _

theorem exists_ofInfo?_of_mem_extract (h : e ∈ extract root minLength) :
    ∃ n ∈ root.preorder, ofInfo? minLength n.info = some e.2 ∧ e.2.line = e.1 := by
  rw [extract_eq_firsts] at h
  obtain ⟨n, hn, he⟩ := List.mem_filterMap.1 ((firsts_sublist Prod.fst _).subset h)
  obtain ⟨block, hblock, rfl⟩ := Option.map_eq_some_iff.1 he
  exact ⟨n, hn, hblock, rfl⟩

/-- A block starts on the line at which it stands. -/
theorem line_of_mem_extract (h : e ∈ extract root minLength) : e.2.line = e.1 := by
  obtain ⟨n, -, -, hline⟩ := exists_ofInfo?_of_mem_extract h
  exact hline

/-- A block is long enough. -/
theorem length_of_mem_extract (h : e ∈ extract root minLength) :
    minLength ≤ e.2.text.length := by
  obtain ⟨n, -, hblock, -⟩ := exists_ofInfo?_of_mem_extract h
  exact ofInfo?_length hblock

end CodeBlock

end SmellScan
