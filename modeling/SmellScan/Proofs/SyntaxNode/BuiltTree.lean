import SmellScan.Proofs.Nesting.DeepLines
import SmellScan.Proofs.Nesting.FirstVisit
import SmellScan.Proofs.SyntaxNode.FunctionOrder
import SmellScan.Proofs.SyntaxNode.SourceText

/-!
# What the analyses may take for granted

The analyses ask of every node whether it has a line and of every function whether it has a text,
and pass over those that have none. Two of them look into the arguments of every node, one only into
those of calls. On a tree that is built from a parse tree none of this makes a difference: the
conversion gives every node its line and every function its text, and arguments to calls alone
(`wellShaped_convert`). So no analysis passes over a node, and all of them go over the same nodes
(`build_wellShaped`).
-/

namespace SmellScan

/-- The types of the nodes whose body is a sequence. -/
def containerTypes : List String :=
  ["program", "statement_block", "class_body"]

namespace SyntaxNode

/-- A node is as the conversion leaves it. -/
structure WellShaped (n : SyntaxNode) : Prop where
  line : n.info.line.isSome = true
  text : n.info.text.isSome = true ↔ n.info.kind ∈ functionKinds
  arguments : n.arguments ≠ [] → n.info.kind = .callExpression
  body : (∃ ns, n.body = .seq ns) ↔ n.info.type ∈ containerTypes

/-- No analysis of the tree passes over a node for want of a line or a text. -/
structure SkipsNothing (tree : SyntaxNode) : Prop where
  nesting : ∀ e ∈ Nesting.walk 0 tree, e.1.info.line ≠ none
  blocks : ∀ n ∈ tree.preorder, n.info.kind ∈ CodeBlock.blockKinds →
    n.info.line ≠ none ∧ n.info.text ≠ none
  functions : ∀ n ∈ tree.functions, n.info.line ≠ none ∧ n.info.text ≠ none

/-- The analyses of the tree go over the same nodes: that of nesting along its walk, those of blocks
and of functions along pre-order, and both list each node once. -/
structure GoesOverAll (tree : SyntaxNode) : Prop where
  nesting : ∀ maxDepth, Nesting.analyze tree maxDepth =
    (Nesting.walk 0 tree).foldl (Nesting.note maxDepth) []
  blocks : ∀ minLength, CodeBlock.extract tree minLength =
    tree.preorder.foldl (CodeBlock.note minLength) []
  functions : tree.functions = tree.preorder.filter (·.info.kind ∈ functionKinds)
  walkOnce : ListsOnce tree (fun _ => True) ((Nesting.walk 0 tree).map Prod.fst)
  preorderOnce : ListsOnce tree (fun _ => True) tree.preorder

variable {n tree : SyntaxNode}

/-! ## The conversion -/

theorem isSequence_iff {info : ParseNode} :
    info.isSequence = true ↔ info.type ∈ containerTypes := by
  simp [ParseNode.isSequence, containerTypes, or_assoc]

theorem body_convert_eq_seq {source : List UInt8} {parent : Option String} {c : ParseTree} :
    (∃ ns, (convert source parent c).body = .seq ns) ↔ c.info.isSequence = true := by
  obtain ⟨info, children⟩ := c
  rw [convert, ParseTree.info_node]
  split_ifs with hseq
  · exact ⟨fun _ => hseq, fun _ => ⟨_, rfl⟩⟩
  · refine ⟨?_, fun h => absurd h hseq⟩
    rintro ⟨ns, hns⟩
    change Body.ofOption _ = Body.seq ns at hns
    generalize (convertSlots _ _ _ _ _).body = b at hns
    cases b with
    | none | some b => cases hns

theorem kind_of_arguments_convert {source : List UInt8} {parent : Option String} {c : ParseTree}
    (h : (convert source parent c).arguments ≠ []) :
    (convert source parent c).info.kind = .callExpression := by
  have hslot : (convert source parent c).slot .arguments ≠ [] := h
  rw [slot_convert, ne_eq, List.map_eq_nil_iff] at hslot
  obtain ⟨⟨way, a⟩, ha⟩ := List.exists_mem_of_ne_nil _ hslot
  cases ParseTree.mem_sources.1 ha with
  | argument hcall =>
    rw [Nesting.kind_convert]
    exact ofType_eq_callExpression.2 hcall

/-- **The conversion shapes every node well.** -/
theorem wellShaped_convert (source : List UInt8) (parent : Option String) (c : ParseTree) :
    (convert source parent c).WellShaped where
  line := by rw [line_convert, Option.isSome_some]
  text := by rw [isSome_text_convert, isFunction_eq, decide_eq_true_eq]
  arguments := kind_of_arguments_convert
  body := by rw [body_convert_eq_seq, isSequence_iff, type_convert]

/-! ## The analyses -/

/-- Where only calls have arguments, nothing is lost by looking into those of calls alone. -/
theorem leavesOutNothing_nesting (h : ∀ n : SyntaxNode, n.IsIn tree → n.WellShaped) :
    LeavesOutNothing Nesting.slotOrder tree := by
  intro n hn s hs
  by_cases hcall : n.info.kind = .callExpression
  · cases s <;> simp [Nesting.slotOrder, hcall] at hs
  · have hargs : n.arguments = [] := by
      by_contra hne
      exact hcall ((h n hn).arguments hne)
    cases s with
    | arguments => exact hargs
    | body | children => simp [Nesting.slotOrder, hcall] at hs

theorem map_fst_walk (tree : SyntaxNode) :
    (Nesting.walk 0 tree).map Prod.fst = (tour Nesting.slotOrder [] tree).map Visit.node := by
  have hwalk : Nesting.walk 0 tree = (tour Nesting.slotOrder [] tree).map Nesting.shown :=
    Nesting.walk_eq_tour [] tree
  rw [hwalk, List.map_map]
  rfl

/-- What is listed once stands in the tree. -/
theorem ListsOnce.isIn {P : SyntaxNode → Prop} {ns : List SyntaxNode} (h : ListsOnce tree P ns)
    (hn : n ∈ ns) : n.IsIn tree := by
  obtain ⟨ps, -, -, hnodes⟩ := h
  have hmem : some n ∈ ps.map tree.nodeAt? := by
    rw [hnodes]
    exact List.mem_map_of_mem hn
  obtain ⟨place, -, hplace⟩ := List.mem_map.1 hmem
  exact ⟨place, hplace⟩

theorem goesOverAll_of_wellShaped (h : ∀ n : SyntaxNode, n.IsIn tree → n.WellShaped) :
    GoesOverAll tree where
  nesting maxDepth := Nesting.visit_eq_foldl maxDepth 0 tree []
  blocks minLength := CodeBlock.visit_eq_foldl minLength tree []
  functions := functions_eq tree
  walkOnce := by
    rw [map_fst_walk]
    refine listsOnce_tour (fun kind => ?_) (leavesOutNothing_nesting h)
    by_cases hcall : kind = .callExpression <;> simp [Nesting.slotOrder, hcall]
  preorderOnce := listsOnce_preorder tree

theorem skipsNothing_of_wellShaped (h : ∀ n : SyntaxNode, n.IsIn tree → n.WellShaped) :
    SkipsNothing tree := by
  have hall := goesOverAll_of_wellShaped h
  have hline : ∀ n : SyntaxNode, n.IsIn tree → n.info.line ≠ none :=
    fun n hn => Option.isSome_iff_ne_none.1 (h n hn).line
  have htext : ∀ n : SyntaxNode, n.IsIn tree → n.info.kind ∈ functionKinds →
      n.info.text ≠ none :=
    fun n hn hkind => Option.isSome_iff_ne_none.1 ((h n hn).text.2 hkind)
  constructor
  · exact fun e he => hline e.1 (hall.walkOnce.isIn (List.mem_map_of_mem he))
  · intro n hn hkind
    have hin := hall.preorderOnce.isIn hn
    refine ⟨hline n hin, htext n hin ?_⟩
    simp only [CodeBlock.blockKinds, functionKinds, List.mem_cons, List.not_mem_nil] at hkind ⊢
    tauto
  · intro n hn
    obtain ⟨hkind, hin⟩ := mem_functions.1 hn
    rw [isFunction_eq, decide_eq_true_eq] at hkind
    exact ⟨hline n hin, htext n hin hkind⟩

/-- **Every node of a built tree is well shaped.** It has the line of the node it comes from; it has
a text if and only if it is a function, arguments only if it is a call, and a sequence as its body
if and only if it is a container. So no analysis passes over a node of such a tree, and all of them
go over the same nodes, each of which they meet once. -/
theorem build_wellShaped {refuses : ParseTree → Bool} {text : String} {t : ParseTree}
    {tree : SyntaxNode} (hbuild : build refuses text t = .ok tree) :
    (∀ n : SyntaxNode, n.IsIn tree → n.WellShaped ∧
      (∃ c, ComesFrom (Text.encodeUtf8 text.toList) t n c) ∧
        ∀ c, ComesFrom (Text.encodeUtf8 text.toList) t n c →
          n.info.line = some (c.info.row + 1)) ∧
      SkipsNothing tree ∧ GoesOverAll tree := by
  have hcomes : ∀ n : SyntaxNode, n.IsIn tree →
      ∃ c, ComesFrom (Text.encodeUtf8 text.toList) t n c := by
    intro n hn
    rw [eq_convert_of_build hbuild] at hn
    exact exists_comesFrom hn
  have hshaped : ∀ n : SyntaxNode, n.IsIn tree → n.WellShaped := by
    intro n hn
    obtain ⟨c, addr, parent, -, rfl⟩ := hcomes n hn
    exact wellShaped_convert _ parent c
  refine ⟨fun n hn => ⟨hshaped n hn, hcomes n hn, ?_⟩, skipsNothing_of_wellShaped hshaped,
    goesOverAll_of_wellShaped hshaped⟩
  rintro c ⟨addr, parent, -, rfl⟩
  exact line_convert parent c

/-- A call of what a call gives, each with a function as its argument: the walk meets the later
function first, pre-order the earlier one. -/
theorem build_wellShaped_calls :
    let text := "g(a => a)(\nb => b)"
    let t : ParseTree :=
      .node ⟨"program", true, none, 0, 18, 0, false, false⟩
        [.node ⟨"expression_statement", true, none, 0, 18, 0, false, false⟩
          [.node ⟨"call_expression", true, none, 0, 18, 0, false, false⟩
            [.node ⟨"call_expression", true, some "function", 0, 9, 0, false, false⟩
                [.node ⟨"identifier", true, some "function", 0, 1, 0, false, false⟩ [],
                  .node ⟨"arguments", true, some "arguments", 1, 9, 0, false, false⟩
                    [.node ⟨"arrow_function", true, none, 2, 8, 0, false, false⟩
                      [.node ⟨"identifier", true, some "body", 7, 8, 0, false, false⟩ []]]],
              .node ⟨"arguments", true, some "arguments", 9, 18, 0, false, false⟩
                [.node ⟨"arrow_function", true, none, 11, 17, 1, false, false⟩
                  [.node ⟨"identifier", true, some "body", 16, 17, 1, false, false⟩ []]]]]]
    ∃ tree, build (ParseTree.isDeeperThan 300) text t = .ok tree ∧
      (∀ n : SyntaxNode, n.IsIn tree → n.WellShaped) ∧
      SkipsNothing tree ∧ GoesOverAll tree ∧
      (Nesting.analyze tree 0).map (·.line) = [2, 1] ∧
      tree.functions.map (·.info.line) = [some 1, some 2] := by
  intro text t
  have hbuild : build (ParseTree.isDeeperThan 300) text t =
      .ok (ofParseTree (Text.encodeUtf8 text.toList) t) := rfl
  obtain ⟨hshaped, hskips, hall⟩ := build_wellShaped hbuild
  refine ⟨_, hbuild, fun n hn => (hshaped n hn).1, hskips, hall, ?_, ?_⟩
  · decide
  · rw [functions_eq]
    decide

end SyntaxNode

end SmellScan
