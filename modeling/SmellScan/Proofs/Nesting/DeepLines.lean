import Mathlib.Data.List.Basic
import SmellScan.Proofs.Nesting.Walk
import SmellScan.Proofs.ParseTree.Address
import SmellScan.Proofs.SyntaxNode.Slots

/-!
# Nested lines of a parse tree

What a nested line says about the tree of the parser.

The tagged tree is not the parse tree: the children of a node are sorted into slots, an argument
list is taken apart, and comments are left out. None of this loses a node or moves it to another
depth. What the walk shows below a node, it shows at or below a kept child, only that the line of an
argument list itself is not shown (`shows_walkBelow_convert`, `showsChild_iff`). Addresses go down
by one level in the same way (`exists_showsAt_iff`), so the two agree all the way down
(`shows_walkBelow_iff`).

The main statement (`analyze_build`) says in terms of the parse tree alone which lines are found.
-/

namespace SmellScan

/-- The types of the nodes that open a closure. -/
def closureTypes : List String :=
  ["function_declaration", "generator_function_declaration", "function_expression", "function",
    "generator_function", "arrow_function"]

namespace ParseTree

/-- The number of nodes that open a closure. -/
def closures (ts : List ParseTree) : ℕ :=
  ts.countP fun t => t.info.type ∈ closureTypes

/-- A node at an address counts for the analysis and stands in more than `maxDepth` closures, its
own among them. -/
structure IsDeep (t : ParseTree) (maxDepth : ℤ) (addr : List ℕ) (n : ParseTree) : Prop where
  node : t.nodeAt? addr = some n
  /-- It is the root, or it has a rule of its own and nothing on the way to it, itself included, is
  a comment or a hash-bang line. -/
  shown : addr = [] ∨
    n.info.named = true ∧ ∀ a ∈ t.lineage addr, a.info.isSkipped = false
  /-- It does not hold the arguments of a call. -/
  notArguments : ¬t.IsArgumentList addr
  deep : maxDepth < closures (t.lineage addr)

end ParseTree

namespace Nesting

open ParseTree SyntaxNode

/-! ## Kinds -/

theorem opensClosure_ofType (parent : Option String) (type : String) :
    (NodeKind.ofType parent type).opensClosure = decide (type ∈ closureTypes) := by
  unfold NodeKind.ofType closureTypes
  split_ifs <;> simp_all [NodeKind.opensClosure] <;> grind

theorem depthInside_ofType (parent : Option String) (t : ParseTree) (d : ℕ) :
    depthInside (NodeKind.ofType parent t.info.type) d = d + closures [t] := by
  rw [depthInside, opensClosure_ofType, closures, List.countP_singleton]
  split_ifs <;> rfl

/-! ## Slots -/

/-- The walk over the slots of a node. -/
def walkSlots (d : ℕ) (s : Slots) : List (SyntaxNode × ℕ) :=
  walkAll d s.arguments ++ (walkBody d (Body.ofOption s.body) ++ walkAll d s.children)

/-- The walk shows a line at a depth at or below a child, or only below it if it is taken apart. -/
def ShowsChild (source : List UInt8) (parent : String) (d : ℕ) (l : ℤ) (k : ℕ) (taken : Prop)
    (c : ParseTree) : Prop :=
  (taken ∧ Shows l k (walkAll d (convertAll source c.info.type c.children))) ∨
    (¬taken ∧ Shows l k (walk d (convert source (some parent) c)))

variable {source : List UInt8} {parent : String} {d k : ℕ} {l : ℤ}

/-- The walk over converted siblings is the walk over those that are kept. -/
theorem shows_walkAll_convertAll {ts : List ParseTree} :
    Shows l k (walkAll d (convertAll source parent ts)) ↔
      ∃ (i : ℕ) (c : ParseTree), ts[i]? = some c ∧ c.info.isKept = true ∧
        Shows l k (walk d (convert source (some parent) c)) := by
  induction ts with
  | nil => simp [convertAll, walkAll]
  | cons t ts ih =>
    rw [convertAll, exists_getElem?_cons, ← ih]
    by_cases ht : t.info.isKept = true
    · rw [if_pos ht, walkAll, shows_append]
      simp only [ht, true_and]
    · rw [if_neg ht]
      simp only [ht, Bool.false_eq_true, false_and, false_or]

theorem shows_walkSlots_body {s : Slots} (h : s.body = none) (n : SyntaxNode) :
    Shows l k (walkSlots d { s with body := some n }) ↔
      Shows l k (walk d n) ∨ Shows l k (walkSlots d s) := by
  simp only [walkSlots, h, Body.ofOption, walkBody, shows_append, shows_nil]
  tauto

theorem shows_walkSlots_arguments {s : Slots} (h : s.arguments = []) (ns : List SyntaxNode) :
    Shows l k (walkSlots d { s with arguments := ns }) ↔
      Shows l k (walkAll d ns) ∨ Shows l k (walkSlots d s) := by
  simp only [walkSlots, h, walkAll, shows_append, shows_nil]
  tauto

theorem shows_walkSlots_children (s : Slots) (n : SyntaxNode) :
    Shows l k (walkSlots d { s with children := n :: s.children }) ↔
      Shows l k (walk d n) ∨ Shows l k (walkSlots d s) := by
  simp only [walkSlots, walkAll, shows_append]
  tauto

theorem showsChild_of {taken : Prop} (h : taken) {c : ParseTree} :
    ShowsChild source parent d l k taken c ↔
      Shows l k (walkAll d (convertAll source c.info.type c.children)) := by
  simp [ShowsChild, h]

theorem showsChild_of_not {taken : Prop} (h : ¬taken) {c : ParseTree} :
    ShowsChild source parent d l k taken c ↔
      Shows l k (walk d (convert source (some parent) c)) := by
  simp [ShowsChild, h]

/-- **Sorting into slots loses no child.** -/
theorem shows_walkSlots {ts : List ParseTree}
    (hbody : ∀ c ∈ ts, c.info.field = some "body" → c.info.isKept = true)
    (hleaf : ∀ c ∈ ts, c.info.named = false → c.children = []) (wantsBody wantsArguments : Bool) :
    Shows l k (walkSlots d (convertSlots source parent wantsBody wantsArguments ts)) ↔
      ∃ i c, ts[i]? = some c ∧ c.info.isKept = true ∧
        ShowsChild source parent d l k (wantsArguments = true ∧ IsArgumentsAmong ts i) c := by
  induction ts generalizing wantsBody wantsArguments with
  | nil => simp [convertSlots, walkSlots, walkAll, walkBody, Body.ofOption]
  | cons t ts ih =>
    obtain ⟨info, children⟩ := t
    obtain ⟨hbody₀, hbody⟩ := List.forall_mem_cons.1 hbody
    obtain ⟨hleaf₀, hleaf⟩ := List.forall_mem_cons.1 hleaf
    rw [convertSlots, exists_getElem?_cons]
    simp only [isArgumentsAmong_zero, isArgumentsAmong_succ, info_node] at hbody₀ hleaf₀ ⊢
    split_ifs with hb ha hk
    · -- the body
      obtain ⟨-, hfield⟩ : wantsBody = true ∧ info.field = some "body" := by simpa using hb
      have hne : info.field ≠ some "arguments" := by simp [hfield]
      rw [shows_walkSlots_body (body_convertSlots _ _), ih hbody hleaf]
      refine or_congr ?_ ?_
      · rw [showsChild_of_not fun h => hne h.2.1, and_iff_right (hbody₀ hfield)]
      · simp only [hne, ne_eq, not_false_eq_true, true_and]
    · -- the argument list, of which an unnamed one is empty
      obtain ⟨⟨rfl, hfield⟩, htype⟩ :
          (wantsArguments = true ∧ info.field = some "arguments") ∧ info.type = "arguments" := by
        simpa using ha
      rw [shows_walkSlots_arguments (arguments_convertSlots _ _), ih hbody hleaf]
      refine or_congr ?_ ?_
      · rw [showsChild_of ⟨rfl, hfield, htype⟩]
        refine (and_iff_right_of_imp fun h => ?_).symm
        by_contra hkept
        have hnamed : info.named = false := by
          simpa [ParseNode.isKept, ParseNode.isSkipped, htype] using hkept
        have hempty : children = [] := hleaf₀ hnamed
        simp [hempty, convertAll, walkAll] at h
      · simp only [hfield, ne_eq, not_true_eq_false, false_and, and_false,
          Bool.false_eq_true]
    · -- a child that is kept
      have hnot : ¬(wantsArguments = true ∧
          info.field = some "arguments" ∧ info.type = "arguments") := by simpa using ha
      rw [shows_walkSlots_children, ih hbody hleaf]
      refine or_congr ?_ ?_
      · rw [showsChild_of_not hnot, and_iff_right hk]
      · simp only [Bool.and_eq_true, bne_iff_ne, and_assoc]
    · -- a child that is left out
      rw [ih hbody hleaf, or_iff_right fun h => hk h.1]
      simp only [Bool.and_eq_true, bne_iff_ne, and_assoc]

/-! ## One level of the conversion -/

theorem kind_convert (p : Option String) (t : ParseTree) :
    (convert source p t).info.kind = NodeKind.ofType p t.info.type := by
  obtain ⟨info, children⟩ := t
  rw [convert]
  split_ifs <;> rfl

theorem shows_walk_convert {p : Option String} {t : ParseTree} :
    Shows l k (walk d (convert source p t)) ↔
      (t.info.line = l ∧ d + closures [t] = k) ∨
        Shows l k (walkBelow (d + closures [t]) (convert source p t)) := by
  rw [walk_eq_cons, shows_cons, line_convert, kind_convert, depthInside_ofType, Option.some_inj]

theorem walkBelow_mk_slots {info : NodeInfo} {s : Slots}
    (h : info.kind ≠ .callExpression → s.arguments = []) :
    walkBelow d (.mk info (Body.ofOption s.body) s.arguments s.children) = walkSlots d s := by
  by_cases hcall : info.kind = .callExpression
  · simp [walkBelow, walkSlots, SyntaxNode.info, SyntaxNode.body, SyntaxNode.arguments,
      SyntaxNode.children, hcall]
  · simp [walkBelow, walkSlots, SyntaxNode.info, SyntaxNode.body, SyntaxNode.children, hcall,
      h hcall, walkAll]

/-- What the walk shows below a node, it shows at or below a kept child. -/
theorem shows_walkBelow_convert {t : ParseTree} (ht : t.Regular) (p : Option String) :
    Shows l k (walkBelow d (convert source p t)) ↔
      ∃ i c, t.children[i]? = some c ∧ c.info.isKept = true ∧
        ShowsChild source t.info.type d l k
          (t.info.type = "call_expression" ∧ IsArgumentsAmong t.children i) c := by
  obtain ⟨info, cs⟩ := t
  obtain ⟨-, hbody, hcs⟩ := regular_node.1 ht
  have hleaf : ∀ c ∈ cs, c.info.named = false → c.children = [] :=
    fun c hc => (hcs c hc).leaf [] c rfl
  rw [convert]
  split_ifs with hseq
  · have hcall : info.type ≠ "call_expression" := by
      intro h
      simp [ParseNode.isSequence, h] at hseq
    simp only [walkBelow, SyntaxNode.body, SyntaxNode.arguments, SyntaxNode.children,
      SyntaxNode.info, walkBody, walkAll, ite_self, List.nil_append, List.append_nil, info_node,
      children_node]
    rw [shows_walkAll_convertAll]
    simp only [hcall, false_and, showsChild_of_not not_false]
  · have hkind : ((infoOf source p info cs).kind == .callExpression) = true ↔
        info.type = "call_expression" := by
      rw [beq_iff_eq]
      exact ofType_eq_callExpression
    rw [walkBelow_mk_slots (by
      intro hcall
      rw [beq_eq_false_iff_ne.2 hcall]
      exact arguments_convertSlots _ _), shows_walkSlots hbody hleaf]
    simp only [hkind, info_node, children_node]

/-- What a child adds: its own line, unless it is taken apart, and what is below it. An argument
list is no call and opens no closure, so below it nothing changes by taking it apart. -/
theorem showsChild_iff {c : ParseTree} (hc : c.Regular) {taken : Prop}
    (htaken : taken → c.info.type = "arguments") :
    ShowsChild source parent d l k taken c ↔
      (¬taken ∧ c.info.line = l ∧ d + closures [c] = k) ∨
        Shows l k (walkBelow (d + closures [c]) (convert source (some parent) c)) := by
  by_cases h : taken
  · have htype := htaken h
    have hcall : ¬c.info.type = "call_expression" := by simp [htype]
    have hclosures : closures [c] = 0 := by simp [closures, htype, closureTypes]
    rw [showsChild_of h, shows_walkAll_convertAll, hclosures, shows_walkBelow_convert hc]
    simp only [h, hcall, not_true_eq_false, false_and, false_or, Nat.add_zero,
      showsChild_of_not not_false]
  · rw [showsChild_of_not h, shows_walk_convert, and_iff_right h]

/-! ## All the way down -/

/-- The node at an address has the line `l` and the depth `k`, by the depth `d` inside the root, and
the walk gets there: the nodes on the way are kept, and no argument list stands at its end. -/
structure ShowsAt (t : ParseTree) (d : ℕ) (l : ℤ) (k : ℕ) (addr : List ℕ) : Prop where
  line : ∃ n, t.nodeAt? addr = some n ∧ n.info.line = l
  kept : ∀ a ∈ (t.lineage addr).tail, a.info.isKept = true
  notArguments : ¬t.IsArgumentList addr
  depth : d + closures (t.lineage addr).tail = k

theorem closures_cons (t : ParseTree) (ts : List ParseTree) :
    closures (t :: ts) = closures [t] + closures ts := by
  show closures ([t] ++ ts) = _
  exact List.countP_append

variable {t c : ParseTree} {i : ℕ}

theorem showsAt_singleton (hc : t.children[i]? = some c) :
    ShowsAt t d l k [i] ↔ c.info.isKept = true ∧
      ¬(t.info.type = "call_expression" ∧ IsArgumentsAmong t.children i) ∧
        c.info.line = l ∧ d + closures [c] = k := by
  have hlineage : (t.lineage [i]).tail = [c] := by rw [lineage_cons hc, List.tail_cons, lineage_nil]
  constructor
  · rintro ⟨⟨n, hn, hline⟩, hkept, hargs, hdepth⟩
    rw [nodeAt?_cons hc] at hn
    cases hn
    rw [hlineage] at hkept hdepth
    rw [isArgumentList_singleton] at hargs
    exact ⟨hkept c (List.mem_singleton_self c), hargs, hline, hdepth⟩
  · rintro ⟨hkept, hargs, hline, hdepth⟩
    refine ⟨⟨c, nodeAt?_cons hc, hline⟩, ?_, ?_, ?_⟩
    · rw [hlineage]
      exact List.forall_mem_singleton.2 hkept
    · rwa [isArgumentList_singleton]
    · rwa [hlineage]

theorem showsAt_cons_cons (hc : t.children[i]? = some c) {j : ℕ} {addr : List ℕ} :
    ShowsAt t d l k (i :: j :: addr) ↔
      c.info.isKept = true ∧ ShowsAt c (d + closures [c]) l k (j :: addr) := by
  have hlineage : (t.lineage (i :: j :: addr)).tail = c :: (c.lineage (j :: addr)).tail := by
    rw [lineage_cons hc, List.tail_cons]
    exact lineage_eq_cons c (j :: addr)
  constructor
  · rintro ⟨⟨n, hn, hline⟩, hkept, hargs, hdepth⟩
    rw [nodeAt?_cons hc] at hn
    rw [isArgumentList_cons_cons hc] at hargs
    rw [hlineage] at hkept hdepth
    rw [closures_cons, ← Nat.add_assoc] at hdepth
    obtain ⟨hc', hkept⟩ := List.forall_mem_cons.1 hkept
    exact ⟨hc', ⟨n, hn, hline⟩, hkept, hargs, hdepth⟩
  · rintro ⟨hc', ⟨n, hn, hline⟩, hkept, hargs, hdepth⟩
    refine ⟨⟨n, (nodeAt?_cons hc).trans hn, hline⟩, ?_, ?_, ?_⟩
    · rw [hlineage]
      exact List.forall_mem_cons.2 ⟨hc', hkept⟩
    · rwa [isArgumentList_cons_cons hc]
    · rwa [hlineage, closures_cons, ← Nat.add_assoc]

/-- Addresses go down by one level just as the walk does. -/
theorem exists_showsAt_iff :
    (∃ i addr, ShowsAt t d l k (i :: addr)) ↔
      ∃ i c, t.children[i]? = some c ∧ c.info.isKept = true ∧
        ((¬(t.info.type = "call_expression" ∧ IsArgumentsAmong t.children i) ∧
            c.info.line = l ∧ d + closures [c] = k) ∨
          ∃ j addr, ShowsAt c (d + closures [c]) l k (j :: addr)) := by
  constructor
  · rintro ⟨i, addr, h⟩
    obtain ⟨n, hn, -⟩ := h.line
    obtain ⟨c, hc, -⟩ := exists_child hn
    cases addr with
    | nil =>
      obtain ⟨hkept, hown⟩ := (showsAt_singleton hc).1 h
      exact ⟨i, c, hc, hkept, Or.inl hown⟩
    | cons j addr =>
      obtain ⟨hkept, hbelow⟩ := (showsAt_cons_cons hc).1 h
      exact ⟨i, c, hc, hkept, Or.inr ⟨j, addr, hbelow⟩⟩
  · rintro ⟨i, c, hc, hkept, hown | ⟨j, addr, hbelow⟩⟩
    · exact ⟨i, [], (showsAt_singleton hc).2 ⟨hkept, hown⟩⟩
    · exact ⟨i, j :: addr, (showsAt_cons_cons hc).2 ⟨hkept, hbelow⟩⟩

/-- **The walk below a node shows the addresses below it.** -/
theorem shows_walkBelow_iff (ht : t.Regular) (p : Option String) :
    Shows l k (walkBelow d (convert source p t)) ↔ ∃ i addr, ShowsAt t d l k (i :: addr) := by
  -- both sides go down by one level in the same way
  induction t using ParseTree.inductionOn generalizing d p with
  | node info cs ih =>
    obtain ⟨-, -, hcs⟩ := regular_node.1 ht
    rw [shows_walkBelow_convert ht, exists_showsAt_iff]
    refine exists_congr fun i => exists_congr fun c => and_congr_right fun hc => ?_
    refine and_congr_right fun _ => ?_
    simp only [info_node, children_node] at hc ⊢
    have hmem : c ∈ cs := List.mem_of_getElem? hc
    have htaken : info.type = "call_expression" ∧ IsArgumentsAmong cs i →
        c.info.type = "arguments" := by
      rintro ⟨-, ⟨c', hc', -, htype⟩, -⟩
      rw [hc'] at hc
      cases hc
      exact htype
    rw [showsChild_iff (hcs c hmem) htaken, ih c hmem (hcs c hmem)]

/-- The walk over a tree shows its addresses. -/
theorem shows_walk_iff (ht : t.Regular) (p : Option String) :
    Shows l k (walk d (convert source p t)) ↔ ∃ addr, ShowsAt t (d + closures [t]) l k addr := by
  have hroot : ShowsAt t (d + closures [t]) l k [] ↔ t.info.line = l ∧ d + closures [t] = k := by
    constructor
    · rintro ⟨⟨n, hn, hline⟩, -, -, hdepth⟩
      cases hn
      exact ⟨hline, hdepth⟩
    · rintro ⟨hline, hdepth⟩
      exact ⟨⟨t, rfl, hline⟩, by simp [lineage_nil], not_isArgumentList_nil t, hdepth⟩
  rw [shows_walk_convert, shows_walkBelow_iff ht, ← hroot]
  constructor
  · rintro (h | ⟨i, addr, h⟩)
    · exact ⟨[], h⟩
    · exact ⟨i :: addr, h⟩
  · rintro ⟨- | ⟨i, addr⟩, h⟩
    · exact Or.inl h
    · exact Or.inr ⟨i, addr, h⟩

/-! ## Nested lines -/

/-- **Nested lines of a parse tree.** Each line is found once, and a line is found if and only if it
is the line of a node that counts and stands in more than `maxDepth` closures. -/
theorem analyze_build {refuses : ParseTree → Bool} {text : String} {t : ParseTree}
    {tree : SyntaxNode} (hbuild : SyntaxNode.build refuses text t = .ok tree)
    (hroot : t.info.isSkipped = false)
    (ht : t.Regular) (maxDepth : ℤ) :
    ((analyze tree maxDepth).map (·.line)).Nodup ∧
      ∀ l, l ∈ (analyze tree maxDepth).map (·.line) ↔
        ∃ addr n, t.IsDeep maxDepth addr n ∧ n.info.line = l := by
  refine ⟨nodup_lines_analyze tree maxDepth, fun l => ?_⟩
  have htree : tree = convert (Text.encodeUtf8 text.toList) none t := by
    unfold SyntaxNode.build at hbuild
    split_ifs at hbuild
    cases hbuild
    rfl
  have hdepth : ∀ addr, 0 + closures [t] + closures (t.lineage addr).tail =
      closures (t.lineage addr) := by
    intro addr
    have h := closures_cons t (t.lineage addr).tail
    rw [← lineage_eq_cons] at h
    rw [Nat.zero_add, h]
  rw [mem_lines_analyze, htree]
  simp only [shows_walk_iff ht]
  constructor
  · rintro ⟨k, hdeep, addr, ⟨n, hn, hline⟩, hkept, hargs, rfl⟩
    rw [hdepth] at hdeep
    exact ⟨addr, n, ⟨hn, (forall_kept_iff ht hroot hn).1 hkept, hargs, hdeep⟩, hline⟩
  · rintro ⟨addr, n, ⟨hn, hshown, hargs, hdeep⟩, hline⟩
    exact ⟨_, hdeep, addr, ⟨n, hn, hline⟩, (forall_kept_iff ht hroot hn).2 hshown, hargs,
      hdepth addr⟩

/-- A closure whose body is a call over several lines: neither the line where the argument list
opens nor that of the comment in it is found. -/
theorem analyze_build_call :
    let t : ParseTree :=
      .node ⟨"program", true, none, 0, 17, 0, false, false⟩
        [.node ⟨"expression_statement", true, none, 0, 17, 0, false, false⟩
          [.node ⟨"arrow_function", true, none, 0, 17, 0, false, false⟩
            [.node ⟨"formal_parameters", true, some "parameters", 0, 2, 0, false, false⟩ [],
              .node ⟨"=>", false, none, 3, 5, 0, false, false⟩ [],
              .node ⟨"call_expression", true, some "body", 6, 17, 1, false, false⟩
                [.node ⟨"identifier", true, some "function", 6, 7, 1, false, false⟩ [],
                  .node ⟨"arguments", true, some "arguments", 8, 17, 2, false, false⟩
                    [.node ⟨"(", false, none, 8, 9, 2, false, false⟩ [],
                      .node ⟨"identifier", true, none, 10, 11, 3, false, false⟩ [],
                      .node ⟨"comment", true, none, 12, 15, 4, false, false⟩ [],
                      .node ⟨")", false, none, 16, 17, 5, false, false⟩ []]]]]]
    t.info.isSkipped = false ∧ t.Regular ∧
      ∃ tree, SyntaxNode.build (ParseTree.isDeeperThan 300) "() =>\nf\n(\nx\n//y\n)" t = .ok tree ∧
        (analyze tree 0).map (·.line) = [1, 2, 4] ∧
        ∀ l, l ∈ (analyze tree 0).map (·.line) ↔ ∃ addr n, t.IsDeep 0 addr n ∧ n.info.line = l := by
  intro t
  have ht : t.Regular := by simp [t, regular_node, ParseNode.isKept, ParseNode.isSkipped]
  have hbuild : SyntaxNode.build (ParseTree.isDeeperThan 300) "() =>\nf\n(\nx\n//y\n)" t =
      .ok (SyntaxNode.ofParseTree (Text.encodeUtf8 "() =>\nf\n(\nx\n//y\n)".toList) t) := rfl
  exact ⟨rfl, ht, _, hbuild, by decide, (analyze_build hbuild rfl ht 0).2⟩

/-- The root is converted whatever it is: below one that is a hash-bang line, lines are found all
the same. -/
theorem analyze_build_hashBang :
    let t : ParseTree :=
      .node ⟨"hash_bang_line", true, none, 0, 11, 0, false, false⟩
        [.node ⟨"arrow_function", true, none, 7, 11, 1, false, false⟩
          [.node ⟨"identifier", true, some "body", 10, 11, 1, false, false⟩ []]]
    t.info.type ≠ "comment" ∧ t.Regular ∧
      ∃ tree, SyntaxNode.build (ParseTree.isDeeperThan 300) "#!node\na=>a" t = .ok tree ∧
        ¬∀ l, l ∈ (analyze tree 0).map (·.line) ↔
          ∃ addr n, t.IsDeep 0 addr n ∧ n.info.line = l := by
  intro t
  have ht : t.Regular := by simp [t, regular_node, ParseNode.isKept, ParseNode.isSkipped]
  refine ⟨by decide, ht, _, rfl, fun h => ?_⟩
  obtain ⟨addr, n, hdeep, -⟩ := (h 2).1 (by decide)
  rcases hdeep.shown with rfl | ⟨-, hskipped⟩
  · exact absurd hdeep.deep (by decide)
  · have hroot : t ∈ t.lineage addr := by
      rw [lineage_eq_cons]
      exact List.mem_cons_self
    exact absurd (hskipped t hroot) (by decide)

end Nesting

end SmellScan
