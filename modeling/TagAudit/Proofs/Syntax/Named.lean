import TagAudit.Proofs.Syntax.Summary
import TagAudit.Proofs.Table

/-!
# Summaries of named nodes (`summarize_tree`)

The grammar gives names to nodes and to the fields that hold them. What a summary says of such a tree
is said here by sets of names: which nodes are methods, loops and branches, and which open a level of
nesting.
-/

namespace TagAudit.Syntax

/-! ### Sets of names -/

def methodNames : List String := ["method_declaration", "constructor_declaration"]

def loopNames : List String :=
  ["for_statement", "enhanced_for_statement", "while_statement", "do_statement"]

def branchNames : List String :=
  ["if_statement", "catch_clause", "ternary_expression"] ++ loopNames

/-- The `catch` and `finally` clauses of a `try` statement share its level. -/
def nestingNames : List String :=
  ["if_statement", "switch_expression", "try_statement", "try_with_resources_statement"] ++ loopNames

def shortCircuitNames : List String := ["&&", "||"]

/-! ### Trees with names -/

namespace NamedTree

def name : NamedTree → String
  | .node name _ _ _ _ => name

def field : NamedTree → Option String
  | .node _ field _ _ _ => field

def children : NamedTree → List NamedTree
  | .node _ _ _ _ children => children

def text (source : List Char) : NamedTree → List Char
  | .node _ _ start stop _ => Text.byteSlice start stop source

def at? (t : NamedTree) (path : Path) : Option NamedTree :=
  path.foldlM (fun node place => node.children[place]?) t

def IsAt (t : NamedTree) (path : Path) (P : NamedTree → Prop) : Prop :=
  ∃ node, t.at? path = some node ∧ P node

def Decides (source : List Char) (node : NamedTree) : Prop :=
  node.name ∈ branchNames ∨
    (node.name = "switch_label" ∧ ['c', 'a', 's', 'e'] <+: Text.trimStart (node.text source)) ∨
    (node.name = "binary_expression" ∧
      ∃ op, node.children.find? (·.field = some "operator") = some op ∧ op.name ∈ shortCircuitNames)

def ElseIf (t : NamedTree) (path : Path) : Prop :=
  t.IsAt path (·.name = "if_statement") ∧
    ∃ above place, path = above ++ [place] ∧ t.IsAt above fun node =>
      node.name = "if_statement" ∧
        node.children.findIdx? (·.field = some "alternative") = some place

def OpensLevel (t : NamedTree) (path : Path) : Prop :=
  t.IsAt path (·.name ∈ nestingNames) ∧ ¬ t.ElseIf path

def LoopAt (t : NamedTree) (path : Path) : Prop := t.IsAt path (·.name ∈ loopNames)

/-- What the measures of a tree mean, said of the names of its nodes. -/
structure Describes (source : List Char) (t : NamedTree) (s : Summary) : Prop where
  methodCount : (s.methodCount : ℕ∞) = {path | t.IsAt path (·.name ∈ methodNames)}.encard
  cyclomaticComplexity :
    (s.cyclomaticComplexity : ℕ∞) = 1 + {path | t.IsAt path (·.Decides source)}.encard
  maxNestingDepth :
    IsGreatest
      {levels | ∃ path, (t.at? path).isSome = true ∧ levels = (along t.OpensLevel path).encard}
      (s.maxNestingDepth : ℕ∞)
  hasLoop : s.hasLoop = true ↔ ∃ path, t.LoopAt path
  hasNestedLoop : s.hasNestedLoop = true ↔
    ∃ outer inner, outer <+: inner ∧ outer ≠ inner ∧ t.LoopAt outer ∧ t.LoopAt inner

/-! ### Kinds and roles for names and fields -/

theorem treesOf_eq_map (trees : List NamedTree) : treesOf trees = trees.map tree := by
  induction trees with
  | nil => rw [treesOf, List.map_nil]
  | cons t rest ih => rw [treesOf, ih, List.map_cons]

theorem kind_tree (t : NamedTree) : t.tree.kind = (nodeNames.get? t.name).getD .other := by
  cases t with
  | node name field start stop children => rw [tree, Tree.kind, NodeKind.ofName, NamedTree.name]

theorem kind_tree_eq_iff {kind : NodeKind} (hkind : kind ≠ .other) (t : NamedTree) :
    t.tree.kind = kind ↔ t.name ∈ (nodeNames.entries.filter (·.2 = kind)).map Prod.fst := by
  rw [kind_tree, nodeNames.getD_get?_eq_iff hkind]

theorem kind_tree_eq_iff_name {kind : NodeKind} (hkind : kind ≠ .other) {name : String}
    (hname : (nodeNames.entries.filter (·.2 = kind)).map Prod.fst = [name]) (t : NamedTree) :
    t.tree.kind = kind ↔ t.name = name := by
  rw [kind_tree_eq_iff hkind, hname, List.mem_singleton]

theorem test_kind_tree_iff {p : NodeKind → Bool} (hother : p .other = false) (t : NamedTree) :
    p t.tree.kind = true ↔ t.name ∈ (nodeNames.entries.filter (p ·.2)).map Prod.fst := by
  rw [kind_tree]
  exact nodeNames.getD_get?_iff p hother t.name

/-- A field tells its role. -/
theorem role_tree_eq_iff {role : Role} (hrole : role ≠ .plain) {field : String}
    (hfield : (fieldNames.entries.filter (·.2 = role)).map Prod.fst = [field]) (t : NamedTree) :
    t.tree.role = role ↔ t.field = some field := by
  cases t with
  | node name field' start stop children =>
    rw [tree, Tree.role, NamedTree.field]
    cases field' with
    | none => simp [Ne.symm hrole]
    | some field' =>
      rw [Option.map_some, Option.getD_some, Role.ofName, fieldNames.getD_get?_eq_iff hrole, hfield,
        List.mem_singleton, Option.some.injEq]

theorem children_tree (t : NamedTree) : t.tree.children = t.children.map tree := by
  cases t with
  | node name field start stop children =>
    rw [tree, Tree.children, NamedTree.children, treesOf_eq_map]

theorem text_tree (source : List Char) (t : NamedTree) : t.tree.text source = t.text source := by
  cases t with
  | node name field start stop children =>
    rw [tree, Tree.text, Tree.start, Tree.stop, NamedTree.text]

section Fields

variable {role : Role} {field : String}
  (h : ∀ t : NamedTree, t.tree.role = role ↔ t.field = some field)

include h

theorem role_test_tree :
    (fun child : NamedTree => child.tree.role == role) =
      fun child => decide (child.field = some field) := by
  funext child
  rw [Bool.eq_iff_iff, beq_iff_eq, decide_eq_true_iff, h]

theorem childIn?_tree (t : NamedTree) :
    t.tree.childIn? role = (t.children.find? (·.field = some field)).map tree := by
  rw [Tree.childIn?, children_tree, List.find?_map, ← role_test_tree h]
  rfl

theorem placeIn?_tree (t : NamedTree) :
    t.tree.placeIn? role = t.children.findIdx? (·.field = some field) := by
  rw [Tree.placeIn?, children_tree, List.findIdx?_map, ← role_test_tree h]
  rfl

end Fields

theorem decides_tree_iff (source : List Char) (node : NamedTree) :
    node.tree.Decides source ↔ node.Decides source := by
  have hbranch : node.tree.kind.isBranch = true ↔ node.name ∈ branchNames :=
    test_kind_tree_iff (p := NodeKind.isBranch) rfl node
  have hlabel : node.tree.kind = .switchLabel ↔ node.name = "switch_label" :=
    kind_tree_eq_iff_name (by decide) rfl node
  have hbinary : node.tree.kind = .binary ↔ node.name = "binary_expression" :=
    kind_tree_eq_iff_name (by decide) rfl node
  have hoperator : ∀ op : NamedTree, op.tree.kind = .shortCircuit ↔ op.name ∈ shortCircuitNames :=
    kind_tree_eq_iff (by decide)
  rw [Tree.Decides, Decides, hbranch, hlabel, hbinary, text_tree,
    childIn?_tree (role_tree_eq_iff (by decide) rfl)]
  simp only [Option.map_eq_some_iff, exists_exists_and_eq_and, hoperator]

/-! ### Nodes at the ends of paths -/

theorem at?_tree (t : NamedTree) (path : Path) : t.tree.at? path = (t.at? path).map tree := by
  induction path generalizing t with
  | nil => rfl
  | cons place path ih =>
    have hcons : t.at? (place :: path) = t.children[place]?.bind fun child => child.at? path := rfl
    rw [Tree.at?_cons, hcons, children_tree, List.getElem?_map]
    cases t.children[place]? with
    | none => rfl
    | some child => exact ih child

theorem isAt_tree_iff {P : Tree → Prop} {Q : NamedTree → Prop} (h : ∀ node, P node.tree ↔ Q node)
    (t : NamedTree) (path : Path) : t.tree.IsAt path P ↔ t.IsAt path Q := by
  simp only [Tree.IsAt, IsAt, at?_tree, Option.map_eq_some_iff, exists_exists_and_eq_and, h]

theorem ifStatement_tree_iff (node : NamedTree) :
    node.tree.kind = .ifStatement ↔ node.name = "if_statement" :=
  kind_tree_eq_iff_name (by decide) rfl node

theorem elseIf_tree_iff (t : NamedTree) (path : Path) : t.tree.ElseIf path ↔ t.ElseIf path := by
  unfold Tree.ElseIf ElseIf
  rw [isAt_tree_iff ifStatement_tree_iff]
  refine and_congr_right fun _ => exists₂_congr fun above place => and_congr_right fun _ => ?_
  refine isAt_tree_iff (fun node => ?_) t above
  rw [ifStatement_tree_iff, placeIn?_tree (role_tree_eq_iff (by decide) rfl)]

theorem opensLevel_tree (t : NamedTree) : t.tree.OpensLevel = t.OpensLevel := by
  funext path
  have hnesting : ∀ node : NamedTree,
      node.tree.kind.isNesting = true ↔ node.name ∈ nestingNames :=
    test_kind_tree_iff (p := NodeKind.isNesting) rfl
  rw [Tree.OpensLevel, OpensLevel, isAt_tree_iff hnesting, elseIf_tree_iff]

theorem loopAt_tree (t : NamedTree) : t.tree.LoopAt = t.LoopAt := by
  funext path
  have hloop : ∀ node : NamedTree, node.tree.kind = .loop ↔ node.name ∈ loopNames :=
    kind_tree_eq_iff (by decide)
  rw [Tree.LoopAt, LoopAt, isAt_tree_iff hloop]

/-- The summary of a tree is what the names of its nodes and of their ancestors say. -/
theorem describes_summary_tree (source : List Char) (lineCount : Nat) (t : NamedTree) :
    t.Describes source (t.tree.summary source lineCount) := by
  have h := describes_summary source lineCount t.tree
  have hmethod : ∀ path,
      t.tree.IsAt path (·.kind = .method) ↔ t.IsAt path (·.name ∈ methodNames) :=
    isAt_tree_iff (kind_tree_eq_iff (by decide)) t
  have hnode : ∀ path, (t.tree.at? path).isSome = (t.at? path).isSome := by
    intro path
    rw [at?_tree, Option.isSome_map]
  exact {
    methodCount := by simpa only [hmethod] using h.methodCount
    cyclomaticComplexity := by
      simpa only [isAt_tree_iff (decides_tree_iff source)] using h.cyclomaticComplexity
    maxNestingDepth := by simpa only [hnode, opensLevel_tree] using h.maxNestingDepth
    hasLoop := by simpa only [loopAt_tree] using h.hasLoop
    hasNestedLoop := by simpa only [loopAt_tree] using h.hasNestedLoop }

end NamedTree

end TagAudit.Syntax
