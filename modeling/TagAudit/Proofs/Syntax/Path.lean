import Mathlib.Data.List.Infix
import Mathlib.Data.List.Nodup
import Mathlib.Data.Set.Card
import TagAudit.Syntax.Summary

/-!
# Nodes by their paths

A node of a tree is told by its path: the places among the children that lead to it from the root.
Its ancestors are the prefixes of its path. What a summary measures is said here of paths, without
any traversal.
-/

namespace TagAudit.Syntax

/-- The places among the children on the way from the root to a node. -/
abbrev Path := List Nat

namespace Tree

def at? (t : Tree) (path : Path) : Option Tree :=
  path.foldlM (fun node place => node.children[place]?) t

def IsAt (t : Tree) (path : Path) (P : Tree → Prop) : Prop :=
  ∃ node, t.at? path = some node ∧ P node

/-- A branch, a `case` label, or an expression with a short-circuit operator. -/
def Decides (source : List Char) (node : Tree) : Prop :=
  node.kind.isBranch = true ∨
    (node.kind = .switchLabel ∧ ['c', 'a', 's', 'e'] <+: Text.trimStart (node.text source)) ∨
    (node.kind = .binary ∧ ∃ op, node.childIn? .operator = some op ∧ op.kind = .shortCircuit)

/-- Whether the node of a path is an `if` statement and the alternative of the `if` statement right
above it. -/
def ElseIf (t : Tree) (path : Path) : Prop :=
  t.IsAt path (·.kind = .ifStatement) ∧
    ∃ above place, path = above ++ [place] ∧
      t.IsAt above fun node => node.kind = .ifStatement ∧ node.placeIn? .alternative = some place

def OpensLevel (t : Tree) (path : Path) : Prop :=
  t.IsAt path (·.kind.isNesting = true) ∧ ¬ t.ElseIf path

def LoopAt (t : Tree) (path : Path) : Prop := t.IsAt path (·.kind = .loop)

theorem IsAt.isSome {t : Tree} {path : Path} {P : Tree → Prop} (h : t.IsAt path P) :
    (t.at? path).isSome = true := by
  obtain ⟨node, hnode, -⟩ := h
  rw [hnode]
  rfl

theorem at?_nil (t : Tree) : t.at? [] = some t := rfl

theorem at?_cons (t : Tree) (place : Nat) (path : Path) :
    t.at? (place :: path) = t.children[place]?.bind fun child => child.at? path := rfl

theorem at?_concat (t : Tree) (path : Path) (place : Nat) :
    t.at? (path ++ [place]) = (t.at? path).bind fun node => node.children[place]? := by
  unfold at?
  rw [List.foldlM_append]
  simp

theorem isDecision_iff (source : List Char) (node : Tree) :
    node.isDecision source = true ↔ node.Decides source := by
  unfold isDecision Decides
  cases hkind : node.kind with
  | switchLabel => simp [NodeKind.isBranch]
  | binary =>
    cases hop : node.childIn? .operator with
    | none => simp [NodeKind.isBranch]
    | some op => simp [NodeKind.isBranch]
  | method | loop | ifStatement | catchClause | conditional | switch | tryStatement | shortCircuit
    | other => simp

end Tree

/-! ### All paths -/

mutual

/-- The paths of all nodes, each before those of the nodes below it. -/
def Tree.paths : Tree → List Path
  | .node _ _ _ _ children => [] :: pathsFrom 0 children

def pathsFrom (place : Nat) : List Tree → List Path
  | [] => []
  | child :: rest => child.paths.map (place :: ·) ++ pathsFrom (place + 1) rest

end

theorem Tree.paths_eq (t : Tree) : t.paths = [] :: pathsFrom 0 t.children := by
  cases t with
  | node kind role start stop children => rw [Tree.paths, Tree.children]

theorem mem_pathsFrom (path : Path) (first : Nat) (trees : List Tree) :
    path ∈ pathsFrom first trees ↔
      ∃ place rest tree, path = (first + place) :: rest ∧ trees[place]? = some tree ∧
        rest ∈ tree.paths := by
  induction trees generalizing first with
  | nil => simp [pathsFrom]
  | cons tree trees ih =>
    rw [pathsFrom, List.mem_append, List.mem_map, ih]
    constructor
    · intro h
      rcases h with ⟨rest, hrest, rfl⟩ | ⟨place, rest, tree', rfl, htree, hrest⟩
      · exact ⟨0, rest, tree, rfl, rfl, hrest⟩
      · refine ⟨place + 1, rest, tree', ?_, htree, hrest⟩
        congr 1
        omega
    · intro h
      obtain ⟨place, rest, tree', rfl, htree, hrest⟩ := h
      cases place with
      | zero =>
        obtain rfl := Option.some.inj htree
        exact .inl ⟨rest, hrest, rfl⟩
      | succ place =>
        refine .inr ⟨place, rest, tree', ?_, htree, hrest⟩
        congr 1
        omega

theorem Tree.mem_paths (t : Tree) (path : Path) : path ∈ t.paths ↔ (t.at? path).isSome = true := by
  -- Along the path, since the node below a place is the first node of a shorter path.
  induction path generalizing t with
  | nil => simp [t.paths_eq, Tree.at?_nil]
  | cons place path ih =>
    rw [t.paths_eq, List.mem_cons, mem_pathsFrom, Tree.at?_cons]
    cases hchild : t.children[place]? with
    | none => simp [hchild]
    | some child => simp [hchild, ih child]

/-! ### Every node once -/

theorem size_le_sizeAll {t : Tree} {trees : List Tree} (h : t ∈ trees) : t.size ≤ sizeAll trees := by
  induction trees with
  | nil => exact absurd h (by simp)
  | cons first trees ih =>
    rw [sizeAll]
    rcases List.mem_cons.1 h with hfirst | hrest
    · rw [hfirst]
      omega
    · have hle := ih hrest
      omega

/-- What a tree has whenever its children have it holds of all trees. -/
theorem Tree.induction_children {motive : Tree → Prop}
    (node : ∀ t, (∀ child ∈ t.children, motive child) → motive t) (t : Tree) : motive t := by
  induction hsize : t.size using Nat.strongRecOn generalizing t with
  | ind n ih =>
    refine node t fun child hchild => ih child.size ?_ child rfl
    have hle := size_le_sizeAll hchild
    have heq := t.size_eq
    omega

theorem length_pathsFrom (first : Nat) (trees : List Tree)
    (h : ∀ t ∈ trees, t.paths.length = t.size) : (pathsFrom first trees).length = sizeAll trees := by
  induction trees generalizing first with
  | nil => rfl
  | cons tree trees ih =>
    have hfirst := h tree List.mem_cons_self
    have hrest := ih (first + 1) fun t ht => h t (List.mem_cons_of_mem tree ht)
    rw [pathsFrom, sizeAll, List.length_append, List.length_map, hfirst, hrest]

theorem Tree.length_paths (t : Tree) : t.paths.length = t.size := by
  induction t using Tree.induction_children with
  | node t ih => rw [t.paths_eq, List.length_cons, length_pathsFrom 0 t.children ih, t.size_eq]

theorem nodup_pathsFrom (first : Nat) (trees : List Tree) (h : ∀ t ∈ trees, t.paths.Nodup) :
    (pathsFrom first trees).Nodup := by
  induction trees generalizing first with
  | nil => exact List.nodup_nil
  | cons tree trees ih =>
    have hfirst := h tree List.mem_cons_self
    have hrest := ih (first + 1) fun t ht => h t (List.mem_cons_of_mem tree ht)
    rw [pathsFrom, List.nodup_append]
    refine ⟨hfirst.map List.cons_injective, hrest, ?_⟩
    intro path hpath path' hpath' heq
    obtain ⟨rest, -, hcons⟩ := List.mem_map.1 hpath
    obtain ⟨place, rest', tree', hplace, -, -⟩ := (mem_pathsFrom path' _ _).1 hpath'
    rw [← heq, ← hcons, List.cons.injEq] at hplace
    omega

theorem Tree.nodup_paths (t : Tree) : t.paths.Nodup := by
  induction t using Tree.induction_children with
  | node t ih =>
    rw [t.paths_eq, List.nodup_cons]
    refine ⟨?_, nodup_pathsFrom 0 t.children ih⟩
    intro hnil
    obtain ⟨place, rest, tree, hcons, -, -⟩ := (mem_pathsFrom [] _ _).1 hnil
    exact absurd hcons (by simp)

/-- Nodes with a property are counted by going through all paths. -/
theorem Tree.encard_isAt (t : Tree) (P : Tree → Prop) [DecidablePred P] :
    {path | t.IsAt path P}.encard = t.paths.countP fun path => (t.at? path).any (P ·) := by
  have hset : {path | t.IsAt path P} =
      ((t.paths.filter fun path => (t.at? path).any (P ·)).toFinset : Set Path) := by
    ext path
    rw [Set.mem_ofPred_eq, Finset.mem_coe, List.mem_toFinset, List.mem_filter, t.mem_paths]
    cases hnode : t.at? path with
    | none => simp [Tree.IsAt, hnode]
    | some node => simp [Tree.IsAt, hnode]
  have hnodup := t.nodup_paths.filter fun path => (t.at? path).any (P ·)
  rw [hset, Set.encard_coe_eq_coe_finsetCard, List.toFinset_card_of_nodup hnodup,
    List.countP_eq_length_filter]

/-! ### Ancestors -/

/-- The prefixes of a path that have a property, the path itself included. -/
def along (P : Path → Prop) (path : Path) : Set Path := {p | p <+: path ∧ P p}

def above (P : Path → Prop) (path : Path) : Set Path := {p | p <+: path ∧ p ≠ path ∧ P p}

section Ancestors

variable (P : Path → Prop)

theorem above_nil : above P [] = ∅ := by
  ext p
  simp only [above, Set.mem_ofPred_eq, List.prefix_nil, Set.mem_empty_iff_false, iff_false]
  intro h
  exact h.2.1 h.1

theorem above_concat (path : Path) (place : Nat) : above P (path ++ [place]) = along P path := by
  ext p
  simp only [above, along, Set.mem_ofPred_eq, List.prefix_concat_iff]
  constructor
  · intro h
    rcases h with ⟨heq | hpre, hne, hP⟩
    · exact absurd heq hne
    · exact ⟨hpre, hP⟩
  · intro h
    refine ⟨.inr h.1, ?_, h.2⟩
    intro heq
    have hle := h.1.length_le
    rw [heq, List.length_append, List.length_singleton] at hle
    omega

theorem mem_along_iff (path p : Path) : p ∈ along P path ↔ (p = path ∧ P path) ∨ p ∈ above P path := by
  simp only [along, above, Set.mem_ofPred_eq]
  by_cases heq : p = path
  · simp [heq]
  · simp [heq]

theorem encard_along_of {path : Path} (h : P path) :
    (along P path).encard = (above P path).encard + 1 := by
  have hinsert : along P path = insert path (above P path) := by
    ext p
    rw [mem_along_iff, Set.mem_insert_iff]
    simp [h]
  have hnot : path ∉ above P path := fun hmem => hmem.2.1 rfl
  rw [hinsert, Set.encard_insert_of_notMem hnot]

theorem along_of_not {path : Path} (h : ¬ P path) : along P path = above P path := by
  ext p
  rw [mem_along_iff]
  simp [h]

end Ancestors

/-! ### What a summary says -/

/-- What the measures of a tree mean, said of its nodes and their ancestors. -/
structure Describes (source : List Char) (t : Tree) (s : Summary) : Prop where
  methodCount : (s.methodCount : ℕ∞) = {path | t.IsAt path (·.kind = .method)}.encard
  cyclomaticComplexity :
    (s.cyclomaticComplexity : ℕ∞) = 1 + {path | t.IsAt path (·.Decides source)}.encard
  maxNestingDepth :
    IsGreatest {levels | ∃ path, (t.at? path).isSome = true ∧ levels = (along t.OpensLevel path).encard}
      (s.maxNestingDepth : ℕ∞)
  hasLoop : s.hasLoop = true ↔ ∃ path, t.LoopAt path
  hasNestedLoop : s.hasNestedLoop = true ↔
    ∃ outer inner, outer <+: inner ∧ outer ≠ inner ∧ t.LoopAt outer ∧ t.LoopAt inner

end TagAudit.Syntax
