import TagAudit.Syntax.Tree
import TagAudit.Text.Blank
import TagAudit.Text.Utf8

/-!
The measures of a file that its syntax tree gives: how many methods it declares, how many decisions
it takes, how deep its control structures nest, and whether its loops nest.

`summarize_tree`, with its stack, and `SyntaxSummary`.
-/

namespace TagAudit.Syntax

structure Summary where
  methodCount : Nat := 0
  cyclomaticComplexity : Nat := 1
  maxNestingDepth : Nat := 0
  lineCount : Nat := 0
  hasLoop : Bool := false
  hasNestedLoop : Bool := false
  deriving DecidableEq, Repr

/-- The kinds that branch by themselves. -/
def NodeKind.isBranch : NodeKind → Bool
  | .ifStatement => true
  | .catchClause => true
  | .conditional => true
  | .loop => true
  | _ => false

/-- The kinds that open a level of nesting. -/
def NodeKind.isNesting : NodeKind → Bool
  | .ifStatement => true
  | .switch => true
  | .tryStatement => true
  | .loop => true
  | _ => false

def Tree.text (source : List Char) (t : Tree) : List Char :=
  Text.byteSlice t.start t.stop source

/-- Whether a node is a decision: a branch, a `case` label, or an expression with a short-circuit
operator. -/
def Tree.isDecision (source : List Char) (t : Tree) : Bool :=
  match t.kind with
  | .switchLabel => "case".toList.isPrefixOf (Text.trimStart (t.text source))
  | .binary =>
    match t.childIn? .operator with
    | some op => op.kind == .shortCircuit
    | none => false
  | kind => kind.isBranch

structure Tally where
  methods : Nat := 0
  decisions : Nat := 0
  deepest : Nat := 0
  hasLoop : Bool := false
  hasNestedLoop : Bool := false
  deriving DecidableEq, Repr

/-- What a tally takes in of a node: its kind, whether it is a decision, whether it opens a level of
nesting, and in how many levels and loops it lies, itself not counted. -/
structure Sighting where
  kind : NodeKind
  isDecision : Bool
  opens : Bool
  depth : Nat
  loops : Nat
  deriving DecidableEq, Repr

def Tally.note (tally : Tally) (s : Sighting) : Tally where
  methods := tally.methods + (if s.kind = .method then 1 else 0)
  decisions := tally.decisions + (if s.isDecision then 1 else 0)
  deepest := if s.opens then max tally.deepest (s.depth + 1) else tally.deepest
  hasLoop := tally.hasLoop || s.kind == .loop
  hasNestedLoop := tally.hasNestedLoop || (s.kind == .loop && s.loops > 0)

/-- A node that waits for its turn. `isAlternative` tells that the node right above is an `if`
statement and this one its `else` part; `depth` and `loops` count the levels of nesting and the loops
above it. -/
structure Visit where
  tree : Tree
  isAlternative : Bool := false
  depth : Nat := 0
  loops : Nat := 0

namespace Visit

/-- Whether the node opens a level of nesting. An `if` statement in the `else` part of another one
goes on with the chain and opens none. -/
def opens (v : Visit) : Bool :=
  v.tree.kind.isNesting && !(v.tree.kind == .ifStatement && v.isAlternative)

def sighting (source : List Char) (v : Visit) : Sighting where
  kind := v.tree.kind
  isDecision := v.tree.isDecision source
  opens := v.opens
  depth := v.depth
  loops := v.loops

/-- The child at a place among the children, as it waits for its turn. -/
def child (v : Visit) (place : Nat) (tree : Tree) : Visit where
  tree := tree
  isAlternative := v.tree.kind == .ifStatement && v.tree.placeIn? .alternative == some place
  depth := if v.opens then v.depth + 1 else v.depth
  loops := if v.tree.kind = .loop then v.loops + 1 else v.loops

def below (v : Visit) : List Visit :=
  v.tree.children.mapIdx v.child

theorem map_tree_below (v : Visit) : v.below.map tree = v.tree.children := by
  apply List.ext_getElem?
  intro place
  rw [below, List.getElem?_map, List.getElem?_mapIdx, Option.map_map]
  exact Option.map_id_apply

end Visit

/-- A traversal under way: the nodes that wait, the one whose turn comes next first, and the tally of
those that had their turn. -/
structure Traversal where
  waiting : List Visit
  tally : Tally := {}

namespace Traversal

def start (t : Tree) : Traversal := { waiting := [{ tree := t }] }

/-- One turn: the next node is noted, and its children wait before all others. -/
def step (source : List Char) (s : Traversal) : Traversal :=
  match s.waiting with
  | [] => s
  | v :: rest => ⟨v.below ++ rest, s.tally.note (v.sighting source)⟩

def size (s : Traversal) : Nat := sizeAll (s.waiting.map Visit.tree)

theorem size_step (source : List Char) (s : Traversal) (h : s.waiting ≠ []) :
    (s.step source).size + 1 = s.size := by
  unfold step size
  cases hwaiting : s.waiting with
  | nil => exact absurd hwaiting h
  | cons v rest =>
    dsimp only
    rw [List.map_append, sizeAll_append, Visit.map_tree_below, List.map_cons, sizeAll, v.tree.size_eq]
    omega

/-- The tally when no node waits any more. -/
def finish (source : List Char) (s : Traversal) : Tally :=
  if s.waiting = [] then s.tally
  else (s.step source).finish source
termination_by s.size
decreasing_by
  rename_i hwaiting
  have hstep := size_step source s hwaiting
  omega

end Traversal

/-- What a tally reports of a file with the given number of lines. -/
def Tally.summary (lineCount : Nat) (tally : Tally) : Summary where
  methodCount := tally.methods
  cyclomaticComplexity := 1 + tally.decisions
  maxNestingDepth := tally.deepest
  lineCount := lineCount
  hasLoop := tally.hasLoop
  hasNestedLoop := tally.hasNestedLoop

def Tree.summary (source : List Char) (lineCount : Nat) (t : Tree) : Summary :=
  ((Traversal.start t).finish source).summary lineCount

end TagAudit.Syntax
