import TagAudit.Table

/-!
Syntax trees of source files, as far as the measures of a file look at them.

The trees that `summarize_tree` walks, with the sets of node names that it looks for.
-/

namespace TagAudit.Syntax

inductive NodeKind where
  /-- A declaration of a method or a constructor. -/
  | method
  /-- A `for`, `while` or `do` statement. -/
  | loop
  | ifStatement
  | catchClause
  /-- A conditional expression `c ? a : b`. -/
  | conditional
  /-- A label of a `switch`: `case` or `default`. -/
  | switchLabel
  | binary
  | switch
  | tryStatement
  /-- The operator `&&` or `||`. -/
  | shortCircuit
  | other
  deriving DecidableEq, Repr

/-- The names of nodes in the grammar of the language, as far as they tell a kind. -/
def nodeNames : Table String NodeKind where
  entries := [("method_declaration", .method), ("constructor_declaration", .method),
    ("if_statement", .ifStatement), ("catch_clause", .catchClause),
    ("ternary_expression", .conditional), ("switch_expression", .switch),
    ("try_statement", .tryStatement), ("try_with_resources_statement", .tryStatement),
    ("for_statement", .loop), ("enhanced_for_statement", .loop), ("while_statement", .loop),
    ("do_statement", .loop), ("switch_label", .switchLabel), ("binary_expression", .binary),
    ("&&", .shortCircuit), ("||", .shortCircuit)]
  nodup := by decide

def NodeKind.ofName (name : String) : NodeKind := (nodeNames.get? name).getD .other

inductive Role where
  /-- The `else` part of an `if` statement. -/
  | alternative
  /-- The operator of an expression. -/
  | operator
  | plain
  deriving DecidableEq, Repr

/-- The names of the fields that tell a role. -/
def fieldNames : Table String Role where
  entries := [("alternative", .alternative), ("operator", .operator)]
  nodup := by decide

def Role.ofName (name : String) : Role := (fieldNames.get? name).getD .plain

/-- A syntax tree. `start` and `stop` are the byte offsets of a node's text in the source. -/
inductive Tree where
  | node (kind : NodeKind) (role : Role) (start stop : Nat) (children : List Tree)
  deriving Repr

namespace Tree

def kind : Tree → NodeKind
  | .node kind _ _ _ _ => kind

def role : Tree → Role
  | .node _ role _ _ _ => role

def start : Tree → Nat
  | .node _ _ start _ _ => start

def stop : Tree → Nat
  | .node _ _ _ stop _ => stop

def children : Tree → List Tree
  | .node _ _ _ _ children => children

def childIn? (role : Role) (t : Tree) : Option Tree :=
  t.children.find? (·.role == role)

/-- The place of the first child that has a role. -/
def placeIn? (role : Role) (t : Tree) : Option Nat :=
  t.children.findIdx? (·.role == role)

end Tree

mutual

def Tree.size : Tree → Nat
  | .node _ _ _ _ children => sizeAll children + 1

def sizeAll : List Tree → Nat
  | [] => 0
  | t :: rest => t.size + sizeAll rest

end

theorem Tree.size_eq (t : Tree) : t.size = sizeAll t.children + 1 := by
  cases t with
  | node kind role start stop children => rw [Tree.size, Tree.children]

theorem sizeAll_append (l m : List Tree) : sizeAll (l ++ m) = sizeAll l + sizeAll m := by
  induction l with
  | nil => simp [sizeAll]
  | cons t l ih =>
    rw [List.cons_append, sizeAll, sizeAll, ih]
    omega

/-- A syntax tree as a grammar gives it: each node has a name, and perhaps a field of its parent that
holds it. -/
inductive NamedTree where
  | node (name : String) (field : Option String) (start stop : Nat) (children : List NamedTree)
  deriving Inhabited, Repr

mutual

/-- The tree with what measures look at: kinds for names and roles for fields. -/
def NamedTree.tree : NamedTree → Tree
  | .node name field start stop children =>
    .node (.ofName name) ((field.map Role.ofName).getD .plain) start stop (treesOf children)

def treesOf : List NamedTree → List Tree
  | [] => []
  | t :: rest => t.tree :: treesOf rest

end

end TagAudit.Syntax
