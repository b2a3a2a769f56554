import TagAudit.Pattern.Basic

/-!
The structure of a pattern, and the widths of the texts that it can match.

What the library behind `compile_patterns` keeps of a pattern.
-/

namespace TagAudit.Pattern

inductive Anchor where
  /-- The start of the text. -/
  | textStart
  /-- The start of a line. -/
  | lineStart
  /-- The end of the text. -/
  | textEnd
  /-- The end of the text, or before a line break that ends it. -/
  | lastLineEnd
  /-- The end of a line. -/
  | lineEnd
  /-- Between a word character and none. -/
  | wordBoundary (ascii : Bool)
  /-- Not between a word character and none. -/
  | noWordBoundary (ascii : Bool)
  deriving DecidableEq, Repr

/-- How many repetitions are preferred, and whether the choice may be taken back. -/
inductive Greed where
  /-- As many as possible. -/
  | greedy
  /-- As few as possible. -/
  | lazy
  /-- As many as possible, once and for all. -/
  | possessive
  deriving DecidableEq, Repr

/-- A pattern or a part of one. Groups are numbered from one in the order of their parentheses. -/
inductive Node where
  | empty
  | one (test : CharTest)
  | seq (first second : Node)
  | alt (first second : Node)
  | group (index : Nat) (body : Node)
  /-- The text that a group matched last. -/
  | backref (index : Nat) (folding : Folding)
  | anchor (a : Anchor)
  /-- What follows matches, or does not. -/
  | ahead (negated : Bool) (body : Node)
  /-- The `width` characters before match, or do not. -/
  | behind (negated : Bool) (width : Nat) (body : Node)
  /-- The first way to match, never another one. -/
  | atomic (body : Node)
  /-- Characters in a row that each pass a test. -/
  | run (test : CharTest) (least : Nat) (most : Option Nat) (greed : Greed)
  /-- A part several times in a row. -/
  | loop (body : Node) (least : Nat) (most : Option Nat) (greed : Greed)
  /-- One part if a group has matched, another one if not. -/
  | ifGroup (index : Nat) (yes no : Node)
  deriving DecidableEq, Repr, Inhabited

def Node.ofList : List Node → Node
  | [] => .empty
  | [n] => n
  | n :: rest => .seq n (Node.ofList rest)

/-- The least and the greatest number of characters that a part can match; no greatest number when
there is no bound. -/
structure Width where
  least : Nat
  most : Option Nat
  deriving DecidableEq, Repr

namespace Width

def zero : Width := ⟨0, some 0⟩

def one : Width := ⟨1, some 1⟩

/-- One part and then another. -/
def add (a b : Width) : Width :=
  ⟨a.least + b.least, match a.most, b.most with
    | some x, some y => some (x + y)
    | _, _ => none⟩

/-- One part or another. -/
def either (a b : Width) : Width :=
  ⟨min a.least b.least, match a.most, b.most with
    | some x, some y => some (max x y)
    | _, _ => none⟩

/-- A part several times. -/
def times (a : Width) (least : Nat) (most : Option Nat) : Width :=
  ⟨a.least * least, match a.most, most with
    | some 0, _ => some 0
    | some x, some n => some (x * n)
    | _, _ => none⟩

end Width

def Node.width (groups : List (Option Width)) : Node → Width
  | .empty => .zero
  | .one _ => .one
  | .seq a b => (a.width groups).add (b.width groups)
  | .alt a b => (a.width groups).either (b.width groups)
  | .group _ body => body.width groups
  | .backref index _ => ((groups[index - 1]?).join).getD .zero
  | .anchor _ => .zero
  | .ahead _ _ => .zero
  | .behind _ _ _ => .zero
  | .atomic body => body.width groups
  | .run _ least most _ => Width.one.times least most
  | .loop body least most _ => (body.width groups).times least most
  | .ifGroup _ yes no => (yes.width groups).either (no.width groups)

end TagAudit.Pattern

namespace TagAudit

structure Pattern where
  text : String
  node : Pattern.Node
  deriving DecidableEq, Repr

end TagAudit
