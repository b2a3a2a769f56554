import TagAudit.Expression.Parser

/-!
The value of a condition on a set of tags, and the tags that explain it.

`evaluate` of tag expressions, with `_evaluate_node`.
-/

namespace TagAudit.Expression

/-- The present tags that make a condition true, along the way the evaluation takes: both sides of a
conjunction, the first true side of a disjunction, nothing for a negation. None when the condition
is false. -/
def witness (tags : List String) : Expression → Option (List String)
  | .atom name false => if name ∈ tags then some [name] else none
  | .atom name true => if name ∈ tags then none else some []
  | .not e =>
    match e.witness tags with
    | some _ => none
    | none => some []
  | .and l r =>
    match l.witness tags with
    | none => none
    | some a =>
      match r.witness tags with
      | none => none
      | some b => some (a ++ b)
  | .or l r =>
    match l.witness tags with
    | some a => some a
    | none => r.witness tags

def holds (tags : List String) (e : Expression) : Bool :=
  (e.witness tags).isSome

/-- The outcome of an evaluation: the truth value, and without repetition the present tags that made
the condition true. -/
structure Outcome where
  result : Bool
  matchedTags : List String
  deriving DecidableEq, Repr

def outcome (tags : List String) (e : Expression) : Outcome :=
  ⟨e.holds tags, ((e.witness tags).getD []).eraseDups⟩

def evaluate (text : String) (tags : List String) : Except SyntaxFault Outcome :=
  (parse text).map (·.outcome tags)

end TagAudit.Expression
