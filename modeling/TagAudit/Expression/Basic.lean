/-!
Conditions over tags. A condition is built from references to tags with negation, conjunction and
disjunction. A `!` that stands directly before a tag belongs to the reference.

The nodes of tag expressions: `Atom`, `Not`, `And` and `Or`.
-/

namespace TagAudit

inductive Expression where
  /-- A reference to a tag; `negated` when a `!` applies directly to it. -/
  | atom (name : String) (negated : Bool)
  /-- The negation of a group or of another negation. -/
  | not (operand : Expression)
  | and (left right : Expression)
  | or (left right : Expression)
  deriving DecidableEq, Repr, Inhabited

namespace Expression

/-- The references of a condition from left to right: each name, and whether it is negated. -/
def atoms : Expression → List (String × Bool)
  | .atom name negated => [(name, negated)]
  | .not e => e.atoms
  | .and l r => l.atoms ++ r.atoms
  | .or l r => l.atoms ++ r.atoms

def hasOr : Expression → Bool
  | .atom _ _ => false
  | .not e => e.hasOr
  | .and l r => l.hasOr || r.hasOr
  | .or _ _ => true

def outline : Expression → String
  | .atom name false => name
  | .atom name true => "!" ++ name
  | .not e => "(not " ++ e.outline ++ ")"
  | .and l r => "(and " ++ l.outline ++ " " ++ r.outline ++ ")"
  | .or l r => "(or " ++ l.outline ++ " " ++ r.outline ++ ")"

end Expression

end TagAudit
