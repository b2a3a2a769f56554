import TagAudit.Expression.Basic
import TagAudit.Expression.Token

/-!
Reading conditions. `||` binds weaker than `&&`, which binds weaker than `!`; both binary operators
associate to the left, and parentheses group.

The parser reads one token at a time. Its state holds one `Level` for each open group, the innermost
first: what has been read of the group so far. Because every state can still be completed, the token
that is refused is the first one that no condition can have in its place.

`parse_expression` of tag expressions. The machine takes the place of the descent through
`_parse_or`, `_parse_and`, `_parse_not` and `_parse_primary`.
-/

namespace TagAudit.Expression

inductive SyntaxFault where
  /-- Nothing but blanks. -/
  | blank
  /-- A character that starts no token. -/
  | stray (character : Char) (position : Nat)
  /-- A token after a complete condition. -/
  | trailing (token : Token) (position : Nat)
  /-- A group that goes on neither with an operator nor with its closing parenthesis. -/
  | unclosed (position : Nat)
  /-- The end of the text where an operand is due. -/
  | incomplete (position : Nat)
  /-- A token that cannot start an operand. -/
  | misplaced (token : Token) (position : Nat)
  deriving DecidableEq, Repr

namespace SyntaxFault

/-- Where the fault is; a blank text has no place to point at. -/
def position? : SyntaxFault → Option Nat
  | .blank => none
  | .stray _ p => some p
  | .trailing _ p => some p
  | .unclosed p => some p
  | .incomplete p => some p
  | .misplaced _ p => some p

def message : SyntaxFault → String
  | .blank => "Empty expression"
  | .stray c p => s!"Unexpected character '{c}' at position {p}"
  | .trailing t p => "Unexpected trailing token '" ++ t.text ++ s!"' at position {p}"
  | .unclosed p => s!"Expected ')' to close group at position {p}"
  | .incomplete p => s!"Unexpected end of expression at position {p}"
  | .misplaced t p => "Unexpected token '" ++ t.text ++ s!"' at position {p}"

end SyntaxFault

/-- What has been read of one group: the condition left of the pending `||`, the one left of the
pending `&&`, and the number of `!` before the operand that is due. -/
structure Level where
  disjunct : Option Expression
  conjunct : Option Expression
  negations : Nat
  deriving DecidableEq, Repr

namespace Level

/-- A group of which nothing has been read. -/
def empty : Level := ⟨none, none, 0⟩

/-- The conjunction of the pending left side, if there is one, with `e`. -/
def joinAnd (level : Level) (e : Expression) : Expression :=
  match level.conjunct with
  | none => e
  | some l => .and l e

/-- The whole of a group that ends with the operand `e`. -/
def close (level : Level) (e : Expression) : Expression :=
  match level.disjunct with
  | none => level.joinAnd e
  | some l => .or l (level.joinAnd e)

def afterAnd (level : Level) (e : Expression) : Level :=
  ⟨level.disjunct, some (level.joinAnd e), 0⟩

def afterOr (level : Level) (e : Expression) : Level :=
  ⟨some (level.close e), none, 0⟩

end Level

def negate : Nat → Expression → Expression
  | 0, e => e
  | n + 1, e => .not (negate n e)

/-- A tag with `n` negations before it: the innermost one belongs to the reference. -/
def negateTag : Nat → String → Expression
  | 0, name => .atom name false
  | n + 1, name => negate n (.atom name true)

inductive State where
  /-- An operand of the innermost group is due. -/
  | operand (level : Level) (outer : List Level)
  /-- The operand `e` of the innermost group, with its negations, is complete. -/
  | operator (e : Expression) (level : Level) (outer : List Level)
  deriving DecidableEq, Repr

namespace State

def start : State := .operand .empty []

def step : State → Lexeme → Except SyntaxFault State
  | .operand level outer, ⟨token, position⟩ =>
    match token with
    | .tag name => .ok (.operator (negateTag level.negations name) level outer)
    | .not => .ok (.operand { level with negations := level.negations + 1 } outer)
    | .opening => .ok (.operand .empty (level :: outer))
    | token => .error (.misplaced token position)
  | .operator e level outer, ⟨token, position⟩ =>
    match token, outer with
    | .and, outer => .ok (.operand (level.afterAnd e) outer)
    | .or, outer => .ok (.operand (level.afterOr e) outer)
    | .closing, next :: outer => .ok (.operator (negate next.negations (level.close e)) next outer)
    | token, [] => .error (.trailing token position)
    | _, _ :: _ => .error (.unclosed position)

/-- The condition that is complete when the text ends at offset `length`. -/
def finish (length : Nat) : State → Except SyntaxFault Expression
  | .operand _ _ => .error (.incomplete length)
  | .operator e level [] => .ok (level.close e)
  | .operator _ _ (_ :: _) => .error (.unclosed length)

def run (length : Nat) : State → List Lexeme → Except SyntaxFault Expression
  | s, [] => s.finish length
  | s, lexeme :: rest => do (← s.step lexeme).run length rest

end State

def ofLexemes (length : Nat) (lexemes : List Lexeme) : Except SyntaxFault Expression :=
  State.start.run length lexemes

def ofChars (text : List Char) : Except SyntaxFault Expression :=
  if text.all Text.isBlank then .error .blank
  else match lex text with
    | .error stray => .error (.stray stray.character stray.position)
    | .ok lexemes => ofLexemes text.length lexemes

def parse (text : String) : Except SyntaxFault Expression :=
  ofChars text.toList

end TagAudit.Expression
