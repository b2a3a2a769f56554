import TagAudit.Text.Blank

/-!
The tokens of conditions. A tag token is a maximal run of capital letters, digits and underscores;
blanks separate tokens and mean nothing else.

The tokens are those of `_Tokenizer`.
-/

namespace TagAudit.Expression

inductive Token where
  | tag (name : String)
  | and
  | or
  | not
  | opening
  | closing
  deriving DecidableEq, Repr

def Token.text : Token → String
  | .tag name => name
  | .and => "&&"
  | .or => "||"
  | .not => "!"
  | .opening => "("
  | .closing => ")"

structure Lexeme where
  token : Token
  position : Nat
  deriving DecidableEq, Repr

/-- A character that no token starts with, and its offset. -/
structure StrayCharacter where
  character : Char
  position : Nat
  deriving DecidableEq, Repr

/-- The characters of tag names: capital letters, digits and the underscore. -/
def isTagChar (c : Char) : Bool :=
  ('A' ≤ c && c ≤ 'Z') || ('0' ≤ c && c ≤ '9') || c == '_'

/-- Lexemes with a tag character put before them. The character joins a tag token that starts right
after it; otherwise it is a tag token of its own. -/
def consTagChar (c : Char) (position : Nat) : List Lexeme → List Lexeme
  | ⟨.tag name, p⟩ :: rest =>
    if p = position + 1 then ⟨.tag (String.ofList (c :: name.toList)), position⟩ :: rest
    else ⟨.tag (String.singleton c), position⟩ :: ⟨.tag name, p⟩ :: rest
  | lexemes => ⟨.tag (String.singleton c), position⟩ :: lexemes

/-- The lexemes of a text whose first character has the given offset. -/
def lexFrom (position : Nat) : List Char → Except StrayCharacter (List Lexeme)
  | [] => .ok []
  | '&' :: '&' :: rest => (lexFrom (position + 2) rest).map (⟨.and, position⟩ :: ·)
  | '|' :: '|' :: rest => (lexFrom (position + 2) rest).map (⟨.or, position⟩ :: ·)
  | c :: rest =>
    if Text.isBlank c then lexFrom (position + 1) rest
    else if c = '(' then (lexFrom (position + 1) rest).map (⟨.opening, position⟩ :: ·)
    else if c = ')' then (lexFrom (position + 1) rest).map (⟨.closing, position⟩ :: ·)
    else if c = '!' then (lexFrom (position + 1) rest).map (⟨.not, position⟩ :: ·)
    else if isTagChar c then (lexFrom (position + 1) rest).map (consTagChar c position)
    else .error ⟨c, position⟩

def lex (text : List Char) : Except StrayCharacter (List Lexeme) :=
  lexFrom 0 text

end TagAudit.Expression
