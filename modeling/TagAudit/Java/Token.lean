import TagAudit.Text.Identifier
import TagAudit.Text.Utf8

/-!
The tokens of Java source text: words, numbers, literals and signs, with comments and white space
left out. A text with a character that starts no token, or with a comment or literal that is not
closed, has no tokens.

The tokens of the generated parser behind `JavaParser.parse`.
-/

namespace TagAudit.Java

/-- A token. Which words are keywords depends on where they stand, so words are not divided further.
-/
inductive Token where
  | word (text : String)
  | number
  | text
  | character
  | sign (text : String)
  deriving DecidableEq, Repr

/-- A token with its place in bytes. `joined` tells that nothing stands between it and the token
before it. -/
structure Lexeme where
  token : Token
  start : Nat
  stop : Nat
  joined : Bool
  deriving DecidableEq, Repr

def isSpace (c : Char) : Bool :=
  let n := c.toNat
  (0x09 ≤ n && n ≤ 0x0D) || n == 0x20 || n == 0x85 || n == 0xA0 || n == 0x1680
    || (0x2000 ≤ n && n ≤ 0x200A) || n == 0x2028 || n == 0x2029 || n == 0x202F || n == 0x205F
    || n == 0x3000

def isWordStart (c : Char) : Bool :=
  Text.isIdentifierStart c || c == '_' || c == '$'

def isWordPart (c : Char) : Bool :=
  Text.isIdentifierPart c || c == '_' || c == '$' || c.toNat == 0xA2

/-- The length of digits of a class, with underscores between them. `pending` underscores went by
after the last digit, and `length` characters up to it. -/
def digitRun (isDigit : Char → Bool) (length pending : Nat) : List Char → Nat
  | [] => length
  | c :: rest =>
    if isDigit c then digitRun isDigit (length + pending + 1) 0 rest
    else if c = '_' && length > 0 then digitRun isDigit length (pending + 1) rest
    else length

def decimalRun (text : List Char) : Nat :=
  digitRun Char.isDigit 0 0 text

def isHexDigit (c : Char) : Bool :=
  c.isDigit || ('a' ≤ c && c ≤ 'f') || ('A' ≤ c && c ≤ 'F')

/-- One if a text starts with one of the given characters, zero otherwise. -/
def oneOf (chars : List Char) (text : List Char) : Nat :=
  if text.head?.any (chars.contains ·) then 1 else 0

/-- The length of an exponent after one of the given marks; zero if there is none. -/
def exponentRun (marks : List Char) (text : List Char) : Nat :=
  match oneOf marks text with
  | 0 => 0
  | mark =>
    let sign := oneOf ['+', '-'] (text.drop mark)
    match decimalRun (text.drop (mark + sign)) with
    | 0 => 0
    | digits => mark + sign + digits

def fractionTail (text : List Char) : Nat :=
  let exponent := exponentRun ['e', 'E'] text
  exponent + oneOf ['f', 'F', 'd', 'D'] (text.drop exponent)

def basedNumber (mark upper : Char) (isDigit : Char → Bool) (text : List Char) : Nat :=
  match text with
  | '0' :: m :: rest =>
    if m = mark || m = upper then
      match digitRun isDigit 0 0 rest with
      | 0 => 0
      | digits => 2 + digits + oneOf ['l', 'L'] (rest.drop digits)
    else 0
  | _ => 0

def hexFraction (text : List Char) : Nat :=
  match text with
  | '0' :: m :: rest =>
    if m = 'x' || m = 'X' then
      let whole := digitRun isHexDigit 0 0 rest
      let point := oneOf ['.'] (rest.drop whole)
      let part := if point = 0 then 0 else digitRun isHexDigit 0 0 (rest.drop (whole + point))
      let length := whole + point + part
      match exponentRun ['p', 'P'] (rest.drop length) with
      | 0 => 0
      | exponent =>
        if whole + part = 0 then 0
        else 2 + length + exponent + oneOf ['f', 'F', 'd', 'D'] (rest.drop (length + exponent))
    else 0
  | _ => 0

def decimalNumber (text : List Char) : Nat :=
  let whole := decimalRun text
  let rest := text.drop whole
  match whole, rest with
  | 0, '.' :: after =>
    match decimalRun after with
    | 0 => 0
    | part => 1 + part + fractionTail (after.drop part)
  | 0, _ => 0
  | _, '.' :: after =>
    let part := decimalRun after
    whole + 1 + part + fractionTail (after.drop part)
  | _, rest => whole + max (fractionTail rest) (oneOf ['l', 'L'] rest)

/-- The length of the longest number that a text starts with; zero if it starts with none. -/
def numberLength (text : List Char) : Nat :=
  [basedNumber 'x' 'X' isHexDigit text, basedNumber 'b' 'B' (fun c => c == '0' || c == '1') text,
    basedNumber 'o' 'O' (fun c => '0' ≤ c && c ≤ '7') text, hexFraction text,
    decimalNumber text].foldl max 0

/-- The length of a literal up to its closing quote, behind the opening one. -/
def quotedLength? (escaped : Bool) (length : Nat) : List Char → Option Nat
  | [] => none
  | c :: rest =>
    if escaped then quotedLength? false (length + 1) rest
    else if c = '"' then some (length + 1)
    else quotedLength? (c = '\\') (length + 1) rest

def blockLength? (escaped : Bool) (length : Nat) : List Char → Option Nat
  | [] => none
  | c :: rest =>
    if escaped then blockLength? false (length + 1) rest
    else if c = '"' && ['"', '"'].isPrefixOf rest then some (length + 3)
    else blockLength? (c = '\\') (length + 1) rest

/-- The length of a character literal up to its closing quote, behind the opening one. A line break
may stand in it after a backslash only, and it is not empty. -/
def characterLength? (escaped : Bool) (length : Nat) : List Char → Option Nat
  | [] => none
  | c :: rest =>
    if escaped then characterLength? false (length + 1) rest
    else if c = '\'' then if length = 0 then none else some (length + 1)
    else if c = '\n' then none
    else characterLength? (c = '\\') (length + 1) rest

def commentLength? (length : Nat) : List Char → Option Nat
  | [] => none
  | '*' :: '/' :: _ => some (length + 2)
  | _ :: rest => commentLength? (length + 1) rest

/-- The signs, longer ones first. A closing angle bracket is always a sign of its own, since several
in a row may close type arguments. -/
def signs : List String :=
  ["...", "<<=", "->", "::", "++", "--", "&&", "||", "==", "!=", "<=", "+=", "-=", "*=", "/=", "%=",
    "&=", "|=", "^=", "<<", "(", ")", "\x7b", "\x7d", "[", "]", ";", ",", ".", "@", "=", ">", "<",
    "!", "~", "?", ":", "+", "-", "*", "/", "&", "|", "^", "%"]

def signTable : List (String × List Char) :=
  signs.map fun s => (s, s.toList)

/-- The token that a text starts with, and its length. -/
def tokenAt? (text : List Char) : Option (Token × Nat) :=
  match text with
  | [] => none
  | '"' :: '"' :: '"' :: rest => (blockLength? false 3 rest).map (.text, ·)
  | '"' :: rest => (quotedLength? false 1 rest).map (.text, ·)
  | '\'' :: rest => (characterLength? false 0 rest).map (.character, · + 1)
  | c :: rest =>
    if isWordStart c then
      let word := c :: rest.takeWhile isWordPart
      some (.word (String.ofList word), word.length)
    else match numberLength (c :: rest) with
      | 0 => (signTable.find? fun s => s.2.isPrefixOf (c :: rest)).map fun s =>
          (.sign s.1, s.2.length)
      | length => some (.number, length)

/-- The length of the white space or the comment that a text starts with; zero if it starts with
neither. None for a comment that is not closed. -/
def gapAt? (text : List Char) : Option Nat :=
  match text with
  | '/' :: '*' :: rest => commentLength? 2 rest
  | '/' :: '/' :: rest => some (2 + (rest.takeWhile (· ≠ '\n')).length)
  | c :: _ => some (if isSpace c then 1 else 0)
  | [] => some 0

/-- What the characters that go by belong to. -/
inductive Passing where
  | gap
  | token
  deriving DecidableEq

/-- The tokens of a text after those in `done`, last one first. `offset` bytes went by; the next
`skip` characters belong to what was found last. -/
def lexFrom (done : List Lexeme) (offset : Nat) (last : Passing) (skip : Nat) :
    List Char → Option (List Lexeme)
  | [] => some done.reverse
  | c :: rest =>
    let next := offset + c.utf8Size
    match skip with
    | n + 1 => lexFrom done next last n rest
    | 0 =>
      match gapAt? (c :: rest) with
      | none => none
      | some (n + 1) => lexFrom done next .gap n rest
      | some 0 =>
        match tokenAt? (c :: rest) with
        | none => none
        | some (_, 0) => none
        | some (token, n + 1) =>
          let stop := offset + Text.byteSize ((c :: rest).take (n + 1))
          lexFrom (⟨token, offset, stop, last = .token⟩ :: done) next .token n rest

def markCode : Nat := 0xFEFF

def lex (text : List Char) : Option (List Lexeme) :=
  match text with
  | c :: rest =>
    if c.toNat = markCode then lexFrom [] c.utf8Size .gap 0 rest else lexFrom [] 0 .gap 0 text
  | [] => some []

end TagAudit.Java
