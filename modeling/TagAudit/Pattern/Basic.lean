import TagAudit.Text.Alphanumeric
import TagAudit.Text.Blank
import TagAudit.Text.Case

/-!
Search patterns: what a pattern is made of, and which characters its single-character parts accept.

Patterns take the place of the regular expressions that `compile_patterns` prepares. The notation
and its meaning are those of the library that `compile_patterns` calls, and are assumed.
-/

namespace TagAudit.Pattern

structure Flags where
  ignoreCase : Bool := false
  multiline : Bool := false
  dotAll : Bool := false
  verbose : Bool := false
  /-- Character classes hold ASCII characters only. -/
  ascii : Bool := false
  /-- Repetition is not allowed. -/
  template : Bool := false
  deriving DecidableEq, Repr

inductive CharClass where
  | digit
  | blank
  | word
  deriving DecidableEq, Repr

def isAsciiBlank (c : Char) : Bool :=
  c == ' ' || (0x09 ≤ c.toNat && c.toNat ≤ 0x0D)

def CharClass.has (ascii : Bool) : CharClass → Char → Bool
  | .digit, c => if ascii then c.isDigit else Text.isDecimalDigit c
  | .blank, c => if ascii then isAsciiBlank c else Text.isBlank c
  | .word, c => if ascii then c.isAlphanum || c == '_' else Text.isWordChar c

/-- A member of a set of characters. Code points rather than characters are written, since a pattern
may name a code point that is no character. -/
inductive SetItem where
  | code (n : Nat)
  | range (low high : Nat)
  | cls (c : CharClass) (negated : Bool)
  deriving DecidableEq, Repr

inductive Folding where
  /-- Case matters. -/
  | exact
  /-- Case is ignored for ASCII letters. -/
  | ascii
  /-- Case is ignored for all letters. -/
  | full
  deriving DecidableEq, Repr

def Flags.folding (flags : Flags) : Folding :=
  if !flags.ignoreCase then .exact else if flags.ascii then .ascii else .full

/-- The character that stands for all forms of a letter. -/
def Folding.fold : Folding → Char → Char
  | .exact, c => c
  | .ascii, c => c.toLower
  | .full, c => Text.lowerHead c

def Folding.isCased : Folding → Char → Bool
  | .exact, _ => false
  | .ascii, c => c.isAlpha
  | .full, c => Text.lowerHead c != c || Text.upperHead c != c

/-- Lower-case letters that share their upper-case form with other lower-case letters. -/
def siblingTable : List (Nat × List Nat) :=
  [(0x69, [0x131]), (0x73, [0x17F]), (0xB5, [0x3BC]), (0x131, [0x69]), (0x17F, [0x73]),
   (0x345, [0x3B9, 0x1FBE]), (0x390, [0x1FD3]), (0x3B0, [0x1FE3]), (0x3B2, [0x3D0]),
   (0x3B5, [0x3F5]), (0x3B8, [0x3D1]), (0x3B9, [0x345, 0x1FBE]), (0x3BA, [0x3F0]), (0x3BC, [0xB5]),
   (0x3C0, [0x3D6]), (0x3C1, [0x3F1]), (0x3C2, [0x3C3]), (0x3C3, [0x3C2]), (0x3C6, [0x3D5]),
   (0x3D0, [0x3B2]), (0x3D1, [0x3B8]), (0x3D5, [0x3C6]), (0x3D6, [0x3C0]), (0x3F0, [0x3BA]),
   (0x3F1, [0x3C1]), (0x3F5, [0x3B5]), (0x432, [0x1C80]), (0x434, [0x1C81]), (0x43E, [0x1C82]),
   (0x441, [0x1C83]), (0x442, [0x1C84, 0x1C85]), (0x44A, [0x1C86]), (0x463, [0x1C87]),
   (0x1C80, [0x432]), (0x1C81, [0x434]), (0x1C82, [0x43E]), (0x1C83, [0x441]),
   (0x1C84, [0x442, 0x1C85]), (0x1C85, [0x442, 0x1C84]), (0x1C86, [0x44A]), (0x1C87, [0x463]),
   (0x1C88, [0xA64B]), (0x1E61, [0x1E9B]), (0x1E9B, [0x1E61]), (0x1FBE, [0x345, 0x3B9]),
   (0x1FD3, [0x390]), (0x1FE3, [0x3B0]), (0xA64B, [0x1C88]), (0xFB05, [0xFB06]), (0xFB06, [0xFB05])]

/-- A folded character and the folded characters that count as the same letter. -/
def Folding.siblings : Folding → Char → List Char
  | .full, c => c :: ((siblingTable.lookup c.toNat).getD []).map Char.ofNat
  | _, c => [c]

def Folding.same (folding : Folding) (pattern c : Char) : Bool :=
  if folding.isCased pattern then
    (folding.siblings (folding.fold pattern)).contains (folding.fold c)
  else pattern == c

/-- Whether a range holds a form of the letter that a character is a form of. -/
def rangeHas (folding : Folding) (low high : Nat) (c : Char) : Bool :=
  let holds := fun (d : Char) => low ≤ d.toNat && d.toNat ≤ high
  match folding with
  | .exact => holds c
  | .ascii => holds c.toLower || holds c.toUpper
  | .full =>
    (folding.siblings (folding.fold c)).any fun d => holds d || (Text.upperSources d).any holds

/-- A test of a single character: whether it is in a set, or not in it. -/
structure CharTest where
  items : List SetItem
  negated : Bool
  folding : Folding
  ascii : Bool
  deriving DecidableEq, Repr

def SetItem.has (folding : Folding) (ascii : Bool) (c : Char) : SetItem → Bool
  | .code n => if h : n.isValidChar then folding.same (Char.ofNatAux n h) c else false
  | .range low high => rangeHas folding low high c
  | .cls k negated => k.has ascii c != negated

def CharTest.accepts (test : CharTest) (c : Char) : Bool :=
  (test.items.any fun item => item.has test.folding test.ascii c) != test.negated

end TagAudit.Pattern
