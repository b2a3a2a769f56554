import TagAudit.Text.Alphanumeric

/-!
Whole numbers written in text: digits with single underscores between them, and spacing around the
whole. Options and thresholds of requests are read this way, and so are the numbers of groups in
patterns.
-/

namespace TagAudit.Text

/-- The characters that may stand around a number. -/
def isSpacing (c : Char) : Bool :=
  let n := c.toNat
  (0x09 ≤ n && n ≤ 0x0D) || n == 0x20 || n == 0x85 || n == 0xA0 || n == 0x1680
    || (0x2000 ≤ n && n ≤ 0x200A) || n == 0x2028 || n == 0x2029 || n == 0x202F || n == 0x205F
    || n == 0x3000

def withoutSpacing (cs : List Char) : List Char :=
  ((cs.dropWhile isSpacing).reverse.dropWhile isSpacing).reverse

def asciiDigit? (c : Char) : Option Nat :=
  if c.isDigit then some (c.toNat - '0'.toNat) else none

/-- The value of a decimal digit of any script. -/
def decimalDigit? (c : Char) : Option Nat :=
  if c.toNat < 0x80 then asciiDigit? c
  -- The digits of a script stand together from zero to nine.
  else (decimalRanges.offset? c.toNat).map (· % 10)

/-- The number that digits write, with single underscores allowed between two digits. -/
def digits? (digit? : Char → Option Nat) : (value : Nat) → (afterDigit : Bool) → List Char →
    Option Nat
  | value, afterDigit, [] => if afterDigit then some value else none
  | value, afterDigit, c :: rest =>
    match digit? c with
    | some d => digits? digit? (value * 10 + d) true rest
    | none => if c = '_' && afterDigit then digits? digit? value false rest else none

end TagAudit.Text
