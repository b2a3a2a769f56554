import TagAudit.Document
import TagAudit.Table

/-!
Reading documents from JSON text. Besides the standard values the words `NaN`, `Infinity` and
`-Infinity` are numbers, and an escape may write half of a surrogate pair; in the name of a field,
which is only compared with names of characters, the replacement character stands for it. A text
that is not well-formed is refused with the offset, in characters, of the place where reading
stopped.

The program leaves this to a library. What `loads` of that library does with every text is assumed
to be what is written here.
-/

namespace TagAudit.Document

/-- What a well-formed text would have at the place where reading stopped. -/
inductive Expectation where
  | value
  | name
  | colon
  | comma
  | closingQuote
  | printable
  | escape
  | codeUnit
  | endOfText
  | noByteOrderMark
  deriving DecidableEq, Repr

structure Malformed where
  expected : Expectation
  offset : Nat
  deriving DecidableEq, Repr

/-- A place in a text: how many characters went by, and the rest. -/
structure Place where
  offset : Nat
  rest : List Char

def isLayout (c : Char) : Bool :=
  c == ' ' || c == '\t' || c == '\n' || c == '\r'

def skipLayout (offset : Nat) : List Char → Place
  | [] => ⟨offset, []⟩
  | c :: cs => if isLayout c then skipLayout (offset + 1) cs else ⟨offset, c :: cs⟩

def Place.skip (p : Place) : Place :=
  skipLayout p.offset p.rest

def Place.drop (p : Place) (n : Nat) : Place :=
  ⟨p.offset + n, p.rest.drop n⟩

def hexValue? (c : Char) : Option Nat :=
  if '0' ≤ c ∧ c ≤ '9' then some (c.toNat - '0'.toNat)
  else if 'a' ≤ c ∧ c ≤ 'f' then some (c.toNat - 'a'.toNat + 10)
  else if 'A' ≤ c ∧ c ≤ 'F' then some (c.toNat - 'A'.toNat + 10)
  else none

/-- The number that four hexadecimal digits write. -/
def codeUnit? : List Char → Option Nat
  | a :: b :: c :: d :: _ => do
    let a ← hexValue? a
    let b ← hexValue? b
    let c ← hexValue? c
    let d ← hexValue? d
    return ((a * 16 + b) * 16 + c) * 16 + d
  | _ => none

/-- The character that a backslash and this letter stand for. -/
def simpleEscape? : Char → Option Char
  | '"' => some '"'
  | '\\' => some '\\'
  | '/' => some '/'
  | 'b' => some '\x08'
  | 'f' => some '\x0c'
  | 'n' => some '\n'
  | 'r' => some '\r'
  | 't' => some '\t'
  | _ => none

/-- The second half of a surrogate pair whose first half is `high`, when it follows: the character
and the number of further characters that write it. -/
def lowHalf? (high : Nat) : List Char → Option (Char × Nat)
  | '\\' :: 'u' :: digits => do
    let low ← codeUnit? digits
    if 0xDC00 ≤ low ∧ low ≤ 0xDFFF then
      some (Char.ofNat (0x10000 + (high - 0xD800) * 0x400 + (low - 0xDC00)), 6)
    else none
  | _ => none

/-- The code point that `\u` and the following text write, with the number of characters after the
`u` that it takes. Two halves of a surrogate pair make one character. -/
def unicodeEscape? (after : List Char) : Option (Text.CodePoint × Nat) :=
  match codeUnit? after with
  | none => none
  | some unit =>
    if 0xD800 ≤ unit ∧ unit ≤ 0xDBFF then
      match lowHalf? unit (after.drop 4) with
      | some (c, n) => some (.char c, 4 + n)
      | none => some (.half (Fin.ofNat 2048 (unit - 0xD800)), 4)
    else if 0xDC00 ≤ unit ∧ unit ≤ 0xDFFF then
      some (.half (Fin.ofNat 2048 (unit - 0xD800)), 4)
    else some (.char (Char.ofNat unit), 4)

/-- The code points of a quoted text up to its closing quote. `opening` is the offset of the opening
quote, `done` holds the code points read so far, last one first, and `skip` counts the characters
that an escape still takes. -/
def readQuoted (opening : Nat) (done : Text.Raw) (skip offset : Nat) :
    List Char → Except Malformed (Text.Raw × Place)
  | [] => .error ⟨.closingQuote, opening⟩
  | c :: rest =>
    if skip > 0 then readQuoted opening done (skip - 1) (offset + 1) rest
    else if c = '"' then .ok (done.reverse, ⟨offset + 1, rest⟩)
    else if c.toNat < 0x20 then .error ⟨.printable, offset⟩
    else if c = '\\' then
      match rest with
      | [] => .error ⟨.closingQuote, opening⟩
      | 'u' :: after =>
        if (after.drop 4).isEmpty then .error ⟨.codeUnit, offset + 1⟩
        else match unicodeEscape? after with
          | some (d, n) => readQuoted opening (d :: done) (n + 1) (offset + 1) rest
          | none => .error ⟨.codeUnit, offset + 1⟩
      | e :: _ =>
        match simpleEscape? e with
        | some d => readQuoted opening (.char d :: done) 1 (offset + 1) rest
        | none => .error ⟨.escape, offset⟩
    else readQuoted opening (.char c :: done) 0 (offset + 1) rest

def digitsValue (digits : List Char) : Nat :=
  digits.foldl (fun n d => n * 10 + (d.toNat - '0'.toNat)) 0

/-- The fractional number `mantissa * 10 ^ exponent`. Far beyond the range of such numbers it is
infinite, far below it is zero. -/
def scaled (mantissa : Nat) (exponent : Int) : Float :=
  let size : Int := (Nat.toDigits 10 mantissa).length
  if mantissa = 0 then 0
  else if exponent + size > 400 then 1.0 / 0.0
  else if exponent + size < -400 then 0
  else if exponent ≥ 0 then Float.ofScientific mantissa false exponent.toNat
  else Float.ofScientific mantissa true (-exponent).toNat

/-- The whole part of a number: a single zero, or digits that do not start with zero. -/
def wholePart (cs : List Char) : List Char :=
  match cs with
  | '0' :: _ => ['0']
  | _ => cs.takeWhile Char.isDigit

def fractionPart : List Char → List Char
  | '.' :: cs => cs.takeWhile Char.isDigit
  | _ => []

/-- The exponent and the number of characters that write it. -/
def exponentPart? : List Char → Option (Int × Nat)
  | e :: cs =>
    if e = 'e' ∨ e = 'E' then
      let (negative, digits, signs) := match cs with
        | '-' :: r => (true, r.takeWhile Char.isDigit, 1)
        | '+' :: r => (false, r.takeWhile Char.isDigit, 1)
        | r => (false, r.takeWhile Char.isDigit, 0)
      if digits.isEmpty then none
      else
        let n : Int := digitsValue digits
        some (if negative then -n else n, 1 + signs + digits.length)
    else none
  | [] => none

/-- A number. It is whole unless it has a decimal point or an exponent. -/
def readNumber (p : Place) : Except Malformed (Document × Place) :=
  let (negative, unsigned) := match p.rest with
    | '-' :: cs => (true, cs)
    | cs => (false, cs)
  let signs := if negative then 1 else 0
  let whole := wholePart unsigned
  if whole.isEmpty then .error ⟨.value, p.offset⟩
  else
    let afterWhole := unsigned.drop whole.length
    let fraction := fractionPart afterWhole
    let points := if fraction.isEmpty then 0 else 1
    let afterFraction := afterWhole.drop (points + fraction.length)
    match exponentPart? afterFraction with
    | none =>
      let taken := signs + whole.length + points + fraction.length
      if fraction.isEmpty then
        let n : Int := digitsValue whole
        .ok (.int (if negative then -n else n), p.drop taken)
      else
        let x := scaled (digitsValue (whole ++ fraction)) (-(fraction.length : Int))
        .ok (.float (if negative then -x else x), p.drop taken)
    | some (exponent, written) =>
      let x := scaled (digitsValue (whole ++ fraction)) (exponent - fraction.length)
      .ok (.float (if negative then -x else x),
        p.drop (signs + whole.length + points + fraction.length + written))

/-- The values that are written as one word. -/
def words : List (List Char × Document) :=
  [("null".toList, .null), ("true".toList, .bool true), ("false".toList, .bool false),
   ("NaN".toList, .float (0.0 / 0.0)), ("Infinity".toList, .float (1.0 / 0.0)),
   ("-Infinity".toList, .float (-1.0 / 0.0))]

def readScalar (p : Place) : Except Malformed (Document × Place) :=
  match p.rest with
  | [] => .error ⟨.value, p.offset⟩
  | '"' :: rest => do
    let (s, next) ← readQuoted p.offset [] 0 (p.offset + 1) rest
    return (.ofRaw s, next)
  | _ =>
    match words.find? (fun w => w.1.isPrefixOf p.rest) with
    | some (word, value) => .ok (value, p.drop word.length)
    | none => readNumber p

mutual

/-- A value. Each step of the readers uses up one unit of `fuel`. -/
def readValue : (fuel : Nat) → Place → Except Malformed (Document × Place)
  | 0, p => .error ⟨.value, p.offset⟩
  | fuel + 1, p =>
    match p.rest with
    | '{' :: _ =>
      let inside := (p.drop 1).skip
      match inside.rest with
      | '}' :: _ => .ok (.object [], inside.drop 1)
      | _ => readFields fuel [] inside
    | '[' :: _ =>
      let inside := (p.drop 1).skip
      match inside.rest with
      | ']' :: _ => .ok (.list [], inside.drop 1)
      | _ => readItems fuel [] inside
    | _ => readScalar p

/-- The fields of an object after those in `done`, up to the closing brace. -/
def readFields : (fuel : Nat) → (done : Fields) → Place → Except Malformed (Document × Place)
  | 0, _, p => .error ⟨.name, p.offset⟩
  | fuel + 1, done, p =>
    match p.rest with
    | '"' :: rest => do
      let (name, afterName) ← readQuoted p.offset [] 0 (p.offset + 1) rest
      let colon := afterName.skip
      match colon.rest with
      | ':' :: _ =>
        let (value, afterValue) ← readValue fuel (colon.drop 1).skip
        let done := putEntry name.replaced value done
        let next := afterValue.skip
        match next.rest with
        | '}' :: _ => .ok (.object done, next.drop 1)
        | ',' :: _ => readFields fuel done (next.drop 1).skip
        | _ => .error ⟨.comma, next.offset⟩
      | _ => .error ⟨.colon, colon.offset⟩
    | _ => .error ⟨.name, p.offset⟩

/-- The items of a list after those in `done`, last one first, up to the closing bracket. -/
def readItems : (fuel : Nat) → (done : List Document) → Place → Except Malformed (Document × Place)
  | 0, _, p => .error ⟨.value, p.offset⟩
  | fuel + 1, done, p => do
    let (value, afterValue) ← readValue fuel p
    let done := value :: done
    let next := afterValue.skip
    match next.rest with
    | ']' :: _ => .ok (.list done.reverse, next.drop 1)
    | ',' :: _ => readItems fuel done (next.drop 1).skip
    | _ => .error ⟨.comma, next.offset⟩

end

/-- The mark that some programs write at the start of a text. -/
def byteOrderMark : Char := Char.ofNat 0xFEFF

/-- The document that a text writes. Every step of reading moves on by at least one character or
goes one level down, so twice the length of the text is enough fuel. -/
def parse (text : List Char) : Except Malformed Document :=
  if text.head? = some byteOrderMark then .error ⟨.noByteOrderMark, 0⟩
  else do
    let (value, afterValue) ← readValue (2 * text.length + 2) (skipLayout 0 text)
    let last := afterValue.skip
    if last.rest.isEmpty then return value
    else throw ⟨.endOfText, last.offset⟩

end TagAudit.Document
