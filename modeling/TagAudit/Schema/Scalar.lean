import TagAudit.Document.Reader
import TagAudit.Schema.Checked
import TagAudit.Text.Number

/-!
Checks of single values.

What is assumed of the validation package about values: A text is taken from texts only. A whole
number is also taken from a truth value, from a fractional number without a fraction, and from a text
that writes it, with spacing around it, underscores between digits and a decimal point with zeros. A
truth value is also taken from zero and one, whole or fractional, and from the words for yes and no,
in any letter case; a fractional number from any number, from a truth value and from a text that
writes one. The members of
enumerations and the words of choices are taken as they are written, unless an enumeration has a rule
of its own. No other kind is taken for another.

A text with half of a surrogate pair passes as a text, but not where the length of the text has a
bound. Only the contents of files are kept with such halves; in all other texts the replacement
character stands for each.
-/

namespace TagAudit.Schema

open Document

def text (d : Document) : Checked String :=
  match d.text? with
  | some s => .ok s
  | none => .problem .notText

def rawText (d : Document) : Checked Text.Raw :=
  match d.raw? with
  | some r => .ok r
  | none => .problem .notText

/-- A text of at least one character. A text whose length is looked at has to be one of
characters. -/
def nonEmptyText (d : Document) : Checked String :=
  (rawText d).andThen fun r =>
    match r.encodable with
    | .error _ => .problem .notCharacters
    | .ok s => if s.isEmpty then .problem .textTooShort else .ok s

/-- The whole number that a text writes: a sign, digits, and perhaps a decimal point with zeros. -/
def wholeNumber? (s : String) : Option Int :=
  let unspaced := Text.withoutSpacing s.toList
  let (negative, unsigned) := match unspaced with
    | '-' :: cs => (true, cs)
    | '+' :: cs => (false, cs)
    | cs => (false, cs)
  let whole := unsigned.takeWhile (· ≠ '.')
  if ((unsigned.drop whole.length).drop 1).all (· = '0') then
    (Text.digits? Text.asciiDigit? 0 false whole).map fun n => if negative then -(n : Int) else n
  else none

def floatToInt (x : Float) : Checked Int :=
  if x.isNaN || x.isInf then .problem .notFinite
  else if x.floor != x then .problem .fractional
  else if x > -9223372036854775808.0 && x < 9223372036854775808.0 then .ok x.toInt64.toInt
  else .problem .intTooLarge

def int : Document → Checked Int
  | .int n => .ok n
  | .bool b => .ok (if b then 1 else 0)
  | .float x => floatToInt x
  | .text s =>
    match wholeNumber? s with
    | some n => .ok n
    | none => .problem .unreadableInt
  | .rawText _ => .problem .unreadableInt
  | _ => .problem .notInt

def nat (d : Document) : Checked Nat :=
  (int d).andThen fun n => if n < 0 then .problem .belowMinimum else .ok n.toNat

def orNull {α : Type} (check : Document → Checked α) : Document → Checked (Option α)
  | .null => .ok none
  | d => some <$> check d

def textOrNull : Document → Checked (Option String) :=
  orNull text

/-- A truth value given as a word, in any letter case. -/
def wordToBool? (s : String) : Option Bool :=
  let word := s.map Char.toLower
  if word ∈ ["1", "on", "t", "true", "y", "yes"] then some true
  else if word ∈ ["0", "off", "f", "false", "n", "no"] then some false
  else none

def intToBool (n : Int) : Checked Bool :=
  if n = 0 then .ok false
  else if n = 1 then .ok true
  else if -9223372036854775808 ≤ n ∧ n ≤ 9223372036854775807 then .problem .unreadableBool
  else .problem .notBool

def bool : Document → Checked Bool
  | .bool b => .ok b
  | .int n => intToBool n
  | .float x =>
    match floatToInt x with
    | .ok n => intToBool n
    | .faulty _ => .problem .notBool
  | .text s =>
    match wordToBool? s with
    | some b => .ok b
    | none => .problem .unreadableBool
  | .rawText _ => .problem .unreadableBool
  | _ => .problem .notBool

def decimal? (s : String) : Option Float :=
  match Document.parse (Text.withoutSpacing s.toList) with
  | .ok (.int n) => some (Float.ofInt n)
  | .ok (.float x) => some x
  | _ => none

def number : Document → Checked Float
  | .float x => .ok x
  | .int n => .ok (Float.ofInt n)
  | .bool b => .ok (if b then 1 else 0)
  | .text s =>
    match decimal? s with
    | some x => .ok x
    | none => .problem .unreadableNumber
  | .rawText _ => .problem .unreadableNumber
  | _ => .problem .notNumber

def proportion (d : Document) : Checked Float :=
  (number d).andThen fun x =>
    if x < 0.0 then .problem .belowMinimum
    else if x > 1.0 then .problem .aboveMaximum
    else .ok x

/-- One of the given words, with the value that it stands for. -/
def choice {α : Type} (choices : List (String × α)) : Document → Checked α
  | .text s =>
    match choices.lookup s with
    | some a => .ok a
    | none => .problem .notChoice
  | _ => .problem .notChoice

def member {α : Type} (ofName? : String → Option α) : Document → Checked α
  | .text s =>
    match ofName? s with
    | some a => .ok a
    | none => .problem .notMember
  | _ => .problem .notMember

end TagAudit.Schema
