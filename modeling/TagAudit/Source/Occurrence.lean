import TagAudit.Text.Alphanumeric
import TagAudit.Text.Blank

/-!
Occurrences of simple phrases in a text: keywords, blanks and marks in a row. Occurrences are found
from left to right and do not overlap.

The fixed expressions of the block extractor and of the estimates are written as recognizers of this
kind.
-/

namespace TagAudit.Source

/-- A phrase recognizer: given the character before a place and the text from there on, the length
of the phrase that starts there. -/
abbrev Recognizer := Option Char → List Char → Option Nat

def spanLength (p : Char → Bool) (text : List Char) : Nat :=
  (text.takeWhile p).length

/-- Whether a word may start after the given character. -/
def atWordStart (before : Option Char) : Bool :=
  match before with
  | none => true
  | some c => !Text.isWordChar c

/-- The length of a word that a text starts with. -/
def literally (word : List Char) (text : List Char) : Option Nat :=
  if word.isPrefixOf text then some word.length else none

/-- One recognizer of a text after another: the length of both together. -/
def followedBy (length : Option Nat) (next : List Char → Option Nat) (text : List Char) :
    Option Nat :=
  match length with
  | none => none
  | some n => (next (text.drop n)).map (n + ·)

/-- Any number of blanks, then a mark. -/
def blanksThen (mark : Char) (text : List Char) : Option Nat :=
  let n := spanLength Text.isBlank text
  if (text.drop n).head? = some mark then some (n + 1) else none

def someBlanks (text : List Char) : Option Nat :=
  match spanLength Text.isBlank text with
  | 0 => none
  | n + 1 => some (n + 1)

def someOf (p : Char → Bool) (text : List Char) : Option Nat :=
  match spanLength p text with
  | 0 => none
  | n + 1 => some (n + 1)

/-- A keyword at the start of a word, any number of blanks, then a mark. -/
def keywordThen (keyword : List Char) (mark : Char) : Recognizer := fun before text =>
  if atWordStart before then followedBy (literally keyword text) (blanksThen mark) text else none

/-- The offsets of the ends of all occurrences. `before` is the character gone by last, `offset` its
distance from the start, and `skip` the number of characters that the last occurrence still takes.
-/
def endsFrom (r : Recognizer) (before : Option Char) (offset skip : Nat) (done : List Nat) :
    List Char → List Nat
  | [] => done.reverse
  | c :: rest =>
    match skip with
    | n + 1 => endsFrom r (some c) (offset + 1) n done rest
    | 0 =>
      match r before (c :: rest) with
      | some length =>
        endsFrom r (some c) (offset + 1) (length - 1) ((offset + length) :: done) rest
      | none => endsFrom r (some c) (offset + 1) 0 done rest

def occurrenceEnds (r : Recognizer) (text : List Char) : List Nat :=
  endsFrom r none 0 0 [] text

def occurrences (r : Recognizer) (text : List Char) : Nat :=
  (occurrenceEnds r text).length

/-- The text from the first place on where a phrase occurs. -/
def firstOccurrence? (r : Recognizer) (before : Option Char) : List Char → Option (List Char)
  | [] => none
  | c :: rest =>
    match r before (c :: rest) with
    | some _ => some (c :: rest)
    | none => firstOccurrence? r (some c) rest

end TagAudit.Source
