/-!
The division of a source text into code, comments and literals, by one scan from left to right.
Comments are blanked and literals emptied, so that a search through the result meets code only.

A backslash inside a literal takes the next character with it, and nothing else is special there. A
comment or a literal that is never closed is no construct: its first character is code, and the scan
goes on right behind it.

The text normalizer: `strip_comments_and_strings`.
-/

namespace TagAudit.Source

inductive SegmentKind where
  | blockComment
  | lineComment
  | stringLiteral
  | charLiteral
  | code
  deriving DecidableEq, Repr

/-- A piece of a source text. A segment of code is a single character. -/
structure Segment where
  kind : SegmentKind
  text : List Char
  deriving DecidableEq, Repr

/-- What stands for a segment in the normalized text. -/
def Segment.replacement (s : Segment) : List Char :=
  match s.kind with
  | .blockComment => [' ']
  | .lineComment => [' ']
  | .stringLiteral => ['"', '"']
  | .charLiteral => ['\'', '\'']
  | .code => s.text

/-- The number of characters up to and including the first `*/`; `length` went by already. -/
def commentEnd? (length : Nat) : List Char → Option Nat
  | [] => none
  | '*' :: '/' :: _ => some (length + 2)
  | _ :: rest => commentEnd? (length + 1) rest

/-- The number of characters up to and including the first quote that no backslash takes; `length`
went by already, and `escaped` tells whether a backslash takes the next character. -/
def literalEnd? (quote : Char) (escaped : Bool) (length : Nat) : List Char → Option Nat
  | [] => none
  | c :: rest =>
    if escaped then literalEnd? quote false (length + 1) rest
    else if c = quote then some (length + 1)
    else literalEnd? quote (c = '\\') (length + 1) rest

/-- The comment or literal that starts a text, with its length. -/
def construct? : List Char → Option (SegmentKind × Nat)
  | '/' :: '*' :: rest => (commentEnd? 2 rest).map (.blockComment, ·)
  | '/' :: '/' :: rest => some (.lineComment, 2 + (rest.takeWhile (· ≠ '\n')).length)
  | '"' :: rest => (literalEnd? '"' false 1 rest).map (.stringLiteral, ·)
  | '\'' :: rest => (literalEnd? '\'' false 1 rest).map (.charLiteral, ·)
  | _ => none

/-- The segments of a text after those in `done`, last one first. `skip` characters of the text
belong to the segment found last. -/
def segmentsFrom (done : List Segment) (skip : Nat) : List Char → List Segment
  | [] => done.reverse
  | c :: rest =>
    match skip with
    | n + 1 => segmentsFrom done n rest
    | 0 =>
      match construct? (c :: rest) with
      | some (kind, length) =>
        segmentsFrom (⟨kind, (c :: rest).take length⟩ :: done) (length - 1) rest
      | none => segmentsFrom (⟨.code, [c]⟩ :: done) 0 rest

def segments (text : List Char) : List Segment :=
  segmentsFrom [] 0 text

/-- The normalized text: comments blanked and literals emptied. -/
def normalize (text : List Char) : List Char :=
  (segments text).flatMap Segment.replacement

end TagAudit.Source
