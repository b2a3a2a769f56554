import TagAudit.Source.Occurrence

/-!
Blocks in braces: the bodies of `finally` clauses and of loops. Braces are matched by counting, and
a block that the text does not close is no block.

The block extractor: `extract_block`, `finally_blocks` and `loop_blocks`.
-/

namespace TagAudit.Source

/-- The distance to the mark that closes `depth` open ones; `offset` went by already. -/
def closingFrom (opening closing : Char) (depth offset : Nat) : List Char → Option Nat
  | [] => none
  | c :: rest =>
    if c = opening then closingFrom opening closing (depth + 1) (offset + 1) rest
    else if c = closing then
      if depth ≤ 1 then some offset
      else closingFrom opening closing (depth - 1) (offset + 1) rest
    else closingFrom opening closing depth (offset + 1) rest

/-- The distance from the start of a block's body to the brace that closes it. -/
def closingBrace (body : List Char) : Option Nat :=
  closingFrom '\x7b' '\x7d' 1 0 body

def closingParenthesis (text : List Char) : Option Nat :=
  closingFrom '(' ')' 1 0 text

/-- The body of a block, and the offset of the brace that closes it. -/
structure Block where
  body : List Char
  close : Nat
  deriving DecidableEq, Repr

/-- The block of a text whose opening brace stands right before `start`. -/
def blockAt (text : List Char) (start : Nat) : Option Block :=
  let rest := text.drop start
  (closingBrace rest).map fun length => ⟨rest.take length, start + length⟩

def finallyClause : Recognizer := fun _ text =>
  followedBy (followedBy (literally ['\x7d'] text)
    (fun t => let n := spanLength Text.isBlank t
      (literally "finally".toList (t.drop n)).map (n + ·)) text) (blanksThen '\x7b') text

/-- The offsets behind the opening braces of all `finally` clauses. -/
def finallyStarts (text : List Char) : List Nat :=
  occurrenceEnds finallyClause text

/-- The offset behind the brace that opens the body of a loop, when the header's parenthesis opens
right before `header` and a body in braces follows it. -/
def bodyStart (text : List Char) (header : Nat) : Option Nat :=
  let rest := text.drop header
  match closingParenthesis rest with
  | none => none
  | some length => (blanksThen '\x7b' (rest.drop (length + 1))).map (header + length + 1 + ·)

/-- The offsets of the bodies of the loops that a keyword and a header in parentheses start. -/
def headedLoopStarts (keyword : List Char) (text : List Char) : List Nat :=
  (occurrenceEnds (keywordThen keyword '(') text).filterMap (bodyStart text)

/-- The offsets of the bodies of all loops: first those of `for`, then of `while`, then of `do`. -/
def loopStarts (text : List Char) : List Nat :=
  headedLoopStarts "for".toList text ++ headedLoopStarts "while".toList text
    ++ occurrenceEnds (keywordThen "do".toList '\x7b') text

/-- The bodies of the `finally` clauses, in the order of the text. -/
def finallyBlocks (text : List Char) : List (List Char) :=
  (finallyStarts text).filterMap fun start => (blockAt text start).map Block.body

def loopBlocks (text : List Char) : List (List Char) :=
  (loopStarts text).filterMap fun start => (blockAt text start).map Block.body

end TagAudit.Source
