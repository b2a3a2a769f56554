import TagAudit.Source.Occurrence

/-!
Measures of a source text that need no parser: the number of lines, of method signatures and of
branching constructs, and the depth of control structures.

The estimates of the tag extractor: `count_lines`, `count_method_signatures`, `estimate_complexity`
and `estimate_nesting`.
-/

namespace TagAudit.Source

/-- The number of lines. A text without a line break is one line. -/
def lineCount (text : List Char) : Nat :=
  text.count '\n' + 1

def isTypeChar (c : Char) : Bool :=
  Text.isWordChar c || c == '<' || c == '>' || c == '[' || c == ']'

def accessModifier (text : List Char) : Option Nat :=
  (literally "public".toList text).or
    ((literally "private".toList text).or (literally "protected".toList text))

/-- A parameter list, up to the first closing parenthesis. -/
def parameterList (text : List Char) : Option Nat :=
  let n := spanLength (· ≠ ')') text
  if (text.drop n).head? = some ')' then some (n + 1) else none

/-- The start of a method's body or of its `throws` clause, after any number of blanks. -/
def bodyOrThrows (text : List Char) : Option Nat :=
  let n := spanLength Text.isBlank text
  ((literally ['\x7b'] (text.drop n)).or (literally "throws".toList (text.drop n))).map (n + ·)

/-- A method signature: an access modifier, a type, a name and a parameter list, followed by a body
or a `throws` clause. -/
def methodSignature : Recognizer := fun before text =>
  if atWordStart before then
    [someBlanks, someOf isTypeChar, someBlanks, someOf Text.isWordChar, blanksThen '(',
      parameterList, bodyOrThrows].foldl (fun length next => followedBy length next text)
      (accessModifier text)
  else none

def methodCount (text : List Char) : Nat :=
  occurrences methodSignature text

def elseIf : Recognizer := fun before text =>
  if atWordStart before then
    followedBy (followedBy (followedBy (literally "else".toList text) someBlanks text)
      (literally "if".toList) text) (blanksThen '(') text
  else none

def caseLabel : Recognizer := fun before text =>
  if atWordStart before then followedBy (literally "case".toList text) someBlanks text else none

/-- A question mark and the first colon after it, with something in between. -/
def ternary : Recognizer := fun _ text =>
  match text with
  | '?' :: rest =>
    let n := spanLength (· ≠ ':') rest
    if n > 0 && (rest.drop n).head? = some ':' then some (n + 2) else none
  | _ => none

def decisionPoints : List Recognizer :=
  [keywordThen "if".toList '(', elseIf, keywordThen "for".toList '(',
    keywordThen "while".toList '(', caseLabel, keywordThen "catch".toList '(', ternary,
    fun _ => literally "&&".toList, fun _ => literally "||".toList]

/-- The estimated complexity: one more than the number of decisions. -/
def complexity (text : List Char) : Nat :=
  decisionPoints.foldl (fun total decision => total + occurrences decision text) 1

def controlWords : List (List Char) :=
  ["if".toList, "for".toList, "while".toList, "do".toList, "switch".toList, "try".toList,
    "catch".toList, "finally".toList]

/-- Whether a control word starts a text and no opening brace follows it. -/
def startsControl (text : List Char) : Bool :=
  controlWords.any fun word => word.isPrefixOf text && !(text.drop word.length).contains '\x7b'

/-- Whether a control word stands in a text with no opening brace after it. -/
def hasControlWord (before : Option Char) : List Char → Bool
  | [] => false
  | c :: rest => (atWordStart before && startsControl (c :: rest)) || hasControlWord (some c) rest

/-- The number of characters before an opening brace that are searched for a control word. -/
def controlReach : Nat := 20

/-- Whether a brace opens a control structure, given the text before it, nearest character first. -/
def isControlBrace (before : List Char) : Bool :=
  hasControlWord none (before.take controlReach).reverse

/-- The deepest nesting reached. `before` is the text gone by, nearest first, `depth` the number of
control structures taken as open and `deepest` the largest such number so far. -/
def nestingFrom (before : List Char) (depth deepest : Nat) : List Char → Nat
  | [] => deepest
  | c :: rest =>
    if c = '\x7b' then
      if isControlBrace before then
        nestingFrom (c :: before) (depth + 1) (max deepest (depth + 1)) rest
      else nestingFrom (c :: before) depth deepest rest
    else if c = '\x7d' then nestingFrom (c :: before) (depth - 1) deepest rest
    else nestingFrom (c :: before) depth deepest rest

/-- The estimated nesting of control structures. Every closing brace ends one of them while any is
open, whatever the brace belongs to. -/
def nesting (text : List Char) : Nat :=
  nestingFrom [] 0 0 text

end TagAudit.Source
