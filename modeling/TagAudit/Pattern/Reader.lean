import TagAudit.Document.Reader
import TagAudit.Pattern.Node
import TagAudit.Text.CharacterName
import TagAudit.Text.Identifier
import TagAudit.Text.Number

/-!
Reading patterns from text. The reader goes through the text once, symbol by symbol, and keeps the
groups that it has met. A text that breaks a rule of the notation is refused as a whole.

This is what `compile_patterns` asks of its library. Which texts are malformed, and which break off
in another way, is assumed of the library; what a registry makes of it is proved for every compiler.
-/

namespace TagAudit.Pattern

inductive PatternFault where
  | malformed
  /-- A repetition count beyond the largest one. -/
  | repetitionTooLarge
  /-- A repetition count of more digits than are read. -/
  | countTooLong (digits : Nat)
  /-- Switches that ask for two kinds of character classes in one pattern. -/
  | switchesConflict
  /-- Another reason that a compiler may have, with its report. -/
  | other (report : String)
  deriving DecidableEq, Repr

def PatternFault.message : PatternFault → String
  | .malformed => "malformed pattern"
  | .repetitionTooLarge => "the repetition number is too large"
  | .countTooLong digits =>
    s!"Exceeds the limit (4300 digits) for integer string conversion: value has {digits} digits; "
      ++ "use sys.set_int_max_str_digits() to increase the limit"
  | .switchesConflict => "ASCII and UNICODE flags are incompatible"
  | .other report => report

/-- A character of a pattern: by itself, or with a backslash before it. -/
inductive Mark where
  | plain (c : Char)
  | escaped (c : Char)
  deriving DecidableEq, Repr

/-- The symbols of a text, and whether a backslash is left at the very end that escapes nothing. -/
def marks : List Char → List Mark × Bool
  | [] => ([], false)
  | '\\' :: [] => ([], true)
  | '\\' :: c :: rest => let (ms, dangling) := marks rest; (.escaped c :: ms, dangling)
  | c :: rest => let (ms, dangling) := marks rest; (.plain c :: ms, dangling)

/-- What the reader keeps while it goes through a pattern. -/
structure Progress where
  rest : List Mark
  /-- The widths of the groups opened so far; none for a group that is still open. -/
  groups : List (Option Width)
  names : List (String × Nat)
  /-- Inside a look-behind, the number of groups opened before it. -/
  behindFrom : Option Nat
  /-- The numbers that conditional parts refer to. -/
  asked : List Nat
  /-- The letters of the switches for the whole pattern. -/
  switches : List Char
  /-- A backslash that escapes nothing stands behind the last symbol. -/
  dangling : Bool
  /-- Something was read that rules the pattern out once it has been read to its end. -/
  ruledOut : Bool

abbrev Read := StateT Progress (Except PatternFault)

def refuse {α : Type} : Read α :=
  throw .malformed

def ruleOut : Read Unit :=
  modify fun p => { p with ruledOut := true }

/-- The next symbol, left in place. -/
def peek : Read (Option Mark) :=
  return (← get).rest.head?

/-- The next symbol, taken. -/
def next : Read (Option Mark) := do
  let p ← get
  match p.rest with
  | [] => return none
  | m :: rest => set { p with rest := rest }; return some m

def take (c : Char) : Read Bool := do
  let p ← get
  match p.rest with
  | m :: rest => if m = .plain c then set { p with rest := rest }; return true else return false
  | [] => return false

/-- The leading characters of a class, at most `limit` of them. -/
def plainSpan (p : Char → Bool) : (limit : Nat) → List Mark → List Char × List Mark
  | 0, ms => ([], ms)
  | limit + 1, .plain c :: rest =>
    if p c then let (cs, left) := plainSpan p limit rest; (c :: cs, left)
    else ([], .plain c :: rest)
  | _ + 1, ms => ([], ms)

def takeSpan (p : Char → Bool) (limit : Nat) : Read (List Char) := do
  let progress ← get
  let (cs, left) := plainSpan p limit progress.rest
  set { progress with rest := left }
  return cs

def takeDigits : Read (List Char) := do
  takeSpan Char.isDigit (← get).rest.length

/-- The text before the closing character, and what follows it. An escaped character is written with
its backslash. -/
def untilMark (closing : Char) : List Mark → Option (List Char × List Mark)
  | [] => none
  | .plain c :: rest =>
    if c = closing then some ([], rest)
    else (untilMark closing rest).map fun (cs, left) => (c :: cs, left)
  | .escaped c :: rest => (untilMark closing rest).map fun (cs, left) => ('\\' :: c :: cs, left)

/-- Takes a non-empty text and the character that closes it. -/
def takeUntil (closing : Char) : Read (List Char) := do
  let progress ← get
  match untilMark closing progress.rest with
  | none => refuse
  | some ([], _) => refuse
  | some (cs, left) => set { progress with rest := left }; return cs

def isOctalDigit (c : Char) : Bool :=
  '0' ≤ c && c ≤ '7'

def octalValue (digits : List Char) : Nat :=
  digits.foldl (fun n d => n * 8 + (d.toNat - '0'.toNat)) 0

def hexadecimalValue (digits : List Char) : Nat :=
  digits.foldl (fun n d => n * 16 + (Document.hexValue? d).getD 0) 0

/-- The code point that exactly `count` hexadecimal digits write. -/
def takeHex (count : Nat) : Read Nat := do
  let digits ← takeSpan (fun c => (Document.hexValue? c).isSome) count
  if digits.length = count then
    let n := hexadecimalValue digits
    if n ≤ 0x10FFFF then return n else refuse
  else refuse

/-- The control character that a letter after a backslash stands for. -/
def controlEscape? : Char → Option Nat
  | 'a' => some 0x07
  | 'b' => some 0x08
  | 'f' => some 0x0C
  | 'n' => some 0x0A
  | 'r' => some 0x0D
  | 't' => some 0x09
  | 'v' => some 0x0B
  | '\\' => some 0x5C
  | _ => none

def classEscape? : Char → Option SetItem
  | 'd' => some (.cls .digit false)
  | 'D' => some (.cls .digit true)
  | 's' => some (.cls .blank false)
  | 'S' => some (.cls .blank true)
  | 'w' => some (.cls .word false)
  | 'W' => some (.cls .word true)
  | _ => none

/-- A set of characters under the given switches. -/
def setTest (flags : Flags) (negated : Bool) (items : List SetItem) : CharTest :=
  ⟨items, negated, flags.folding, flags.ascii⟩

/-- The code point of a character's name in braces. -/
def takeNamed : Read Nat := do
  if ← take '\x7b' then
    match Text.codeOfName? (← takeUntil '\x7d') with
    | some n => return n
    | none => refuse
  else refuse

/-- The code point that an escape common to sets and patterns writes. -/
def codeEscape (c : Char) : Read Nat := do
  if c = 'x' then takeHex 2
  else if c = 'u' then takeHex 4
  else if c = 'U' then takeHex 8
  else if c = 'N' then takeNamed
  else if c.isAlphanum then refuse
  else return c.toNat

def setEscape (c : Char) : Read SetItem := do
  match controlEscape? c with
  | some n => return .code n
  | none =>
    match classEscape? c with
    | some item => return item
    | none =>
      if isOctalDigit c then
        let n := octalValue (c :: (← takeSpan isOctalDigit 2))
        if n > 0o377 then refuse else return .code n
      else return .code (← codeEscape c)

/-- A reference to a group that is complete, and inside a look-behind not part of it. -/
def checkGroup (index : Nat) : Read Unit := do
  let p ← get
  match p.groups[index - 1]? with
  | some (some _) =>
    match p.behindFrom with
    | some n => if index > n then refuse else return ()
    | none => return ()
  | _ => refuse

def groupReference (flags : Flags) (index : Nat) : Read Node := do
  checkGroup index
  return .backref index flags.folding

/-- An escape that starts with a digit other than zero: three octal digits write a code point, one
or two digits refer to a group. -/
def numberEscape (flags : Flags) (c : Char) : Read Node := do
  let second ← takeSpan Char.isDigit 1
  match second with
  | [d] =>
    if isOctalDigit c && isOctalDigit d then
      match ← takeSpan isOctalDigit 1 with
      | [e] =>
        let n := octalValue [c, d, e]
        if n > 0o377 then refuse else return .one (setTest flags false [.code n])
      | _ => groupReference flags (Document.digitsValue [c, d])
    else groupReference flags (Document.digitsValue [c, d])
  | _ => groupReference flags (Document.digitsValue [c])

def anchorEscape? (flags : Flags) : Char → Option Anchor
  | 'A' => some .textStart
  | 'Z' => some .textEnd
  | 'b' => some (.wordBoundary flags.ascii)
  | 'B' => some (.noWordBoundary flags.ascii)
  | _ => none

/-- Whether a part may be repeated: not a place, and not another repetition. -/
inductive PartKind where
  | place
  | repetition
  | repeatable
  deriving DecidableEq

/-- A part that was read, and whether it may be repeated. -/
structure Part where
  node : Node
  kind : PartKind := .repeatable

def escape (flags : Flags) (c : Char) : Read Part := do
  match anchorEscape? flags c with
  | some a => return ⟨.anchor a, .place⟩
  | none =>
    match classEscape? c with
    | some item => return { node := .one (setTest flags false [item]) }
    | none =>
      match controlEscape? c with
      | some n => return { node := .one (setTest flags false [.code n]) }
      | none =>
        if c = '0' then
          let n := octalValue (← takeSpan isOctalDigit 2)
          return { node := .one (setTest flags false [.code n]) }
        else if c.isDigit then return { node := ← numberEscape flags c }
        else return { node := .one (setTest flags false [.code (← codeEscape c)]) }

def setMember : Mark → Read SetItem
  | .plain c => return .code c.toNat
  | .escaped c => setEscape c

/-- The members of a set up to its closing bracket, after those in `done`. A bracket that comes
first is a member. -/
def readSet : (fuel : Nat) → (done : List SetItem) → Read (List SetItem)
  | 0, _ => refuse
  | fuel + 1, done => do
    match ← next with
    | none => refuse
    | some m =>
      if m = .plain ']' && !done.isEmpty then return done.reverse
      else
        let first ← setMember m
        if ← take '-' then
          match ← next with
          | none => refuse
          | some m =>
            if m = .plain ']' then return (.code '-'.toNat :: first :: done).reverse
            else
              let last ← setMember m
              match first, last with
              | .code low, .code high =>
                if high < low then refuse else readSet fuel (.range low high :: done)
              | _, _ => refuse
        else readSet fuel (first :: done)

/-- The least number of repetitions that is too large. -/
def repetitionLimit : Nat := 4294967295

def digitLimit : Nat := 4300

def countOf (digits : List Char) : Read Nat := do
  if digits.length > digitLimit then throw (.countTooLong digits.length)
  let n := Document.digitsValue digits
  if n ≥ repetitionLimit then throw .repetitionTooLarge
  return n

/-- The bounds in braces after the opening one. None, with nothing taken, when what follows is not
of that form. -/
def readBounds : Read (Option (Nat × Option Nat)) := do
  let before ← get
  let low ← takeDigits
  let comma ← take ','
  let high ← if comma then takeDigits else pure low
  if ← take '\x7d' then
    -- What stands behind the bounds is looked at before their values are.
    if before.dangling && (← get).rest.isEmpty then refuse
    let least ← countOf low
    if high.isEmpty then return some (least, none)
    let most ← countOf high
    if most < least then refuse
    return some (least, some most)
  else
    set before
    return none

def readGreed : Read Greed := do
  if ← take '?' then return .lazy
  else if ← take '+' then return .possessive
  else return .greedy

def repeatLast (flags : Flags) (least : Nat) (most : Option Nat) : List Part → Read (List Part)
  | [] => refuse
  | part :: done => do
    if part.kind ≠ .repeatable then refuse
    if flags.template then ruleOut
    let greed ← readGreed
    match part.node with
    | .one test => return ⟨.run test least most greed, .repetition⟩ :: done
    | body => return ⟨.loop body least most greed, .repetition⟩ :: done

def isFlagLetter (c : Char) : Bool :=
  c ∈ ['i', 'm', 's', 'x', 'a', 't', 'u', 'L']

/-- Switches with the one of a letter turned on or off. -/
def Flags.put (flags : Flags) (on : Bool) : Char → Flags
  | 'i' => { flags with ignoreCase := on }
  | 'm' => { flags with multiline := on }
  | 's' => { flags with dotAll := on }
  | 'x' => { flags with verbose := on }
  | 'a' => { flags with ascii := on }
  | 'u' => { flags with ascii := !on }
  | 't' => { flags with template := on }
  | _ => flags

def readFlagLetters : (fuel : Nat) → (done : List Char) → Read (List Char × Char)
  | 0, _ => refuse
  | fuel + 1, done => do
    match ← next with
    | some (.plain c) =>
      if isFlagLetter c then readFlagLetters fuel (c :: done) else return (done, c)
    | _ => refuse

/-- What switches in a group say: switches for the rest of the pattern, or for the group only. -/
inductive FlagScope where
  | pattern (flags : Flags)
  | group (flags : Flags)

/-- The switches turned off after a minus sign, up to the colon. -/
def readFlagsOff (flags : Flags) (on : List Char) : Read FlagScope := do
  let (off, stop) ← readFlagLetters (← get).rest.length.succ []
  if stop ≠ ':' || off.isEmpty || off.any (· ∈ ['a', 'u', 'L', 't']) || off.any (· ∈ on) then refuse
  else return .group (off.foldl (·.put false ·) (on.foldl (·.put true ·) flags))

/-- The switches of a group whose first letter or minus sign was taken. -/
def readFlags (flags : Flags) (first : Char) : Read FlagScope := do
  if first = '-' then readFlagsOff flags []
  else
    let (on, stop) ← readFlagLetters (← get).rest.length.succ [first]
    if on.contains 'L' || (on.contains 'a' && on.contains 'u') then refuse
    else if stop = ')' then
      modify fun p => { p with switches := on ++ p.switches }
      return .pattern (on.foldl (·.put true ·) flags)
    else if on.contains 't' then refuse
    else if stop = ':' then return .group (on.foldl (·.put true ·) flags)
    else if stop = '-' then readFlagsOff flags on
    else refuse

def skipComment : Read Unit := do
  let p ← get
  match p.rest.dropWhile (· ≠ .plain ')') with
  | [] => refuse
  | _ :: rest => set { p with rest := rest }

def skipLine : Read Unit :=
  modify fun p => { p with rest := (p.rest.dropWhile (· ≠ .plain '\n')).drop 1 }

def openGroup (name : Option String) : Read Nat := do
  let p ← get
  let index := p.groups.length + 1
  match name with
  | none => set { p with groups := p.groups ++ [none] }
  | some name =>
    if (p.names.lookup name).isSome then refuse
    set { p with groups := p.groups ++ [none], names := (name, index) :: p.names }
  return index

def closeGroup (index : Nat) (body : Node) : Read Unit :=
  modify fun p => { p with groups := p.groups.set (index - 1) (some (body.width p.groups)) }

def readName (closing : Char) : Read String := do
  let name ← takeUntil closing
  if Text.isIdentifier name then return String.ofList name else refuse

/-- The number of a group: digits of any script, perhaps with a plus sign and with spacing around. -/
def groupNumber? (name : List Char) : Option Nat :=
  let unsigned := match Text.withoutSpacing name with
    | '+' :: cs => cs
    | cs => cs
  if unsigned.countP (· ≠ '_') > digitLimit then none
  else Text.digits? Text.decimalDigit? 0 false unsigned

/-- The number of the group that a conditional part asks for. -/
def readCondition : Read Nat := do
  let name ← takeUntil ')'
  if Text.isIdentifier name then
    match (← get).names.lookup (String.ofList name) with
    | some index => return index
    | none => refuse
  else match groupNumber? name with
    | some index =>
      if index = 0 then refuse
      modify fun p => { p with asked := index :: p.asked }
      return index
    | none => refuse

def behindLimit : Nat := 4294967295

/-- The part that takes the closing parenthesis. -/
def closing (part : Part) : Read Part := do
  if ← take ')' then return part else refuse

mutual

/-- Alternatives, up to the end of the pattern or the closing parenthesis. `outermost` tells that
switches for the whole pattern may still come. The switches after reading are given too. -/
def readAlternatives : (fuel : Nat) → (flags : Flags) → (outermost : Bool) → Read (Node × Flags)
  | 0, _, _ => refuse
  | fuel + 1, flags, outermost => do
    let (parts, flags) ← readParts fuel flags outermost []
    let first := Node.ofList (parts.reverse.map Part.node)
    if ← take '|' then
      let (rest, flags) ← readAlternatives fuel flags false
      return (.alt first rest, flags)
    else return (first, flags)

/-- Parts in a row after those in `done`, last one first. -/
def readParts : (fuel : Nat) → (flags : Flags) → (outermost : Bool) → (done : List Part) →
    Read (List Part × Flags)
  | 0, _, _, _ => refuse
  | fuel + 1, flags, outermost, done => do
    match ← peek with
    | none => return (done, flags)
    | some (.escaped c) =>
      let _ ← next
      let part ← escape flags c
      readParts fuel flags outermost (part :: done)
    | some (.plain c) =>
      if c = '|' || c = ')' then return (done, flags)
      let _ ← next
      if flags.verbose && isAsciiBlank c then readParts fuel flags outermost done
      else if flags.verbose && c = '#' then
        skipLine
        readParts fuel flags outermost done
      else match c with
        | '.' =>
          let test := if flags.dotAll then ⟨[], true, .exact, false⟩
            else ⟨[.code 0x0A], true, .exact, false⟩
          readParts fuel flags outermost ({ node := .one test } :: done)
        | '^' =>
          let a := if flags.multiline then Anchor.lineStart else .textStart
          readParts fuel flags outermost (⟨.anchor a, .place⟩ :: done)
        | '$' =>
          let a := if flags.multiline then Anchor.lineEnd else .lastLineEnd
          readParts fuel flags outermost (⟨.anchor a, .place⟩ :: done)
        | '[' =>
          let negated ← take '^'
          let items ← readSet ((← get).rest.length + 1) []
          readParts fuel flags outermost ({ node := .one (setTest flags negated items) } :: done)
        | '?' => readParts fuel flags outermost (← repeatLast flags 0 (some 1) done)
        | '*' => readParts fuel flags outermost (← repeatLast flags 0 none done)
        | '+' => readParts fuel flags outermost (← repeatLast flags 1 none done)
        | '\x7b' =>
          let brace : Part := { node := .one (setTest flags false [.code 0x7B]) }
          if (← peek) = some (.plain '\x7d') then readParts fuel flags outermost (brace :: done)
          else match ← readBounds with
            | none => readParts fuel flags outermost (brace :: done)
            | some (least, most) =>
              readParts fuel flags outermost (← repeatLast flags least most done)
        | '(' =>
          if ← take '?' then
            match ← next with
            | some (.plain '#') =>
              skipComment
              readParts fuel flags outermost done
            | some (.plain k) =>
              if isFlagLetter k || k = '-' then
                match ← readFlags flags k with
                | .pattern flags =>
                  if outermost && done.isEmpty then readParts fuel flags outermost done else refuse
                | .group inner =>
                  let (body, _) ← readAlternatives fuel inner false
                  readParts fuel flags outermost ((← closing { node := body }) :: done)
              else readParts fuel flags outermost ((← readExtension fuel flags k) :: done)
            | _ => refuse
          else
            let index ← openGroup none
            let (body, _) ← readAlternatives fuel flags false
            let part ← closing { node := .group index body }
            closeGroup index body
            readParts fuel flags outermost (part :: done)
        | c =>
          let part : Part := { node := .one (setTest flags false [.code c.toNat]) }
          readParts fuel flags outermost (part :: done)

/-- A group that starts with a question mark and the given character. -/
def readExtension : (fuel : Nat) → (flags : Flags) → Char → Read Part
  | 0, _, _ => refuse
  | fuel + 1, flags, k => do
    match k with
    | ':' =>
      let (body, _) ← readAlternatives fuel flags false
      closing { node := body }
    | '>' =>
      let (body, _) ← readAlternatives fuel flags false
      closing { node := .atomic body }
    | '=' =>
      let (body, _) ← readAlternatives fuel flags false
      closing { node := .ahead false body }
    | '!' =>
      let (body, _) ← readAlternatives fuel flags false
      closing { node := .ahead true body }
    | '<' =>
      let negated ← if ← take '=' then pure false else if ← take '!' then pure true else refuse
      let outside := (← get).behindFrom
      if outside.isNone then modify fun p => { p with behindFrom := some p.groups.length }
      let (body, _) ← readAlternatives fuel flags false
      modify fun p => { p with behindFrom := outside }
      let width := body.width (← get).groups
      if width.most ≠ some width.least || width.least > behindLimit then ruleOut
      closing { node := .behind negated width.least body }
    | 'P' =>
      if ← take '<' then
        let name ← readName '>'
        let index ← openGroup (some name)
        let (body, _) ← readAlternatives fuel flags false
        let part ← closing { node := .group index body }
        closeGroup index body
        return part
      else if ← take '=' then
        let name ← readName ')'
        match (← get).names.lookup name with
        | some index => return { node := ← groupReference flags index }
        | none => refuse
      else refuse
    | '(' =>
      let index ← readCondition
      if (← get).behindFrom.isSome then checkGroup index
      let (yes, _) ← readParts fuel flags false []
      let no ← if ← take '|' then
          let (no, _) ← readParts fuel flags false []
          pure no
        else pure []
      let yes := Node.ofList (yes.reverse.map Part.node)
      let no := Node.ofList (no.reverse.map Part.node)
      closing { node := .ifGroup index yes no }
    | _ => refuse

end

/-- Whether the reader has come to the end of a pattern that keeps all rules. -/
def Progress.isComplete (p : Progress) : Bool :=
  p.rest.isEmpty && p.asked.all (· ≤ p.groups.length) && !p.ruledOut

def compile (caseSensitive : Bool) (text : String) : Except PatternFault Pattern :=
  let (symbols, dangling) := marks text.toList
  let start : Progress := ⟨symbols, [], [], none, [], [], dangling, false⟩
  let fuel := 3 * symbols.length + 3
  match (readAlternatives fuel { ignoreCase := !caseSensitive } true).run start with
  | .error fault => .error fault
  | .ok ((node, _), p) =>
    if dangling && p.rest.isEmpty then .error .malformed
    else if 'a' ∈ p.switches ∧ 'u' ∈ p.switches then .error .switchesConflict
    else if p.isComplete then .ok ⟨text, node⟩
    else .error .malformed

theorem text_of_compile {caseSensitive : Bool} {text : String} {pattern : Pattern}
    (h : compile caseSensitive text = .ok pattern) : pattern.text = text := by
  unfold compile at h
  dsimp only at h
  split at h
  · exact absurd h (by simp)
  · split at h
    · exact absurd h (by simp)
    · split at h
      · exact absurd h (by simp)
      · split at h
        · rw [← Except.ok.inj h]
        · exact absurd h (by simp)

/-- A way to make patterns from texts. What it makes of a text keeps the text. -/
structure Compiler where
  run : (caseSensitive : Bool) → String → Except PatternFault Pattern
  text_run : ∀ {caseSensitive text pattern},
    run caseSensitive text = .ok pattern → pattern.text = text

def compiler : Compiler where
  run := compile
  text_run := text_of_compile

end TagAudit.Pattern
