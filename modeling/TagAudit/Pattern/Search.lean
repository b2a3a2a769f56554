import TagAudit.Pattern.Node

/-!
Looking for a pattern in a text.

A part of a pattern is tried at a place with a continuation that tries what follows it; when the
continuation fails, the part offers its next way to match. So the first success is the preferred one
among all ways to match from a place, and a search takes the leftmost place that has one.

Searches of the tag extractor: `search` and `finditer` of a pattern.
-/

namespace TagAudit.Pattern

/-- A place in a text: what stands before it, last character first, and what follows. -/
structure Cursor where
  before : List Char
  after : List Char
  position : Nat
  deriving DecidableEq, Repr

namespace Cursor

def start (text : List Char) : Cursor := ⟨[], text, 0⟩

/-- One character back; the start stays. -/
def back (c : Cursor) : Cursor :=
  match c.before with
  | [] => c
  | d :: before => ⟨before, d :: c.after, c.position - 1⟩

/-- Some characters back, if there are so many. -/
def back? : Nat → Cursor → Option Cursor
  | 0, c => some c
  | n + 1, c => if c.before.isEmpty then none else back? n c.back

/-- Over the leading characters that pass a test, at most `limit` of them, together with their
number. -/
def advanceWhile (p : Char → Bool) :
    (limit : Option Nat) → (before after : List Char) → (position count : Nat) →
    Cursor × Nat
  | _, before, [], position, count => (⟨before, [], position⟩, count)
  | limit, before, d :: after, position, count =>
    if limit ≠ some 0 && p d then
      advanceWhile p (limit.map (· - 1)) (d :: before) after (position + 1) (count + 1)
    else (⟨before, d :: after, position⟩, count)

def textTo (c later : Cursor) : List Char :=
  c.after.take (later.position - c.position)

end Cursor

/-- The text that each group matched last; the latest entry of a group counts. -/
abbrev Captures := List (Nat × List Char)

/-- Where a match ends, and what its groups hold. -/
structure Reached where
  cursor : Cursor
  captures : Captures

abbrev Continuation := Cursor → Captures → Option Reached

def done : Continuation := fun cursor captures => some ⟨cursor, captures⟩

/-- A word character, of ASCII or at all. -/
def isWord (ascii : Bool) (c : Char) : Bool :=
  CharClass.has ascii .word c

/-- Whether exactly one side of a place has a word character. -/
def atWordBoundary (ascii : Bool) (c : Cursor) : Bool :=
  (c.before.head?.any (isWord ascii)) != (c.after.head?.any (isWord ascii))

/-- Whether a place is the asked one. In an empty text no place is next to a word, nor away from
one. -/
def Anchor.holds (c : Cursor) : Anchor → Bool
  | .textStart => c.before.isEmpty
  | .lineStart => c.before.isEmpty || c.before.head? == some '\n'
  | .textEnd => c.after.isEmpty
  | .lastLineEnd => c.after.isEmpty || c.after == ['\n']
  | .lineEnd => c.after.isEmpty || c.after.head? == some '\n'
  | .wordBoundary ascii => !(c.before.isEmpty && c.after.isEmpty) && atWordBoundary ascii c
  | .noWordBoundary ascii => !(c.before.isEmpty && c.after.isEmpty) && !atWordBoundary ascii c

/-- Over a text that equals a given one up to letter case. -/
def overText (folding : Folding) : List Char → Cursor → Option Cursor
  | [], c => some c
  | w :: rest, ⟨before, d :: after, position⟩ =>
    if folding.fold w == folding.fold d then
      overText folding rest ⟨d :: before, after, position + 1⟩
    else none
  | _ :: _, ⟨_, [], _⟩ => none

/-- Tries a place, then the places before it, the given number of steps back at most. -/
def tryBackwards (captures : Captures) (k : Continuation) : (steps : Nat) → Cursor → Option Reached
  | 0, c => k c captures
  | steps + 1, c =>
    match k c captures with
    | some r => some r
    | none => tryBackwards captures k steps c.back

/-- Tries a place, then the places after it, as long as the characters between pass a test. -/
def tryForwards (p : Char → Bool) (captures : Captures) (k : Continuation) :
    (allow : Option Nat) → (before after : List Char) → (position : Nat) → Option Reached
  | allow, before, after, position =>
    match k ⟨before, after, position⟩ captures with
    | some r => some r
    | none =>
      match after with
      | [] => none
      | d :: after =>
        if allow ≠ some 0 && p d then
          tryForwards p captures k (allow.map (· - 1)) (d :: before) after (position + 1)
        else none

/-- Characters in a row that pass a test, between `least` and `most` of them. -/
def runFrom (test : CharTest) (least : Nat) (most : Option Nat) (greed : Greed) (c : Cursor)
    (captures : Captures) (k : Continuation) : Option Reached :=
  match greed with
  | .greedy =>
    let (far, count) := Cursor.advanceWhile test.accepts most c.before c.after c.position 0
    if count < least then none else tryBackwards captures k (count - least) far
  | .possessive =>
    let (far, count) := Cursor.advanceWhile test.accepts most c.before c.after c.position 0
    if count < least then none else k far captures
  | .lazy =>
    let (near, count) := Cursor.advanceWhile test.accepts (some least) c.before c.after c.position 0
    if count < least then none
    else
      tryForwards test.accepts captures k (most.map (· - least)) near.before near.after
        near.position

/-- A part several times in a row. `need` repetitions are still due and `allow` further ones
possible; a further repetition is not tried where the one before it, `last`, started too, so one
that matches nothing is not repeated. -/
def loopFrom (body : Cursor → Captures → Continuation → Option Reached) (greedy : Bool)
    (k : Continuation) :
    (fuel need : Nat) → (allow last : Option Nat) → Cursor → Captures → Option Reached
  | 0, _, _, _, _, _ => none
  | fuel + 1, need + 1, allow, last, c, captures =>
    body c captures fun c captures => loopFrom body greedy k fuel need allow last c captures
  | fuel + 1, 0, allow, last, c, captures =>
    let more := fun (_ : Unit) =>
      if allow = some 0 || last = some c.position then none
      else body c captures fun d captures =>
        loopFrom body greedy k fuel 0 (allow.map (· - 1)) (some c.position) d captures
    if greedy then
      match more () with
      | some r => some r
      | none => k c captures
    else
      match k c captures with
      | some r => some r
      | none => more ()

/-- A part several times in a row, each time in the first way that matches. -/
def loopOnce (body : Cursor → Captures → Option Reached) :
    (fuel need : Nat) → (allow last : Option Nat) → Cursor → Captures → Option Reached
  | 0, _, _, _, _, _ => none
  | fuel + 1, need + 1, allow, last, c, captures =>
    match body c captures with
    | none => none
    | some r => loopOnce body fuel need allow last r.cursor r.captures
  | fuel + 1, 0, allow, last, c, captures =>
    if allow = some 0 || last = some c.position then some ⟨c, captures⟩
    else match body c captures with
      | none => some ⟨c, captures⟩
      | some r => loopOnce body fuel 0 (allow.map (· - 1)) (some c.position) r.cursor r.captures

/-- The first way in which a part matches at a place such that the continuation succeeds. A loop goes
round at most once for each of the `size` characters of the text, once more with nothing matched, and
as often as it has to. -/
def Node.matchAt (size : Nat) : Node → Cursor → Captures → Continuation → Option Reached
  | .empty, c, captures, k => k c captures
  | .one test, ⟨before, after, position⟩, captures, k =>
    match after with
    | [] => none
    | d :: after =>
      if test.accepts d then k ⟨d :: before, after, position + 1⟩ captures else none
  | .seq a b, c, captures, k =>
    a.matchAt size c captures fun c captures => b.matchAt size c captures k
  | .alt a b, c, captures, k =>
    match a.matchAt size c captures k with
    | some r => some r
    | none => b.matchAt size c captures k
  | .group index body, c, captures, k =>
    body.matchAt size c captures fun d captures => k d ((index, c.textTo d) :: captures)
  | .backref index folding, c, captures, k =>
    match captures.lookup index with
    | none => none
    | some text =>
      match overText folding text c with
      | none => none
      | some c => k c captures
  | .anchor a, c, captures, k => if a.holds c then k c captures else none
  | .ahead negated body, c, captures, k =>
    match body.matchAt size c captures done with
    | some r => if negated then none else k c r.captures
    | none => if negated then k c captures else none
  | .behind negated width body, c, captures, k =>
    match (c.back? width).bind fun b => body.matchAt size b captures done with
    | some r => if negated then none else k c r.captures
    | none => if negated then k c captures else none
  | .atomic body, c, captures, k =>
    match body.matchAt size c captures done with
    | some r => k r.cursor r.captures
    | none => none
  | .run test least most greed, c, captures, k => runFrom test least most greed c captures k
  | .loop body least most greed, c, captures, k =>
    let fuel := least + size + 2
    let allow := most.map (· - least)
    match greed with
    | .possessive =>
      let once := fun c captures => body.matchAt size c captures done
      match loopOnce once fuel least allow none c captures with
      | some r => k r.cursor r.captures
      | none => none
    | greed => loopFrom (body.matchAt size) (greed = .greedy) k fuel least allow none c captures
  | .ifGroup index yes no, c, captures, k =>
    if (captures.lookup index).isSome then yes.matchAt size c captures k
    else no.matchAt size c captures k

structure Found where
  start : Cursor
  stop : Cursor

def Found.text (f : Found) : List Char :=
  f.start.textTo f.stop

/-- The leftmost match at or after a place in a text of `size` characters. With `moving`, a match at
that place itself must not be empty. -/
def Node.searchFrom (node : Node) (size : Nat) (moving : Bool) :
    (before after : List Char) → (position : Nat) → Option Found
  | before, after, position =>
    let here : Cursor := ⟨before, after, position⟩
    let accept : Continuation := fun c captures =>
      if moving && c.position = position then none else some ⟨c, captures⟩
    match node.matchAt size here [] accept with
    | some r => some ⟨here, r.cursor⟩
    | none =>
      match after with
      | [] => none
      | d :: after => node.searchFrom size false (d :: before) after (position + 1)

/-- The matches from a place on, each search starting where the match before ended. After an empty
match the next one must move on. At most `fuel` of them. -/
def Node.matchesFrom (node : Node) (size : Nat) :
    (fuel : Nat) → (moving : Bool) → Cursor → (acc : List (List Char)) → List (List Char)
  | 0, _, _, acc => acc.reverse
  | fuel + 1, moving, c, acc =>
    match node.searchFrom size moving c.before c.after c.position with
    | none => acc.reverse
    | some f =>
      let empty := f.start.position == f.stop.position
      node.matchesFrom size fuel empty f.stop (f.text :: acc)

def occurrencesIn (pattern : Pattern) (text : List Char) : List (List Char) :=
  let size := text.length
  pattern.node.matchesFrom size (2 * size + 2) false (Cursor.start text) []

def isFoundIn (pattern : Pattern) (text : List Char) : Bool :=
  (pattern.node.searchFrom text.length false [] text 0).isSome

end TagAudit.Pattern
