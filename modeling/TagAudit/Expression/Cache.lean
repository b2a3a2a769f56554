import TagAudit.Expression.Evaluation
import TagAudit.Expression.Inspection

/-!
A memory of parsed conditions. It keeps the conditions used last, up to a fixed number, and counts
the look-ups that found their condition and those that did not. A text that is not a condition is
never kept.

The memory in front of `parse_expression`, with `clear_cache` and `cache_info`, and the calls of
`TagExpressionEvaluator` that go through it. That the library's memory drops the text used longest
ago is assumed.
-/

namespace TagAudit.Expression

def cacheCapacity : Nat := 2048

/-- Parsed conditions, the one used last first, and the counts of look-ups. -/
structure Cache where
  entries : List (String × Expression)
  hits : Nat
  misses : Nat
  deriving Repr

namespace Cache

def empty : Cache := ⟨[], 0, 0⟩

def size (cache : Cache) : Nat := cache.entries.length

/-- The condition that a text writes, and the cache after the look-up. An absent text reads as the
empty one. -/
def lookup (cache : Cache) (text : Option String) : Except SyntaxFault Expression × Cache :=
  let key := text.getD ""
  match cache.entries.lookup key with
  | some e =>
    (.ok e, { cache with
      entries := (key, e) :: cache.entries.filter (·.1 ≠ key), hits := cache.hits + 1 })
  | none =>
    match parse key with
    | .error fault => (.error fault, { cache with misses := cache.misses + 1 })
    | .ok e =>
      (.ok e, { cache with
        entries := ((key, e) :: cache.entries).take cacheCapacity, misses := cache.misses + 1 })

end Cache

inductive Query where
  | evaluate (tags : List String)
  | validate
  | references
  | mentions (tag : String)
  | required
  | complexity
  deriving DecidableEq, Repr

inductive Answer where
  | outcome (outcome : Outcome)
  | validity (fault : Option SyntaxFault)
  | names (names : List String)
  | truth (value : Bool)
  | size (value : Nat)
  deriving DecidableEq, Repr

/-- The answer to a question about a text, given what the text parses to. Only the question of
validity has an answer when the text is no condition. -/
def Query.answer (parsed : Except SyntaxFault Expression) : Query → Except SyntaxFault Answer
  | .evaluate tags => parsed.map fun e => .outcome (e.outcome tags)
  | .validate =>
    match parsed with
    | .ok _ => .ok (.validity none)
    | .error fault => .ok (.validity (some fault))
  | .references => parsed.map fun e => .names e.references
  | .mentions tag => parsed.map fun e => .truth (e.mentions tag)
  | .required => parsed.map fun e => .names e.required
  | .complexity => parsed.map fun e => .size e.complexity

/-- The answer through a cache, and the cache after it. -/
def Cache.ask (cache : Cache) (query : Query) (text : Option String) :
    Except SyntaxFault Answer × Cache :=
  let (parsed, cache) := cache.lookup text
  (query.answer parsed, cache)

end TagAudit.Expression
