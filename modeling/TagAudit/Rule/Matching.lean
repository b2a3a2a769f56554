import TagAudit.Expression.Evaluation
import TagAudit.Expression.Inspection
import TagAudit.Rule.Violation

/-!
Matching rules against the tags of a file. Each rule falls into exactly one class; those that apply
with enough priority are reported, in the order of their priority if asked for.

The rule matcher: `RuleMatcher.match_rules`, `prefilter_rules`, `validate_rule_expressions` and
`find_rules_by_tag`.
-/

namespace TagAudit.Rule

structure MatchOptions where
  /-- Rules without a condition are skipped; otherwise they always apply. -/
  skipUntagged : Bool := true
  sortByPriority : Bool := true
  minPriority : Int := 0
  maxResults : Option Nat := none
  deriving DecidableEq, Repr

inductive Verdict where
  /-- It has no condition, and such rules are skipped. -/
  | untagged
  /-- Its condition is not a condition. -/
  | invalid (fault : Expression.SyntaxFault)
  | notMatched
  | lowPriority
  | reported (violation : Violation)
  deriving DecidableEq, Repr

def violation (r : Rule) (expression : String) (matchedTags : List String) : Violation where
  ruleId := r.id
  title := r.title
  category := r.normalizedCategory
  severity := r.severity
  expression := expression
  matchedTags := matchedTags
  priority := r.priority
  suggestion := r.suggestion
  description := r.description

/-- The verdict on a rule that applies: reported, unless its priority is too low. -/
def applies (r : Rule) (options : MatchOptions) (expression : String) (matchedTags : List String) :
    Verdict :=
  if (r.priority : Int) < options.minPriority then .lowPriority
  else .reported (r.violation expression matchedTags)

def verdict (tags : List String) (options : MatchOptions) (r : Rule) : Verdict :=
  if r.isUntagged then
    if options.skipUntagged then .untagged else r.applies options "" []
  else
    match Expression.evaluate r.condition tags with
    | .error fault => .invalid fault
    | .ok outcome =>
      if outcome.result then r.applies options r.condition outcome.matchedTags else .notMatched

/-- Whether the findings of one rule come before or beside those of another one: by severity, then
by category, then by the effort of repair. -/
def comesFirst (a b : Rule) : Bool :=
  if a.severity.weight ≠ b.severity.weight then b.severity.weight < a.severity.weight
  else if a.categoryWeight ≠ b.categoryWeight then b.categoryWeight < a.categoryWeight
  else FixEffort.rank a.fixEffort ≤ FixEffort.rank b.fixEffort

structure FilteredCounts where
  notMatched : Nat := 0
  skipped : Nat := 0
  lowPriority : Nat := 0
  deriving DecidableEq, Repr

structure MatchResult where
  violations : List Violation
  filtered : FilteredCounts
  totalRules : Nat
  deriving DecidableEq, Repr

def Verdict.isSkipped : Verdict → Bool
  | .untagged => true
  | .invalid _ => true
  | _ => false

def Verdict.violation? : Verdict → Option Violation
  | .reported v => some v
  | _ => none

/-- The rules that are reported with their violations, in the order of the rules. -/
def reported (tags : List String) (options : MatchOptions) (rules : List Rule) :
    List (Rule × Violation) :=
  rules.filterMap fun r => ((r.verdict tags options).violation?).map (r, ·)

def filteredCounts (verdicts : List Verdict) : FilteredCounts where
  notMatched := verdicts.countP (· = .notMatched)
  skipped := verdicts.countP Verdict.isSkipped
  lowPriority := verdicts.countP (· = .lowPriority)

def matchRules (tags : List String) (rules : List Rule) (options : MatchOptions) : MatchResult :=
  let found := reported tags options rules
  let ordered :=
    if options.sortByPriority then found.mergeSort fun a b => a.1.comesFirst b.1 else found
  let violations := ordered.map Prod.snd
  { violations := match options.maxResults with
      | none => violations
      | some limit => violations.take limit
    filtered := filteredCounts (rules.map (·.verdict tags options))
    totalRules := rules.length }

/-- The warnings of matching: one for each rule whose condition is not a condition. -/
def matchWarnings (rules : List Rule) : List String :=
  rules.filterMap fun r =>
    if r.isUntagged then none
    else match Expression.parse r.condition with
      | .ok _ => none
      | .error fault =>
        some ("Skipping rule " ++ r.id ++ ": invalid condition (" ++ fault.message ++ ")")

/-- Whether the tags leave a rule a chance: all tags that its condition requires are there. A rule
without a condition, or with one that is not a condition, keeps its chance. -/
def mayMatch (tags : List String) (r : Rule) : Bool :=
  r.isUntagged ||
    match Expression.parse r.condition with
    | .error _ => true
    | .ok e => e.required.all (· ∈ tags)

def prefilter (tags : List String) (rules : List Rule) : List Rule :=
  rules.filter (mayMatch tags)

inductive ConditionStatus where
  | absent
  | valid
  | invalid (fault : Expression.SyntaxFault)
  deriving DecidableEq, Repr

def conditionStatus (r : Rule) : ConditionStatus :=
  if r.isUntagged then .absent
  else match Expression.parse r.condition with
    | .ok _ => .valid
    | .error fault => .invalid fault

def mentions (tag : String) (r : Rule) : Bool :=
  !r.isUntagged &&
    match Expression.parse r.condition with
    | .ok e => e.mentions tag
    | .error _ => false

def mentioning (tag : String) (rules : List Rule) : List Rule :=
  rules.filter (mentions tag)

open Schema

def MatchOptions.readFields (fields : Document.Fields) : Checked MatchOptions :=
  MatchOptions.mk
    <$> optional "skip_untagged" true bool fields
    <*> optional "sort_by_priority" true bool fields
    <*> optional "min_priority" 0 int fields
    <*> optional "max_results" none (orNull nat) fields

def MatchOptions.read : Document → Checked MatchOptions :=
  record MatchOptions.readFields

def FilteredCounts.toDocument (c : FilteredCounts) : Document :=
  .object [("not_matched", .ofNat c.notMatched), ("skipped", .ofNat c.skipped),
    ("low_priority", .ofNat c.lowPriority)]

def MatchResult.toDocument (m : MatchResult) : Document :=
  .object [("violations", .list (m.violations.map Violation.toDocument)),
    ("filtered", m.filtered.toDocument),
    ("stats", .object [("total_rules", .ofNat m.totalRules),
      ("violations", .ofNat m.violations.length)])]

/-- The states of the conditions of rules written as a document: the rules whose conditions are in
order, and those whose conditions are not. -/
def conditionReport (rules : List Rule) : Document :=
  let valid := rules.filterMap fun r =>
    match r.conditionStatus with
    | .absent => some (.object [("rule_id", .text r.id), ("has_condition", .bool false)])
    | .valid => some (.object [("rule_id", .text r.id), ("has_condition", .bool true)])
    | .invalid _ => none
  let invalid := rules.filterMap fun r =>
    match r.conditionStatus with
    | .invalid fault =>
      some (Document.object [("rule_id", .text r.id), ("expression", .text r.condition),
        ("error", .text fault.message)])
    | _ => none
  .object [("valid", .list valid), ("invalid", .list invalid)]

end TagAudit.Rule
