import TagAudit.Rule.Basic
import TagAudit.Table

/-!
Violations: rules that apply to a file, and their arrangement in groups.

`Violation`, and `group_by_category`, `group_by_severity` and `summarize_violations` of the rule
matcher.
-/

namespace TagAudit

/-- A rule that applies to a file, with the condition that held and the tags that made it true. -/
structure Violation where
  ruleId : String
  title : String
  category : String
  severity : Severity
  expression : String
  matchedTags : List String
  priority : Int
  suggestion : String
  description : String
  deriving DecidableEq, Repr

namespace Violation

/-- The category under which a violation is listed. -/
def group (v : Violation) : String :=
  if v.category.isEmpty then Category.unknown else v.category

/-- The violations of each category, in the order of first occurrences. -/
def byCategory (violations : List Violation) : List (String × List Violation) :=
  (violations.map group).eraseDups.map fun category =>
    (category, violations.filter (·.group = category))

/-- The violations of each grade of severity, most severe first; every grade is listed. -/
def bySeverity (violations : List Violation) : List (Severity × List Violation) :=
  Severity.all.map fun severity => (severity, violations.filter (·.severity = severity))

def topCount : Nat := 5

open Schema

def read : Document → Checked Violation :=
  record fun fields =>
    Violation.mk
      <$> required "rule_id" text fields
      <*> optional "title" "" text fields
      <*> optional "category" Category.unknown text fields
      <*> required "severity" (member Severity.ofName?) fields
      <*> optional "expression" "" text fields
      <*> optional "matched_tags" [] (tupleOf text) fields
      <*> optional "priority" 0 int fields
      <*> optional "suggestion" "" text fields
      <*> optional "description" "" text fields

def toDocument (v : Violation) : Document :=
  .object [("rule_id", .text v.ruleId), ("title", .text v.title), ("category", .text v.category),
    ("severity", .text v.severity.name), ("expression", .text v.expression),
    ("matched_tags", .ofTexts v.matchedTags), ("priority", .int v.priority),
    ("suggestion", .text v.suggestion), ("description", .text v.description)]

/-- The line of a summary about one violation. -/
def brief (v : Violation) : Document :=
  .object [("rule_id", .text v.ruleId), ("title", .text v.title),
    ("severity", .text v.severity.name), ("priority", .int v.priority)]

end Violation

/-- Counts of violations, and the first few of them. -/
structure ViolationSummary where
  total : Nat
  bySeverity : List (Severity × Nat)
  byCategory : List (String × Nat)
  top : List Violation
  deriving DecidableEq, Repr

def ViolationSummary.ofList (violations : List Violation) : ViolationSummary where
  total := violations.length
  bySeverity := (Violation.bySeverity violations).map fun g => (g.1, g.2.length)
  byCategory := (Violation.byCategory violations).map fun g => (g.1, g.2.length)
  top := violations.take Violation.topCount

def ViolationSummary.toDocument (s : ViolationSummary) : Document :=
  .object [("total", .ofNat s.total),
    ("by_severity", .object (s.bySeverity.map fun e => (e.1.word, .ofNat e.2))),
    ("by_category", .object (s.byCategory.map fun e => (e.1, .ofNat e.2))),
    ("top_violations", .list (s.top.map Violation.brief))]

end TagAudit
