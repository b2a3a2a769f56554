import TagAudit.Category
import TagAudit.Schema.Record
import TagAudit.Schema.Scalar
import TagAudit.Severity

/-!
Rules: what a rule says of the files whose tags satisfy its condition.

`Rule` and `FixEffort`, and `calculate_priority` of the rule matcher.
-/

namespace TagAudit

/-- How much work it takes to repair a finding. -/
inductive FixEffort where
  | low
  | medium
  | high
  deriving DecidableEq, Repr

namespace FixEffort

def all : List FixEffort := [.low, .medium, .high]

def name : FixEffort → String
  | .low => "LOW"
  | .medium => "MEDIUM"
  | .high => "HIGH"

/-- The grade of a name, in any letter case and with blanks around it. -/
def ofName? (s : String) : Option FixEffort :=
  let key := Text.uppercase (Text.trimmed s)
  all.find? fun grade => grade.name = key

/-- The rank among findings of the same priority; unknown effort counts as medium. -/
def rank : Option FixEffort → Nat
  | some .low => 0
  | none => 1
  | some .medium => 1
  | some .high => 2

end FixEffort

/-- A rule. Without a condition it says something of every file, or of none. -/
structure Rule where
  id : String
  title : String
  category : String
  severity : Severity
  tagCondition : Option String
  suggestion : String
  description : String
  fixEffort : Option FixEffort
  deriving DecidableEq, Repr

namespace Rule

/-- The condition without blanks around it; empty when there is none. -/
def condition (r : Rule) : String :=
  Text.trimmed (r.tagCondition.getD "")

def isUntagged (r : Rule) : Bool :=
  r.condition.isEmpty

def normalizedCategory (r : Rule) : String :=
  Category.normalize (some r.category)

def categoryWeight (r : Rule) : Nat :=
  Category.weight r.normalizedCategory

def priority (r : Rule) : Nat :=
  r.severity.weight + r.categoryWeight

open Schema

/-- A condition given as text, as nothing, or in a record of its own. -/
def readCondition : Document → Checked (Option String)
  | .object fields => textOrNull ((fields.lookup "expression").getD .null)
  | d => textOrNull d

def read : Document → Checked Rule :=
  record fun fields =>
    Rule.mk
      <$> requiredAs ["rule_id", "ruleId", "id"] text fields
      <*> optional "title" "" text fields
      <*> optional "category" Category.unknown text fields
      <*> optional "severity" .medium (member Severity.ofName?) fields
      <*> optionalAs ["tag_condition", "tagCondition"] none readCondition fields
      <*> optional "suggestion" "" text fields
      <*> optional "description" "" text fields
      <*> optionalAs ["fix_effort", "fixEffort"] none (orNull (member FixEffort.ofName?)) fields

def toDocument (r : Rule) : Document :=
  .object [("rule_id", .text r.id), ("title", .text r.title), ("category", .text r.category),
    ("severity", .text r.severity.name), ("tag_condition", .ofOption .text r.tagCondition),
    ("suggestion", .text r.suggestion), ("description", .text r.description),
    ("fix_effort", .ofOption (fun e => .text e.name) r.fixEffort),
    ("condition", .text r.condition), ("normalized_category", .text r.normalizedCategory),
    ("priority", .ofNat r.priority)]

end Rule

end TagAudit
