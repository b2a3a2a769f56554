import TagAudit.Text.Blank
import TagAudit.Text.Case

/-!
How serious a finding is.

`Severity`, and the weights of grades in `calculate_priority`.
-/

namespace TagAudit

inductive Severity where
  | critical
  | high
  | medium
  | low
  deriving DecidableEq, Repr, Inhabited

namespace Severity

/-- All grades, most severe first. -/
def all : List Severity := [.critical, .high, .medium, .low]

theorem mem_all (severity : Severity) : severity ∈ all := by
  cases severity <;> decide

def name : Severity → String
  | .critical => "CRITICAL"
  | .high => "HIGH"
  | .medium => "MEDIUM"
  | .low => "LOW"

/-- The name of a grade in running text. -/
def word : Severity → String
  | .critical => "critical"
  | .high => "high"
  | .medium => "medium"
  | .low => "low"

/-- The grade of a name, in any letter case and with blanks around it. -/
def ofName? (s : String) : Option Severity :=
  let key := Text.uppercase (Text.trimmed s)
  all.find? fun grade => grade.name = key

/-- What a grade counts in the priority of a finding. -/
def weight : Severity → Nat
  | .critical => 100
  | .high => 75
  | .medium => 50
  | .low => 25

end Severity

end TagAudit
