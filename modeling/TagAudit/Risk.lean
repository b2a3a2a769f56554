import TagAudit.Compound
import TagAudit.Rule.Violation

/-!
The risk of a file: the sum of points for each compound tag that is present and for each violation.

The risk scorer: `risk_level` and `compute_risk`.
-/

namespace TagAudit.Risk

inductive Level where
  | low
  | medium
  | high
  | critical
  deriving DecidableEq, Repr

def Level.name : Level → String
  | .low => "low"
  | .medium => "medium"
  | .high => "high"
  | .critical => "critical"

def Level.all : List Level := [.low, .medium, .high, .critical]

def Level.ofScore (score : Int) : Level :=
  if score ≥ 15 then .critical
  else if score ≥ 8 then .high
  else if score ≥ 3 then .medium
  else .low

def compoundPoints : Severity → Nat
  | .critical => 10
  | .high => 5
  | .medium => 2
  | .low => 1

def violationPoints : Severity → Nat
  | .critical => 8
  | .high => 4
  | .medium => 2
  | .low => 1

inductive ContributionKind where
  | compoundTag
  | violation
  deriving DecidableEq, Repr

def ContributionKind.name : ContributionKind → String
  | .compoundTag => "compound_tag"
  | .violation => "violation"

structure Contribution where
  kind : ContributionKind
  name : String
  severity : Severity
  points : Nat
  deriving DecidableEq, Repr

/-- The contribution of a compound tag under its name, if it is present. -/
def ofCompound? (entry : String × Compound.Result) : Option Contribution :=
  if entry.2.matched then
    some ⟨.compoundTag, entry.1, entry.2.severity, compoundPoints entry.2.severity⟩
  else none

def ofViolation (v : Violation) : Contribution :=
  ⟨.violation, v.ruleId, v.severity, violationPoints v.severity⟩

/-- The contributions to a score: compound tags first, then violations. -/
def contributions (results : List (String × Compound.Result)) (violations : List Violation) :
    List Contribution :=
  results.filterMap ofCompound? ++ violations.map ofViolation

structure Assessment where
  score : Nat
  level : Level
  contributions : List Contribution
  summary : String
  deriving DecidableEq, Repr

/-- The number of contributions of each severity that occurs. -/
def severityCounts (contributions : List Contribution) : List (Severity × Nat) :=
  (Severity.all.map fun severity =>
    (severity, contributions.countP (·.severity = severity))).filter (·.2 ≠ 0)

def score (contributions : List Contribution) : Nat :=
  contributions.foldr (fun c total => c.points + total) 0

def summarize (contributions : List Contribution) : String :=
  if contributions.isEmpty then "No compound tags or violations detected. Risk is low."
  else
    let score := score contributions
    let compounds := contributions.countP (·.kind = .compoundTag)
    let violations := contributions.length - compounds
    let parts := (severityCounts contributions).map fun (severity, count) =>
      toString count ++ " " ++ severity.word
    "Risk " ++ (Level.ofScore score).name ++ " (score " ++ toString score ++ ") from "
      ++ toString compounds ++ " compound tags and " ++ toString violations ++ " violations ("
      ++ ", ".intercalate parts ++ ")."

def assess (results : List (String × Compound.Result)) (violations : List Violation) : Assessment :=
  let parts := contributions results violations
  ⟨score parts, Level.ofScore (score parts), parts, summarize parts⟩

/-- How a score comes about, in words. -/
def formula : String := "score = Σ compound severity points + Σ violation severity points"

def Contribution.toDocument (c : Contribution) : Document :=
  .object [("kind", .text c.kind.name), ("name", .text c.name), ("severity", .text c.severity.name),
    ("points", .ofNat c.points)]

def Assessment.toDocument (a : Assessment) : Document :=
  .object [("score", .ofNat a.score), ("level", .text a.level.name),
    ("contributions", .list (a.contributions.map Contribution.toDocument)),
    ("formula", .text formula), ("summary", .text a.summary)]

end TagAudit.Risk
