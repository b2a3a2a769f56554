import TagAudit.Tag.Detection

/-!
Why a tag is present: what found it, and what was found.

`TagDetail` and `TagSource`.
-/

namespace TagAudit.Tag

/-- What found a tag. -/
inductive Origin where
  | pattern
  | metric
  | node
  | contextual
  | compound
  deriving DecidableEq, Repr

def Origin.all : List Origin := [.pattern, .metric, .node, .contextual, .compound]

def Origin.name : Origin → String
  | .pattern => "pattern"
  | .metric => "metric"
  | .node => "node"
  | .contextual => "contextual"
  | .compound => "compound"

def Origin.ofName? (s : String) : Option Origin :=
  Origin.all.find? (·.name = s)

/-- How sure a finding is. -/
inductive Confidence where
  | certain
  | likely
  | possible
  deriving DecidableEq, Repr

/-- The text of a confidence, as a proportion. -/
def Confidence.text : Confidence → String
  | .certain => "1.0"
  | .likely => "0.9"
  | .possible => "0.8"

/-- Why a tag is present. -/
inductive Detail where
  /-- Patterns were found: the first matches, and the number of all. -/
  | pattern (samples : List String) (count : Nat)
  /-- A measure passes a threshold. -/
  | metric (value : Nat) (comparison : Comparison) (threshold : Int) (confidence : Confidence)
  /-- A structural feature is there. -/
  | node (feature : Feature)
  /-- A pattern was found inside a block, which is quoted. -/
  | contextual (evidence : String)
  /-- The condition of a compound tag holds. -/
  | compound (expression : String)
  deriving DecidableEq, Repr

namespace Detail

def origin : Detail → Origin
  | .pattern _ _ => .pattern
  | .metric _ _ _ _ => .metric
  | .node _ => .node
  | .contextual _ => .contextual
  | .compound _ => .compound

def confidence : Detail → Confidence
  | .metric _ _ _ confidence => confidence
  | .contextual _ => .likely
  | _ => .certain

/-- The first matches, where patterns were searched for. -/
def samples : Detail → List String
  | .pattern samples _ => samples
  | _ => []

def matchCount : Detail → Nat
  | .pattern _ count => count
  | _ => 0

/-- The words that support the finding. -/
def evidence? : Detail → Option String
  | .node feature => some feature.name
  | .contextual evidence => some evidence
  | _ => none

def metricValue? : Detail → Option Nat
  | .metric value _ _ _ => some value
  | _ => none

def threshold? : Detail → Option Int
  | .metric _ _ threshold _ => some threshold
  | _ => none

def comparison? : Detail → Option Comparison
  | .metric _ comparison _ _ => some comparison
  | _ => none

def expression? : Detail → Option String
  | .compound expression => some expression
  | _ => none

def toDocument (d : Detail) : Document :=
  .object [("source", .text d.origin.name), ("confidence", .text d.confidence.text),
    ("samples", .ofTexts d.samples), ("match_count", .ofNat d.matchCount),
    ("evidence", .ofOption .text d.evidence?), ("metric_value", .ofOption .ofNat d.metricValue?),
    ("threshold", .ofOption .int d.threshold?),
    ("operator", .ofOption (fun c => .text c.sign) d.comparison?),
    ("expression", .ofOption .text d.expression?)]

end Detail

end TagAudit.Tag
