import TagAudit.Service.Request
import TagAudit.Service.Settings

/-!
The answers of the service.

`AnalyzeResponse`, `ProfileResponse` and `ExpressionResponse`, and the answers of the two exception
handlers.
-/

namespace TagAudit.Service

open Schema

/-- An answer: its status, and what it says. -/
structure Response where
  status : Nat
  body : Document

def stepDocument : Step → Document
  | .field name => .text name
  | .item index => .ofNat index

def faultDocument (fault : Fault) : Document :=
  let place : Document := .list (fault.path.map stepDocument)
  let said := match fault.problem.message? with
    | none => []
    | some message => [("msg", .text message)]
  .object ([("type", .text fault.problem.code), ("loc", place)] ++ said)

namespace Response

/-- An answer that only says why there is no other. -/
def refusal (status : Nat) (detail : String) : Response :=
  ⟨status, .object [("detail", .text detail)]⟩

def notFound : Response := refusal 404 "Not Found"

def methodNotAllowed : Response := refusal 405 "Method Not Allowed"

/-- The number of characters of a body that an answer quotes. -/
def quotedLength : Nat := 100

/-- The body of the request is not as expected; its start is quoted. -/
def unprocessable (body : String) (faults : List Fault) : Response :=
  ⟨422, .object [("detail", .list (faults.map faultDocument)),
    ("body", .text (String.ofList (body.toList.take quotedLength)))]⟩

def unavailable (u : Unavailable) : Response := refusal 500 u.message

def ok (body : Document) : Response := ⟨200, body⟩

end Response

def batchDocument (message : String) (report : Batch.Report) : Document :=
  .object [("message", .text message),
    ("results", .list (report.results.map fun r => r.report.toDocument)),
    ("summary", report.summary.toDocument)]

def profileDocument (path : String) (categories : List String) (p : FileProfile) : Document :=
  .object [("path", .text path), ("tags", .ofTexts (Tag.sorted p.profile.tags)),
    ("tag_details", Tag.detailTable p.profile.details),
    ("compound_tags", Compound.resultTable p.compounds), ("categories", .ofTexts categories),
    ("stats", p.profile.stats), ("syntax_parsed", .bool p.summary.isSome)]

def healthDocument (registry : Tag.Registry) (rules : List Rule) : Document :=
  .object [("status", .text "ok"), ("version", .text "1.0.0"),
    ("definitions_version", .text registry.version), ("tags", .ofNat registry.entries.length),
    ("compound_tags", .ofNat registry.compounds.length), ("rules", .ofNat rules.length)]

/-- What is found out about a condition. -/
structure ExpressionReport where
  expression : String
  error : Option String := none
  dependsOn : List String := []
  required : List String := []
  complexity : Nat := 0
  unknown : List String := []
  outcome : Option Expression.Outcome := none
  deriving DecidableEq, Repr

/-- What is found out about a condition, given the definitions and perhaps tags. -/
def examine (registry : Tag.Registry) (request : ExpressionRequest) : ExpressionReport :=
  match Expression.parse request.expression with
  | .error fault => { expression := request.expression, error := some fault.message }
  | .ok e =>
    { expression := request.expression
      dependsOn := e.references
      required := e.required
      complexity := e.complexity
      unknown := e.referencedNames.eraseDups.filter fun name =>
        !(registry.knows name || name ∈ registry.compoundNames)
      outcome := request.tags.map e.outcome }

def ExpressionReport.toDocument (r : ExpressionReport) : Document :=
  .object [("expression", .text r.expression), ("valid", .bool r.error.isNone),
    ("error", .ofOption .text r.error), ("depends_on", .ofTexts r.dependsOn),
    ("required_tags", .ofTexts r.required), ("complexity", .ofNat r.complexity),
    ("unknown_tags", .ofTexts r.unknown),
    ("result", .ofOption (fun o => .bool o.result) r.outcome),
    ("matched_tags", .ofTexts ((r.outcome.map (·.matchedTags)).getD []))]

end TagAudit.Service
