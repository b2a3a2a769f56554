import TagAudit.Service.Response

/-!
The pages of the service. A request is refused in this order: an unknown page, a kind of request
that the page does not take, a body that is no document, definitions or rules that are not
available, a body that is not of the expected shape. A few faults are foreseen nowhere: they make
the request break off without an answer.

The routes `analyze_files`, `profile_file`, `validate_expression` and `health`.
-/

namespace TagAudit.Service

open Tag (Registry)

/-- What makes a request break off. -/
inductive Breakdown where
  | unencodable (fault : Text.Unencodable)
  | unusablePattern (fault : Pattern.PatternFault)
  deriving DecidableEq, Repr

def Breakdown.message : Breakdown → String
  | .unencodable fault => fault.message
  | .unusablePattern fault => fault.message

/-- Why a page has no answer of its own. -/
inductive Interruption where
  | unavailable (u : Unavailable)
  | unencodable (fault : Text.Unencodable)
  deriving DecidableEq, Repr

inductive Route where
  | health
  | analyze
  | profile
  | expressions
  deriving DecidableEq, Repr

def Route.ofPath? : String → Option Route
  | "/health" => some .health
  | "/analyze" => some .analyze
  | "/profile" => some .profile
  | "/expressions/validate" => some .expressions
  | _ => none

def Route.method : Route → String
  | .health => "GET"
  | .analyze => "POST"
  | .profile => "POST"
  | .expressions => "POST"

/-- The analyzer that the settings ask for; `summarize` parses source files. -/
def Settings.analyzer (s : Settings) (summarize : List Char → Option Syntax.Summary) :
    Except Unavailable Analyzer := do
  let registry ← s.registry
  let rules ← s.ruleList
  return ⟨registry, rules, if s.parseSyntax then summarize else fun _ => none, s.options⟩

/-- The answer to a request whose body has been read. -/
def respond {α : Type} (body : String) (read : Document → Schema.Checked α)
    (document : Option Document) (answer : α → Except Interruption Response) :
    Except Interruption Response :=
  match requestOf read document with
  | .error faults => .ok (.unprocessable body faults)
  | .ok request => answer request

def answerAnalyze (s : Settings) (analyzer : Analyzer) (request : AnalyzeRequest) :
    Except Interruption Response :=
  if request.files.isEmpty then .ok (.ok (batchDocument "no_files" ⟨[], {}⟩))
  else
    let analyze := fun (file : Batch.File) =>
      .ok (analyzer.analyze file.content.toList file.path request.options)
    ((Batch.run analyze s.maxFileSize request.files).mapError .unencodable).map fun report =>
      .ok (batchDocument "analysis_complete" report)

def answerProfile (s : Settings) (analyzer : Analyzer) (request : ProfileRequest) : Response :=
  if Batch.exceeds s.maxFileSize request.content then .refusal 400 (Batch.sizeMessage s.maxFileSize)
  else
    let p := analyzer.profile request.content.toList
    .ok (profileDocument request.path (analyzer.categoriesOf p.profile.tags) p)

/-- The answer of a page, given the document in the body of the request. -/
def Route.answer (s : Settings) (summarize : List Char → Option Syntax.Summary) (body : String)
    (document : Option Document) : Route → Except Interruption Response
  | .health => do
    let registry ← s.registry.mapError .unavailable
    let rules ← s.ruleList.mapError .unavailable
    return .ok (healthDocument registry rules)
  | .analyze => do
    let analyzer ← (s.analyzer summarize).mapError .unavailable
    respond body AnalyzeRequest.read document (answerAnalyze s analyzer)
  | .profile => do
    let analyzer ← (s.analyzer summarize).mapError .unavailable
    respond body ProfileRequest.read document fun request => .ok (answerProfile s analyzer request)
  | .expressions => do
    let registry ← s.registry.mapError .unavailable
    respond body ExpressionRequest.read document fun request =>
      .ok (.ok (examine registry request).toDocument)

/-- The answer to a request. A page that takes no body does not look at it. -/
def handle (s : Settings) (summarize : List Char → Option Syntax.Summary)
    (method path body : String) : Except Breakdown Response :=
  match Route.ofPath? path with
  | none => .ok .notFound
  | some route =>
    if method ≠ route.method then .ok .methodNotAllowed
    else
      match if route = .health then .ok none else readBody body with
      | .error faults => .ok (.unprocessable body faults)
      | .ok document =>
        match route.answer s summarize body document with
        | .error (.unencodable fault) => .error (.unencodable fault)
        | .error (.unavailable (.definitions (.unusablePattern fault))) =>
          .error (.unusablePattern fault)
        | .error (.unavailable u) => .ok (.unavailable u)
        | .ok response => .ok response

end TagAudit.Service
