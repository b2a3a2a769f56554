import TagAudit.Analysis
import TagAudit.Text.Raw

/-!
Batches: the analysis of several files, each by itself, and a summary of what came of them. A file
that is too large is rejected and one whose analysis breaks off has failed, and both are results
like any other; but a file whose content cannot be encoded has no size, and the whole batch breaks
off without a report.

The batch worker: `BatchWorker.run_batch` and `summarize_batch`.
-/

namespace TagAudit.Batch

/-- A file as it is handed in. -/
structure Input where
  path : String
  content : Text.Raw
  deriving DecidableEq, Repr

/-- A file whose content is made of characters. -/
structure File where
  path : String
  content : String
  deriving DecidableEq, Repr

/-- The file that is handed in, if its content can be encoded. -/
def Input.file (input : Input) : Except Text.Unencodable File :=
  input.content.encodable.map (⟨input.path, ·⟩)

inductive FileResult where
  | analyzed (analysis : Analysis)
  /-- The file is larger than the limit. -/
  | rejected (path : String) (limit : Int)
  /-- The analysis broke off. -/
  | failed (path : String) (reason : String)

def sizeMessage (limit : Int) : String :=
  s!"File exceeds maximum size of {limit} bytes"

/-- Whether a text has more bytes than allowed. -/
def exceeds (limit : Int) (content : String) : Bool :=
  (Text.byteSize content.toList : Int) > limit

/-- What comes of a file: it is rejected if it is too large, and otherwise analyzed. -/
def runFile (analyze : File → Except String Analysis) (limit : Int) (file : File) : FileResult :=
  if exceeds limit file.content then .rejected file.path limit
  else match analyze file with
    | .ok analysis => .analyzed analysis
    | .error reason => .failed file.path reason

/-- The part of a result that a summary looks at. -/
structure Outcome where
  path : String
  status : FileStatus
  error : Option String
  severities : List Severity
  deriving DecidableEq, Repr

def FileResult.outcome : FileResult → Outcome
  | .analyzed a => ⟨a.path, .ok, none, a.matching.violations.map Violation.severity⟩
  | .rejected path limit => ⟨path, .rejected, some (sizeMessage limit), []⟩
  | .failed path reason => ⟨path, .failed, some reason, []⟩

/-- A file that was not analyzed, with its place in the batch. -/
structure Failure where
  index : Nat
  path : String
  status : FileStatus
  reason : String
  deriving DecidableEq, Repr

structure Summary where
  filesTotal : Nat := 0
  filesAnalyzed : Nat := 0
  filesFailed : Nat := 0
  filesRejected : Nat := 0
  violationsTotal : Nat := 0
  bySeverity : Table Severity Nat := .empty
  failures : List Failure := []

/-- Why a file was not analyzed; the status stands for a reason that is not given. -/
def Outcome.reason (o : Outcome) : String :=
  match o.error with
  | none => o.status.name
  | some "" => o.status.name
  | some reason => reason

/-- The failures among outcomes, numbered from `index` on. -/
def failuresFrom (index : Nat) : List Outcome → List Failure
  | [] => []
  | o :: rest =>
    if o.status = .ok then failuresFrom (index + 1) rest
    else ⟨index, o.path, o.status, o.reason⟩ :: failuresFrom (index + 1) rest

def summarize (outcomes : List Outcome) : Summary where
  filesTotal := outcomes.length
  filesAnalyzed := outcomes.countP (·.status = .ok)
  filesFailed := outcomes.countP (·.status = .failed)
  filesRejected := outcomes.countP (·.status = .rejected)
  violationsTotal := (outcomes.flatMap Outcome.severities).length
  bySeverity := Table.counts (outcomes.flatMap Outcome.severities)
  failures := failuresFrom 0 outcomes

structure Report where
  results : List FileResult
  summary : Summary

def reportOn (analyze : File → Except String Analysis) (limit : Int) (files : List File) :
    Report :=
  let results := files.map (runFile analyze limit)
  ⟨results, summarize (results.map FileResult.outcome)⟩

/-- The analysis of all files of a batch. The first file that cannot be encoded makes it break
off. -/
def run (analyze : File → Except String Analysis) (limit : Int) (inputs : List Input) :
    Except Text.Unencodable Report :=
  (inputs.mapM Input.file).map (reportOn analyze limit)

/-- The number of files that are analyzed at a time. At least one is. -/
def effectiveConcurrency (asked : Int) : Int := max 1 asked

def FileResult.report : FileResult → FileReport
  | .analyzed a => a.report
  | .rejected path limit =>
    { path := path, status := .rejected, error := some (sizeMessage limit) }
  | .failed path reason => { path := path, status := .failed, error := some reason }

def Failure.toDocument (f : Failure) : Document :=
  .object [("index", .ofNat f.index), ("path", .text f.path), ("status", .text f.status.name),
    ("reason", .text f.reason)]

def Summary.toDocument (s : Summary) : Document :=
  .object [("files_total", .ofNat s.filesTotal), ("files_analyzed", .ofNat s.filesAnalyzed),
    ("files_failed", .ofNat s.filesFailed), ("files_rejected", .ofNat s.filesRejected),
    ("violations_total", .ofNat s.violationsTotal),
    ("by_severity", .object (s.bySeverity.entries.map fun e => (e.1.name, .ofNat e.2))),
    ("failures", .list (s.failures.map Failure.toDocument))]

end TagAudit.Batch
