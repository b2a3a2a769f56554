import TagAudit.Batch
import TagAudit.Document.Reader
import TagAudit.Schema.Record
import TagAudit.Schema.Scalar

/-!
The bodies of requests, and what can be wrong with them.

`AnalyzeRequest`, `ProfileRequest` and `ExpressionRequest`.
-/

namespace TagAudit.Service

open Schema
open Rule (MatchOptions)

structure AnalyzeRequest where
  files : List Batch.Input
  options : Option MatchOptions
  deriving DecidableEq, Repr

structure ProfileRequest where
  content : String
  path : String
  deriving DecidableEq, Repr

/-- A condition to be examined, and perhaps evaluated on tags. -/
structure ExpressionRequest where
  expression : String
  tags : Option (List String)
  deriving DecidableEq, Repr

def bodyRecord {α : Type} (check : Document.Fields → Checked α) : Document → Checked α :=
  recordOr .notRecordLike check

def fileInput : Document → Checked Batch.Input :=
  bodyRecord fun fields =>
    Batch.Input.mk <$> required "path" text fields <*> required "content" rawText fields

def AnalyzeRequest.read : Document → Checked AnalyzeRequest :=
  bodyRecord fun fields =>
    AnalyzeRequest.mk
      <$> optional "files" [] (listOf fileInput) fields
      <*> optional "options" none (orNull (bodyRecord MatchOptions.readFields)) fields

def ProfileRequest.read : Document → Checked ProfileRequest :=
  bodyRecord fun fields =>
    ProfileRequest.mk
      <$> required "content" nonEmptyText fields
      <*> optional "path" "input.java" text fields

def ExpressionRequest.read : Document → Checked ExpressionRequest :=
  bodyRecord fun fields =>
    ExpressionRequest.mk
      <$> required "expression" text fields
      <*> optional "tags" none (orNull (listOf text)) fields

def withoutMark : List Char → List Char
  | c :: rest => if c = Document.byteOrderMark then rest else c :: rest
  | [] => []

/-- The document in the body of a request; none for an empty body. A body that is not a document is
a fault at the offset where reading stopped. -/
def readBody (body : String) : Except (List Fault) (Option Document) :=
  if body.isEmpty then .ok none
  else match Document.parse (withoutMark body.toList) with
    | .ok d => .ok (some d)
    | .error e => .error [⟨[.field "body", .item e.offset], .malformed⟩]

/-- A request read from the document in a body. No document, or null, is a missing body. -/
def requestOf {α : Type} (read : Document → Checked α) (body : Option Document) :
    Except (List Fault) α :=
  match body with
  | none => .error [⟨[.field "body"], .missing⟩]
  | some .null => .error [⟨[.field "body"], .missing⟩]
  | some d => ((read d).under (.field "body")).toExcept

end TagAudit.Service
