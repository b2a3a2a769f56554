import TagAudit.Batch

/-!
Reading what came of files from reports on them. The whole report is checked, and what a summary
looks at is kept.

The reports are those of `FileAnalysis`; `summarize_batch` is all that reads them back.
-/

namespace TagAudit.Batch

open Schema

def checkAll (checks : List (Document.Fields → Checked Unit)) (fields : Document.Fields) :
    Checked Unit :=
  checks.foldl (fun done check => (fun _ _ => ()) <$> done <*> check fields) (.ok ())

def ignoring {α : Type} (check : Document.Fields → Checked α) (fields : Document.Fields) :
    Checked Unit :=
  (fun _ => ()) <$> check fields

def checkDetail : Document → Checked Unit :=
  record (checkAll
    [ignoring (required "source" (member Tag.Origin.ofName?)),
      ignoring (optional "confidence" 1.0 proportion),
      ignoring (optional "samples" [] (tupleOf text)),
      ignoring (optional "match_count" 0 int),
      ignoring (optional "evidence" none textOrNull),
      ignoring (optional "metric_value" none (orNull int)),
      ignoring (optional "threshold" none (orNull int)),
      ignoring (optional "operator" none textOrNull),
      ignoring (optional "expression" none textOrNull)])

def checkFiltered : Document → Checked Unit :=
  record (checkAll
    [ignoring (optional "not_matched" 0 int), ignoring (optional "skipped" 0 int),
      ignoring (optional "low_priority" 0 int)])

def checkContribution : Document → Checked Unit :=
  record (checkAll
    [ignoring (required "kind" (choice [("compound_tag", ()), ("violation", ())])),
      ignoring (required "name" text), ignoring (required "severity" text),
      ignoring (required "points" int)])

def levelChoices : List (String × Risk.Level) :=
  Risk.Level.all.map fun level => (level.name, level)

def checkRisk : Document → Checked Unit :=
  record (checkAll
    [ignoring (optional "score" 0 nat), ignoring (optional "level" .low (choice levelChoices)),
      ignoring (optional "contributions" [] (listOf checkContribution)),
      ignoring (optional "formula" "" text), ignoring (optional "summary" "" text)])

def checkMetadata : Document → Checked Unit :=
  record (checkAll
    [ignoring (optional "class_name" "" text), ignoring (optional "package_name" "" text),
      ignoring (optional "line_count" 0 int), ignoring (optional "has_main_method" false bool),
      ignoring (optional "syntax_parsed" false bool)])

def Outcome.read : Document → Checked Outcome :=
  record fun fields =>
    (fun path status error _ _ _ _ violations _ _ _ _ _ =>
        ⟨path, status, error, violations.map Violation.severity⟩)
      <$> required "path" text fields
      <*> optional "status" .ok (choice FileStatus.choices) fields
      <*> optional "error" none textOrNull fields
      <*> optional "tags" [] (listOf text) fields
      <*> optional "tag_details" [] (tableOf checkDetail) fields
      <*> optional "compound_tags" [] (tableOf Compound.Result.read) fields
      <*> optional "categories" [] (listOf text) fields
      <*> optional "violations" [] (listOf Violation.read) fields
      <*> optional "filtered" () checkFiltered fields
      <*> optional "risk" none (orNull checkRisk) fields
      <*> optional "metadata" () checkMetadata fields
      <*> optional "syntax_summary" none (orNull Syntax.Summary.read) fields
      <*> optional "duration_ms" 0.0 number fields

end TagAudit.Batch
