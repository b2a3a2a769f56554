import TagAudit.Schema.Record
import TagAudit.Schema.Scalar
import TagAudit.Syntax.Summary

/-!
Syntax summaries as documents.

`SyntaxSummary` as requests and answers write it.
-/

namespace TagAudit.Syntax

open Schema

def Summary.read : Document → Checked Summary :=
  record fun fields =>
    Summary.mk
      <$> optional "method_count" 0 nat fields
      <*> optional "cyclomatic_complexity" 1 nat fields
      <*> optional "max_nesting_depth" 0 nat fields
      <*> optional "line_count" 0 nat fields
      <*> optional "has_loop" false bool fields
      <*> optional "has_nested_loop" false bool fields

def Summary.toDocument (s : Summary) : Document :=
  .object [("method_count", .ofNat s.methodCount),
    ("cyclomatic_complexity", .ofNat s.cyclomaticComplexity),
    ("max_nesting_depth", .ofNat s.maxNestingDepth), ("line_count", .ofNat s.lineCount),
    ("has_loop", .bool s.hasLoop), ("has_nested_loop", .bool s.hasNestedLoop)]

end TagAudit.Syntax
