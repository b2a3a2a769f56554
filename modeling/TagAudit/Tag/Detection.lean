import TagAudit.Schema.Record
import TagAudit.Schema.Scalar
import TagAudit.Source.Block
import TagAudit.Syntax.Summary

/-!
The ways to detect a tag in a source file: by patterns in the text, by a measure that passes a
threshold, by a structural feature, or by patterns inside certain blocks.

`PatternDetection`, `MetricDetection`, `NodeDetection` and `ContextualDetection`.
-/

namespace TagAudit.Tag

inductive Metric where
  | methodCount
  | cyclomaticComplexity
  | maxNestingDepth
  | lineCount
  deriving DecidableEq, Repr

def Metric.choices : List (String × Metric) :=
  [("method_count", .methodCount), ("cyclomatic_complexity", .cyclomaticComplexity),
    ("max_nesting_depth", .maxNestingDepth), ("line_count", .lineCount)]

def Metric.name : Metric → String
  | .methodCount => "method_count"
  | .cyclomaticComplexity => "cyclomatic_complexity"
  | .maxNestingDepth => "max_nesting_depth"
  | .lineCount => "line_count"

def Metric.value (summary : Syntax.Summary) : Metric → Nat
  | .methodCount => summary.methodCount
  | .cyclomaticComplexity => summary.cyclomaticComplexity
  | .maxNestingDepth => summary.maxNestingDepth
  | .lineCount => summary.lineCount

/-- A comparison with a threshold. -/
inductive Comparison where
  | atLeast
  | moreThan
  | atMost
  | lessThan
  | equal
  deriving DecidableEq, Repr

def Comparison.choices : List (String × Comparison) :=
  [(">=", .atLeast), (">", .moreThan), ("<=", .atMost), ("<", .lessThan), ("==", .equal)]

def Comparison.sign : Comparison → String
  | .atLeast => ">="
  | .moreThan => ">"
  | .atMost => "<="
  | .lessThan => "<"
  | .equal => "=="

/-- Whether a value compares to a threshold as asked. -/
def Comparison.holds (value threshold : Int) : Comparison → Bool
  | .atLeast => value ≥ threshold
  | .moreThan => value > threshold
  | .atMost => value ≤ threshold
  | .lessThan => value < threshold
  | .equal => value = threshold

/-- A structural feature of a file. -/
inductive Feature where
  | loop
  | nestedLoop
  deriving DecidableEq, Repr

def Feature.choices : List (String × Feature) :=
  [("loop", .loop), ("nested_loop", .nestedLoop)]

def Feature.name : Feature → String
  | .loop => "loop"
  | .nestedLoop => "nested_loop"

def Feature.isIn (summary : Syntax.Summary) : Feature → Bool
  | .loop => summary.hasLoop
  | .nestedLoop => summary.hasNestedLoop

/-- The kind of blocks that a search is confined to. -/
inductive Context where
  | finallyClause
  | loopBody
  deriving DecidableEq, Repr

def Context.choices : List (String × Context) :=
  [("finally", .finallyClause), ("loop", .loopBody)]

def Context.name : Context → String
  | .finallyClause => "finally"
  | .loopBody => "loop"

/-- The blocks of a text that a context is about. -/
def Context.blocks (text : List Char) : Context → List (List Char)
  | .finallyClause => Source.finallyBlocks text
  | .loopBody => Source.loopBlocks text

/-- How many of several patterns have to be found. -/
inductive Quorum where
  | any
  | all
  deriving DecidableEq, Repr

def Quorum.choices : List (String × Quorum) :=
  [("any", .any), ("all", .all)]

def Quorum.name : Quorum → String
  | .any => "any"
  | .all => "all"

/-- Search patterns, and how they are searched for. With `codeOnly`, comments and literals are left
out of the search. -/
structure PatternSet where
  patterns : List String
  caseSensitive : Bool
  codeOnly : Bool
  deriving DecidableEq, Repr

inductive Detection where
  | pattern (quorum : Quorum) (set : PatternSet)
  | metric (metric : Metric) (comparison : Comparison) (threshold : Int)
  | node (feature : Feature)
  | contextual (context : Context) (set : PatternSet)
  deriving DecidableEq, Repr

/-- The patterns that a detection searches for; none for a detection that searches nothing. -/
def Detection.patternSet? : Detection → Option PatternSet
  | .pattern _ set => some set
  | .contextual _ set => some set
  | .metric _ _ _ => none
  | .node _ => none

inductive DetectionKind where
  | pattern
  | metric
  | node
  | contextual
  deriving DecidableEq, Repr

def DetectionKind.choices : List (String × DetectionKind) :=
  [("pattern", .pattern), ("metric", .metric), ("node", .node), ("contextual", .contextual)]

def Detection.kind : Detection → DetectionKind
  | .pattern _ _ => .pattern
  | .metric _ _ _ => .metric
  | .node _ => .node
  | .contextual _ _ => .contextual

open Schema

/-- A detection of a known kind read from a record. -/
def Detection.ofFields (fields : Document.Fields) : DetectionKind → Checked Detection
  | .pattern =>
    (fun patterns quorum caseSensitive codeOnly =>
        .pattern quorum ⟨patterns, caseSensitive, codeOnly⟩)
      <$> optional "patterns" [] (listOf text) fields
      <*> optional "match" .any (choice Quorum.choices) fields
      <*> optional "case_sensitive" true bool fields
      <*> optional "exclude_in_comments" true bool fields
  | .metric =>
    Detection.metric
      <$> required "metric" (choice Metric.choices) fields
      <*> optional "operator" .atLeast (choice Comparison.choices) fields
      <*> optional "threshold" 0 int fields
  | .node => Detection.node <$> required "feature" (choice Feature.choices) fields
  | .contextual =>
    (fun context patterns caseSensitive codeOnly =>
        .contextual context ⟨patterns, caseSensitive, codeOnly⟩)
      <$> required "context" (choice Context.choices) fields
      <*> optional "patterns" [] (listOf text) fields
      <*> optional "case_sensitive" true bool fields
      <*> optional "exclude_in_comments" false bool fields

/-- A detection read from a document. The field `type` tells its kind. -/
def Detection.read : Document → Checked Detection
  | .object fields =>
    match fields.lookup "type" with
    | none => .problem .variantMissing
    | some (.text name) =>
      match DetectionKind.choices.lookup name with
      | some kind => (Detection.ofFields fields kind).under (.field name)
      | none => .problem .variantUnknown
    | some _ => .problem .variantUnknown
  | _ => .problem .notRecordLike

/-- The record of a set of patterns, without its kind. -/
def PatternSet.fields (set : PatternSet) : Document.Fields :=
  [("patterns", .ofTexts set.patterns), ("case_sensitive", .bool set.caseSensitive),
    ("exclude_in_comments", .bool set.codeOnly)]

def Detection.toDocument : Detection → Document
  | .pattern quorum set =>
    .object ([("type", .text "pattern"), ("match", .text quorum.name)] ++ set.fields)
  | .metric m comparison threshold =>
    .object [("type", .text "metric"), ("metric", .text m.name),
      ("operator", .text comparison.sign), ("threshold", .int threshold)]
  | .node feature => .object [("type", .text "node"), ("feature", .text feature.name)]
  | .contextual context set =>
    .object ([("type", .text "contextual"), ("context", .text context.name)] ++ set.fields)

end TagAudit.Tag
