import TagAudit.Risk
import TagAudit.Rule.Matching
import TagAudit.Source.Metadata
import TagAudit.Syntax.Record
import TagAudit.Tag.Extract

/-!
The analysis of one file: its syntax summary, its tags, its compound tags, the rules that apply and
the risk that follows from both.

The analyzer: `CodeAnalyzer.profile`, `CodeAnalyzer.infer_categories` and `CodeAnalyzer.analyze`.
-/

namespace TagAudit

open Tag (Registry Profile)
open Rule (MatchOptions MatchResult)

/-- What an analysis needs: definitions, rules, a way to summarize the syntax of a source text, and
the options that hold when a call gives none. -/
structure Analyzer where
  registry : Registry
  rules : List Rule
  summarize : List Char → Option Syntax.Summary
  options : MatchOptions := {}

inductive MissingPart where
  | extractorRegistry
  | analyzerRegistry
  | analyzerRules
  | matchRules
  | matchProfile
  deriving DecidableEq, Repr

def MissingPart.message : MissingPart → String
  | .extractorRegistry => "TagExtractor requires a TagRegistry"
  | .analyzerRegistry => "CodeAnalyzer requires a TagRegistry"
  | .analyzerRules => "CodeAnalyzer requires a rule list"
  | .matchRules => "match_rules requires a rule list"
  | .matchProfile => "match_rules requires a tag profile"

def extractWith (registry : Option Registry) (text : List Char) (summary : Option Syntax.Summary) :
    Except MissingPart Profile :=
  match registry with
  | none => .error .extractorRegistry
  | some registry => .ok (registry.extract text summary)

def matchWith (tags : Option (List String)) (rules : Option (List Rule)) (options : MatchOptions) :
    Except MissingPart MatchResult :=
  match rules, tags with
  | none, _ => .error .matchRules
  | some _, none => .error .matchProfile
  | some rules, some tags => .ok (Rule.matchRules tags rules options)

/-- An analyzer from parts that may be missing. -/
def Analyzer.assemble (registry : Option Registry) (rules : Option (List Rule))
    (summarize : List Char → Option Syntax.Summary) (options : MatchOptions) :
    Except MissingPart Analyzer :=
  match registry, rules with
  | none, _ => .error .analyzerRegistry
  | some _, none => .error .analyzerRules
  | some registry, some rules => .ok ⟨registry, rules, summarize, options⟩

/-- The tags of a file, base and compound, with what is behind them. -/
structure FileProfile where
  profile : Profile
  compounds : Table String Compound.Result
  summary : Option Syntax.Summary

def Analyzer.profile (a : Analyzer) (text : List Char) : FileProfile :=
  let summary := a.summarize text
  let base := a.registry.extract text summary
  let results := (Compound.resolve base.tags a.registry.compounds).results
  ⟨Compound.extend base results, results, summary⟩

/-- The categories of the tags present, sorted and without repetition. -/
def Analyzer.categoriesOf (a : Analyzer) (tags : List String) : List String :=
  Tag.sorted (tags.filterMap a.registry.categoryOf?).eraseDups

structure Analysis where
  path : String
  tags : FileProfile
  categories : List String
  matching : MatchResult
  risk : Risk.Assessment
  metadata : Source.Metadata

def Analyzer.analyze (a : Analyzer) (text : List Char) (path : String)
    (options : Option MatchOptions) : Analysis :=
  let tags := a.profile text
  let matching := Rule.matchRules tags.profile.tags a.rules (options.getD a.options)
  { path := path
    tags := tags
    categories := a.categoriesOf tags.profile.tags
    matching := matching
    risk := Risk.assess tags.compounds.entries matching.violations
    metadata := Source.metadata text tags.summary.isSome }

def Source.Metadata.toDocument (m : Source.Metadata) : Document :=
  .object [("class_name", .text m.className), ("package_name", .text m.packageName),
    ("line_count", .ofNat m.lineCount), ("has_main_method", .bool m.hasMain),
    ("syntax_parsed", .bool m.syntaxParsed)]

inductive FileStatus where
  | ok
  | failed
  | rejected
  deriving DecidableEq, Repr

def FileStatus.name : FileStatus → String
  | .ok => "ok"
  | .failed => "failed"
  | .rejected => "rejected"

def FileStatus.choices : List (String × FileStatus) :=
  [("ok", .ok), ("failed", .failed), ("rejected", .rejected)]

/-- The report on a file, whatever came of it. -/
structure FileReport where
  path : String
  status : FileStatus
  error : Option String := none
  tags : List String := []
  details : Table String Tag.Detail := .empty
  compounds : Table String Compound.Result := .empty
  categories : List String := []
  violations : List Violation := []
  filtered : Rule.FilteredCounts := {}
  risk : Option Risk.Assessment := none
  metadata : Source.Metadata := {}
  summary : Option Syntax.Summary := none

def Analysis.report (a : Analysis) : FileReport where
  path := a.path
  status := .ok
  tags := Tag.sorted a.tags.profile.tags
  details := a.tags.profile.details
  compounds := a.tags.compounds
  categories := a.categories
  violations := a.matching.violations
  filtered := a.matching.filtered
  risk := some a.risk
  metadata := a.metadata
  summary := a.tags.summary

def FileReport.toDocument (r : FileReport) : Document :=
  .object [("path", .text r.path), ("status", .text r.status.name), ("error", .ofOption .text r.error),
    ("tags", .ofTexts r.tags), ("tag_details", Tag.detailTable r.details),
    ("compound_tags", Compound.resultTable r.compounds), ("categories", .ofTexts r.categories),
    ("violations", .list (r.violations.map Violation.toDocument)),
    ("filtered", r.filtered.toDocument), ("risk", .ofOption Risk.Assessment.toDocument r.risk),
    ("metadata", r.metadata.toDocument),
    ("syntax_summary", .ofOption Syntax.Summary.toDocument r.summary)]

end TagAudit
