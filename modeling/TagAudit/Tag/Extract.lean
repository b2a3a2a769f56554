import TagAudit.Source.Estimate
import TagAudit.Source.Segment
import TagAudit.Tag.Profile
import TagAudit.Tag.Registry

/-!
Finding the tags of a source file. The findings come from five sources, each later one overriding an
earlier one on the same tag: patterns in the text, measures and features of the syntax summary when
there is one, patterns inside blocks, and measures of the bare text.

The tag extractor: `TagExtractor.extract` and `TagExtractor.extract_specific`.
-/

namespace TagAudit.Tag

/-- The number of matches that are quoted. -/
def sampleLimit : Nat := 3

/-- The number of characters of a block that are quoted. -/
def evidenceLength : Nat := 100

/-- A source text in the two forms that are searched: as it is, and with comments blanked and
literals emptied. -/
structure SourceText where
  raw : List Char
  code : List Char

def SourceText.ofChars (text : List Char) : SourceText := ⟨text, Source.normalize text⟩

/-- The form that is searched. -/
def SourceText.searched (text : SourceText) (codeOnly : Bool) : List Char :=
  if codeOnly then text.code else text.raw

/-- The matches that make a tag present: those of the first pattern that is found, or those of all
patterns if each of them is found. -/
def foundBy (quorum : Quorum) (patterns : List Pattern) (text : List Char) : List (List Char) :=
  match quorum with
  | .any =>
    (patterns.findSome? fun p =>
      let found := p.occurrencesIn text
      if found.isEmpty then none else some found).getD []
  | .all =>
    let found := patterns.map (·.occurrencesIn text)
    if found.all (!·.isEmpty) then found.flatten else []

/-- The detail of a tag that patterns find. -/
def patternDetail? (quorum : Quorum) (patterns : List Pattern) (text : List Char) : Option Detail :=
  match foundBy quorum patterns text with
  | [] => none
  | found => some (.pattern ((found.take sampleLimit).map String.ofList) found.length)

/-- The detail of a tag that a pattern finds inside a block. -/
def blockDetail? (patterns : List Pattern) (blocks : List (List Char)) : Option Detail :=
  (blocks.find? fun block => patterns.any (·.isFoundIn block)).map fun block =>
    .contextual (String.ofList (block.take evidenceLength))

/-- Why the tag of a definition is present in a file, if it is. Measures and features need a
summary. -/
def Entry.detect (text : SourceText) (summary : Option Syntax.Summary) (e : Entry) :
    Option Detail :=
  match e.definition.detection with
  | .pattern quorum set => patternDetail? quorum e.patterns (text.searched set.codeOnly)
  | .metric metric comparison threshold =>
    summary.bind fun summary =>
      let value := metric.value summary
      if comparison.holds value threshold then some (.metric value comparison threshold .certain)
      else none
  | .node feature =>
    summary.bind fun summary => if feature.isIn summary then some (.node feature) else none
  | .contextual context set =>
    if e.patterns.isEmpty then none
    else blockDetail? e.patterns (context.blocks (text.searched set.codeOnly))

/-- Blocks that were cut from a text before, by their context and by the form of the text. -/
abbrev BlockMemory := Table (Context × Bool) (List (List Char))

/-- The blocks of a text, cut only if the memory does not hold them, and the memory after it. -/
def BlockMemory.recall (memory : BlockMemory) (text : SourceText) (context : Context)
    (codeOnly : Bool) : List (List Char) × BlockMemory :=
  match memory.get? (context, codeOnly) with
  | some blocks => (blocks, memory)
  | none =>
    let blocks := context.blocks (text.searched codeOnly)
    (blocks, memory.put (context, codeOnly) blocks)

/-- What `Entry.detect` finds inside blocks, with the blocks taken from a memory, and the memory
after it. -/
def Entry.detectInBlocks (text : SourceText) (memory : BlockMemory) (e : Entry) :
    Option Detail × BlockMemory :=
  match e.definition.detection with
  | .contextual context set =>
    if e.patterns.isEmpty then (none, memory)
    else
      let (blocks, memory) := memory.recall text context set.codeOnly
      (blockDetail? e.patterns blocks, memory)
  | _ => (none, memory)

/-- The findings inside blocks, in the order of the definitions. The blocks of a context are cut from
each form of the text at most once. -/
def blockFindings (text : SourceText) : BlockMemory → List Entry → List (String × Detail)
  | _, [] => []
  | memory, e :: rest =>
    let (detail, memory) := e.detectInBlocks text memory
    (detail.map (e.name, ·)).toList ++ blockFindings text memory rest

/-- A measure of the bare text that is taken for every file. -/
structure TextMeasure where
  tag : String
  threshold : Nat
  confidence : Confidence
  measure : List Char → Nat

def textMeasures : List TextMeasure :=
  [⟨"LINE_COUNT_HIGH", 300, .certain, Source.lineCount⟩,
    ⟨"METHOD_COUNT_HIGH", 10, .likely, Source.methodCount⟩,
    ⟨"COMPLEXITY_HIGH", 10, .possible, Source.complexity⟩,
    ⟨"NESTING_DEEP", 4, .possible, Source.nesting⟩]

/-- The finding of a measure of the bare text, when it reaches its threshold. -/
def TextMeasure.finding? (raw : List Char) (m : TextMeasure) : Option (String × Detail) :=
  let value := m.measure raw
  if value ≥ m.threshold then
    some (m.tag, .metric value .atLeast m.threshold m.confidence)
  else none

namespace Registry

/-- The findings of the definitions of one kind, in the order of the definitions. -/
def findingsOfKind (r : Registry) (text : SourceText) (summary : Option Syntax.Summary)
    (kind : DetectionKind) : List (String × Detail) :=
  (r.ofKind kind).filterMap fun e => (e.detect text summary).map (e.name, ·)

/-- All findings in a file, in the order of the five sources. -/
def findings (r : Registry) (text : List Char) (summary : Option Syntax.Summary) :
    List (String × Detail) :=
  let forms := SourceText.ofChars text
  [DetectionKind.pattern, .metric, .node].flatMap (r.findingsOfKind forms summary)
    ++ blockFindings forms .empty (r.ofKind .contextual)
    ++ textMeasures.filterMap (·.finding? text)

def extract (r : Registry) (text : List Char) (summary : Option Syntax.Summary) : Profile :=
  Profile.ofFindings (r.findings text summary)

/-- The profile of a file with only the wanted tags. -/
def extractOnly (r : Registry) (text : List Char) (wanted : List String)
    (summary : Option Syntax.Summary) : Profile :=
  (r.extract text summary).only wanted

end Registry

end TagAudit.Tag
