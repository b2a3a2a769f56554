import TagAudit.Document.Reader
import TagAudit.Expression.Inspection
import TagAudit.Expression.Parser
import TagAudit.Pattern.Reader
import TagAudit.Pattern.Search
import TagAudit.Table
import TagAudit.Tag.Definition

/-!
Registries: collections of tag definitions with their search patterns ready for use.

A registry is built as a whole or refused as a whole. A malformed pattern is left out with a
warning; a condition of a compound tag that refers to nothing known gives a warning too.

The tag registry: `TagRegistry`, `compile_patterns` and `load_tag_registry`.
-/

namespace TagAudit.Tag

/-- The tags that are measured on every text, whatever is defined. -/
def builtinNames : List String :=
  ["LINE_COUNT_HIGH", "METHOD_COUNT_HIGH", "COMPLEXITY_HIGH", "NESTING_DEEP"]

/-- A definition together with its readable patterns. -/
structure Entry where
  definition : Definition
  patterns : List Pattern
  deriving DecidableEq, Repr

def Entry.name (e : Entry) : String := e.definition.name

/-- Definitions of base tags and compound tags, each kind under distinct names. -/
structure Registry where
  version : String
  entries : List Entry
  compounds : List CompoundDefinition
  deriving DecidableEq, Repr

inductive RegistryFault where
  | duplicateTag (name : String)
  | duplicateCompound (name : String)
  /-- A pattern that can neither be used nor left out. -/
  | unusablePattern (fault : Pattern.PatternFault)
  /-- A definition that is not of the expected shape. -/
  | invalid (faults : List Schema.Fault)
  | malformed
  | unreadable
  deriving DecidableEq, Repr

def RegistryFault.message : RegistryFault → String
  | .duplicateTag name => "Duplicate tag definition: " ++ name
  | .duplicateCompound name => "Duplicate compound tag definition: " ++ name
  | .unusablePattern fault => fault.message
  | .invalid _ => "Invalid tag definitions"
  | .malformed => "Tag definitions are not valid JSON"
  | .unreadable => "Cannot read tag definitions"

/-- The first name that is among `seen` or comes a second time. -/
def firstRepeated? (seen : List String) : List String → Option String
  | [] => none
  | name :: rest => if name ∈ seen then some name else firstRepeated? (name :: seen) rest

/-- No name is repeated exactly when the names are distinct and none of them is among `seen`. -/
theorem firstRepeated?_eq_none_iff (seen names : List String) :
    firstRepeated? seen names = none ↔ names.Nodup ∧ ∀ name ∈ names, name ∉ seen := by
  induction names generalizing seen with
  | nil => simp [firstRepeated?]
  | cons name rest ih =>
    by_cases h : name ∈ seen
    · simp [firstRepeated?, h]
    · simp only [firstRepeated?, h, if_false, ih, List.nodup_cons, List.mem_cons]
      constructor
      · rintro ⟨hd, hs⟩
        refine ⟨⟨fun hm => (hs name hm) (Or.inl rfl), hd⟩, ?_⟩
        rintro n (rfl | hn)
        · exact h
        · exact fun hm => hs n hn (Or.inr hm)
      · rintro ⟨⟨hn, hd⟩, hs⟩
        refine ⟨hd, fun n hm => ?_⟩
        rintro (rfl | hm')
        · exact hn hm
        · exact hs n (Or.inr hm) hm'

/-- The readable ones among patterns, in order. A malformed pattern is left out, any other that
cannot be read is refused. -/
def readPatterns (compiler : Pattern.Compiler) (caseSensitive : Bool) :
    List String → Except RegistryFault (List Pattern)
  | [] => .ok []
  | p :: rest =>
    match compiler.run caseSensitive p with
    | .error .malformed => readPatterns compiler caseSensitive rest
    | .error fault => .error (.unusablePattern fault)
    | .ok pattern => (readPatterns compiler caseSensitive rest).map (pattern :: ·)

/-- A definition with its patterns made ready. -/
def Entry.ofDefinition (compiler : Pattern.Compiler) (d : Definition) :
    Except RegistryFault Entry :=
  match d.detection.patternSet? with
  | none => .ok ⟨d, []⟩
  | some set => (readPatterns compiler set.caseSensitive set.patterns).map (⟨d, ·⟩)

/-- The registry of given definitions. The names of base tags are checked first, then those of
compound tags, which must not be names of base tags either. -/
def Registry.build (version : String) (tags : List Definition)
    (compounds : List CompoundDefinition) (compiler : Pattern.Compiler := Pattern.compiler) :
    Except RegistryFault Registry :=
  let names := tags.map Definition.name
  match firstRepeated? [] names with
  | some name => .error (.duplicateTag name)
  | none =>
    match firstRepeated? names (compounds.map CompoundDefinition.name) with
    | some name => .error (.duplicateCompound name)
    | none => (tags.mapM (Entry.ofDefinition compiler)).map fun entries => ⟨version, entries, compounds⟩

/-- Something odd about a registry that does not prevent its use. -/
inductive Warning where
  | droppedPattern (tag : String)
  | invalidExpression (compound : String) (fault : Expression.SyntaxFault)
  | compoundReference (compound reference : String)
  | unknownReference (compound reference : String)
  deriving DecidableEq, Repr

def Warning.message : Warning → String
  | .droppedPattern tag => "Dropping invalid pattern for " ++ tag
  | .invalidExpression compound fault =>
    "Compound tag " ++ compound ++ " has an invalid expression: " ++ fault.message
  | .compoundReference compound reference =>
    "Compound tag " ++ compound ++ " references compound tag " ++ reference
      ++ "; compound tags resolve against base tags only, so " ++ reference
      ++ " is always absent there"
  | .unknownReference compound reference =>
    "Compound tag " ++ compound ++ " references unknown tag " ++ reference

namespace Registry

def tagNames (r : Registry) : List String := r.entries.map Entry.name

def compoundNames (r : Registry) : List String := r.compounds.map CompoundDefinition.name

def entry? (r : Registry) (name : String) : Option Entry :=
  r.entries.find? (·.name = name)

def definition? (r : Registry) (name : String) : Option Definition :=
  (r.entry? name).map Entry.definition

def compound? (r : Registry) (name : String) : Option CompoundDefinition :=
  r.compounds.find? (·.name = name)

def categoryOf? (r : Registry) (name : String) : Option String :=
  (r.definition? name).map Definition.category

/-- The categories of the base tags, in the order of first occurrences. -/
def categories (r : Registry) : List String :=
  (r.entries.map (·.definition.category)).eraseDups

/-- The base tags of a category, in the order of their definitions. -/
def tagsInCategory (r : Registry) (category : String) : List String :=
  (r.entries.filter (·.definition.category = category)).map Entry.name

/-- The patterns of a base tag that are ready for use. -/
def patternsOf (r : Registry) (name : String) : List Pattern :=
  ((r.entry? name).map Entry.patterns).getD []

/-- The entries whose tags are detected in a given way. -/
def ofKind (r : Registry) (kind : DetectionKind) : List Entry :=
  r.entries.filter (·.definition.detection.kind = kind)

/-- The number of tags by the way in which they are detected, the number of compound tags, and the
categories, written as a document. -/
def stats (r : Registry) : Document :=
  let size := fun kind => Document.ofNat (r.ofKind kind).length
  .object [("version", .text r.version), ("total_tags", .ofNat r.entries.length),
    ("pattern_tags", size .pattern), ("metric_tags", size .metric), ("node_tags", size .node),
    ("contextual_tags", size .contextual), ("compound_tags", .ofNat r.compounds.length),
    ("categories", .ofTexts r.categories)]

/-- Whether a name stands for a base tag or for one that is measured on every text. -/
def knows (r : Registry) (name : String) : Bool :=
  name ∈ r.tagNames || name ∈ builtinNames

/-- The warnings about one definition: one for each pattern that was left out. -/
def patternWarnings (e : Entry) : List Warning :=
  match e.definition.detection.patternSet? with
  | none => []
  | some set => List.replicate (set.patterns.length - e.patterns.length) (.droppedPattern e.name)

/-- The warnings about the condition of one compound tag. -/
def compoundWarnings (r : Registry) (c : CompoundDefinition) : List Warning :=
  match Expression.parse c.expression with
  | .error fault => [.invalidExpression c.name fault]
  | .ok e => e.referencedNames.filterMap fun name =>
    if name ∈ r.compoundNames then some (.compoundReference c.name name)
    else if r.knows name then none
    else some (.unknownReference c.name name)

def warnings (r : Registry) : List Warning :=
  r.entries.flatMap patternWarnings ++ r.compounds.flatMap r.compoundWarnings

end Registry

open Schema

/-- The body of a definition in a table of them, with the key as its name. -/
def namedBody (entry : String × Document.Fields) : Document :=
  .object (putEntry "name" (.text entry.1) entry.2)

/-- A table of definitions, of which only the shape has been looked at. -/
structure DefinitionTable where
  version : String
  tags : List (String × Document.Fields)
  compounds : List (String × Document.Fields)

def DefinitionTable.read : Document → Checked DefinitionTable :=
  record fun fields =>
    DefinitionTable.mk
      <$> optional "version" "unknown" text fields
      <*> optional "tags" [] (tableOf table) fields
      <*> optional "compound_tags" [] (tableOf table) fields

/-- Reads the entries of a table one after the other, up to the first that is not as expected. -/
def readBodies {α : Type} (read : Document → Checked α)
    (entries : List (String × Document.Fields)) : Except RegistryFault (List α) :=
  entries.mapM fun entry => (read (namedBody entry)).toExcept.mapError .invalid

def Registry.ofDocument (d : Document) : Except RegistryFault Registry := do
  let definitions ← (DefinitionTable.read d).toExcept.mapError .invalid
  let tags ← readBodies Definition.read definitions.tags
  let compounds ← readBodies CompoundDefinition.read definitions.compounds
  Registry.build definitions.version tags compounds

/-- The registry that the text of a file defines; none for a file that does not exist. -/
def Registry.ofText : Option String → Except RegistryFault Registry
  | none => .error .unreadable
  | some text =>
    match Document.parse text.toList with
    | .error _ => .error .malformed
    | .ok d => Registry.ofDocument d

end TagAudit.Tag
