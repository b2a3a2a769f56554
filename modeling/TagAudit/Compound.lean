import TagAudit.Expression.Evaluation
import TagAudit.Tag.Definition
import TagAudit.Tag.Profile

/-!
Compound tags of a file. Every condition is evaluated on the same base tags, so no compound tag sees
another one.

The compound resolver: `resolve_compound_tags`, and what `TagProfile.with_compound_tags` is given.
-/

namespace TagAudit.Compound

open Tag (CompoundDefinition Profile)

structure Result where
  expression : String
  description : String
  severity : Severity
  matched : Bool
  /-- Why the condition could not be evaluated. -/
  error : Option String
  deriving DecidableEq, Repr

/-- Whether the condition of a compound tag holds on base tags, as far as it is a condition. -/
def verdict (base : List String) (d : CompoundDefinition) : Except Expression.SyntaxFault Bool :=
  (Expression.parse d.expression).map (·.holds base)

def Result.ofDefinition (base : List String) (d : CompoundDefinition) : Result :=
  match verdict base d with
  | .ok holds => ⟨d.expression, d.description, d.severity, holds, none⟩
  | .error fault => ⟨d.expression, d.description, d.severity, false, some fault.message⟩

/-- The compound tags of a file: the results under their names, and all tags with the compound tags
that are present. -/
structure Resolution where
  tags : List String
  results : Table String Result

def resolve (base : List String) (definitions : List CompoundDefinition) : Resolution :=
  let results := definitions.map fun d => (d.name, Result.ofDefinition base d)
  let present := (results.filter (·.2.matched)).map Prod.fst
  ⟨(base ++ present).eraseDups, Table.ofList results⟩

def warnings (definitions : List CompoundDefinition) : List String :=
  definitions.filterMap fun d =>
    match Expression.parse d.expression with
    | .ok _ => none
    | .error fault => some ("Compound tag " ++ d.name ++ " not evaluated: " ++ fault.message)

/-- The compound tags that are present, with their conditions. -/
def present (results : Table String Result) : List (String × String) :=
  (results.entries.filter (·.2.matched)).map fun e => (e.1, e.2.expression)

/-- The profile of a file with its compound tags. -/
def extend (profile : Profile) (results : Table String Result) : Profile :=
  profile.withCompounds (present results)

open Schema

def Result.read : Document → Checked Result :=
  record fun fields =>
    Result.mk
      <$> required "expression" text fields
      <*> optional "description" "" text fields
      <*> optional "severity" .medium (member Severity.ofName?) fields
      <*> optional "matched" false bool fields
      <*> optional "error" none textOrNull fields

def Result.toDocument (r : Result) : Document :=
  .object [("expression", .text r.expression), ("description", .text r.description),
    ("severity", .text r.severity.name), ("matched", .bool r.matched),
    ("error", .ofOption .text r.error)]

def resultTable (results : Table String Result) : Document :=
  .object (results.entries.map fun e => (e.1, e.2.toDocument))

end TagAudit.Compound
