import TagAudit.Batch
import TagAudit.Rule.Catalog
import TagAudit.Standard.Rules
import TagAudit.Standard.Tags

/-!
Settings of the service, and the definitions and rules that they ask for.

`Settings`, and the providers `get_tag_registry`, `get_rules`, `get_analyzer` and
`get_batch_worker`.
-/

namespace TagAudit.Service

open Tag (Registry RegistryFault)
open Rule (CatalogFault MatchOptions)

/-- Where definitions or rules come from. -/
inductive Origin where
  /-- Those that are always at hand. -/
  | standard
  /-- A file with the given text; none for a file that does not exist. -/
  | file (text : Option String)
  deriving DecidableEq, Repr

structure Settings where
  definitions : Origin := .standard
  rules : Origin := .standard
  options : MatchOptions := {}
  /-- Source files are parsed, so that measures and features can be detected. -/
  parseSyntax : Bool := true
  maxFileSize : Int := 500000
  deriving DecidableEq, Repr

/-- Why the service cannot answer. -/
inductive Unavailable where
  | definitions (fault : RegistryFault)
  | rules (fault : CatalogFault)
  deriving DecidableEq, Repr

def Unavailable.message : Unavailable → String
  | .definitions fault => fault.message
  | .rules fault => fault.message

def Settings.registry (s : Settings) : Except Unavailable Registry :=
  (match s.definitions with
    | .standard => Standard.registry
    | .file text => Registry.ofText text).mapError .definitions

def Settings.ruleList (s : Settings) : Except Unavailable (List Rule) :=
  match s.rules with
  | .standard => .ok Standard.rules
  | .file text => (Rule.catalogOfText text).mapError .rules

end TagAudit.Service
