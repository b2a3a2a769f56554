import TagAudit.Rule.Basic

/-!
Rule catalogs: lists of rules with distinct identifiers, read as a whole or refused as a whole.

The rule catalog: `parse_rule_catalog` and `load_rule_catalog`.
-/

namespace TagAudit.Rule

inductive CatalogFault where
  | notAList
  | invalidRule (position : Nat) (faults : List Schema.Fault)
  | duplicateId (id : String)
  | malformed
  | unreadable
  deriving DecidableEq, Repr

def CatalogFault.message : CatalogFault → String
  | .notAList => "Rule catalog must be a list of rules or an object with a 'rules' list"
  | .invalidRule position _ => s!"Invalid rule at position {position}"
  | .duplicateId id => "Duplicate rule id: " ++ id
  | .malformed => "Rule catalog is not valid JSON"
  | .unreadable => "Cannot read rule catalog"

/-- The rules of a list of documents, from the given position on, when the identifiers in `seen` are
taken. The first document that is no rule or repeats an identifier decides the fault. -/
def readRules (seen : List String) (position : Nat) :
    List Document → Except CatalogFault (List Rule)
  | [] => .ok []
  | d :: rest =>
    match Rule.read d with
    | .faulty faults => .error (.invalidRule position faults)
    | .ok rule =>
      if rule.id ∈ seen then .error (.duplicateId rule.id)
      else (readRules (rule.id :: seen) (position + 1) rest).map (rule :: ·)

/-- The entries of a catalog: the document itself, or the list under `rules`. -/
def catalogEntries? : Document → Option (List Document)
  | .list entries => some entries
  | .object fields =>
    match fields.lookup "rules" with
    | some (.list entries) => some entries
    | _ => none
  | _ => none

def readCatalog (d : Document) : Except CatalogFault (List Rule) :=
  match catalogEntries? d with
  | none => .error .notAList
  | some entries => readRules [] 0 entries

/-- The rules that the text of a file lists; none for a file that does not exist. -/
def catalogOfText : Option String → Except CatalogFault (List Rule)
  | none => .error .unreadable
  | some text =>
    match Document.parse text.toList with
    | .error _ => .error .malformed
    | .ok d => readCatalog d

end TagAudit.Rule
