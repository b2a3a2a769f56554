import TagAudit.Text.Blank
import TagAudit.Text.Lowercase

/-!
Categories of rules. A category is free text; known spellings are folded into one, and the known
categories have a weight.

`normalize_category`, and the weights of categories in `calculate_priority`.
-/

namespace TagAudit.Category

/-- The category of what has none. -/
def unknown : String := "unknown"

def aliases : List (String × String) :=
  [("resource", "resource_management"), ("resources", "resource_management"),
    ("exception", "exception_handling"), ("error_handling", "exception_handling"),
    ("code_style", "style")]

/-- The category that a name in its uniform spelling stands for. -/
def resolve (key : String) : String :=
  (aliases.lookup key).getD key

/-- Hyphens and spaces become underscores. -/
def joined (c : Char) : Char :=
  if c = '-' || c = ' ' then '_' else c

/-- The uniform spelling of a name: lower-case, without blanks around it, words joined by
underscores. -/
def spelling (name : String) : String :=
  (Text.lowercase (Text.trimmed name)).map joined

/-- The category that a name stands for. No name, or an empty one, is the unknown category. -/
def normalize : Option String → String
  | none => unknown
  | some "" => unknown
  | some name => resolve (spelling name)

def weights : List (String × Nat) :=
  [("security", 24), ("resource_management", 21), ("performance", 18), ("exception_handling", 15),
    ("naming", 12), ("architecture", 9), ("style", 6), ("formatting", 3)]

/-- What a category counts in the priority of a finding. -/
def weight (category : String) : Nat :=
  (weights.lookup category).getD 0

end TagAudit.Category
