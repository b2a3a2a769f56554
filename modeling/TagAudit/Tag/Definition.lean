import TagAudit.Severity
import TagAudit.Tag.Detection

/-!
Definitions of tags. A base tag is detected in a source file; a compound tag is a condition over
base tags.

`TagDefinition` and `CompoundTagDefinition`, with their check of names.
-/

namespace TagAudit.Tag

structure Definition where
  name : String
  category : String
  description : String
  detection : Detection
  deriving DecidableEq, Repr

/-- A tag that is present when a condition over base tags holds. -/
structure CompoundDefinition where
  name : String
  expression : String
  severity : Severity
  description : String
  deriving DecidableEq, Repr

def isCapital (c : Char) : Bool :=
  'A' ≤ c && c ≤ 'Z'

/-- The characters of a name after its first one. -/
def isNameChar (c : Char) : Bool :=
  isCapital c || ('0' ≤ c && c ≤ '9') || c == '_'

/-- Whether characters continue a name up to its end. A single line break may end a name. -/
def continuesName : List Char → Bool
  | [] => true
  | ['\n'] => true
  | c :: rest => isNameChar c && continuesName rest

/-- Whether a text is the name of a tag: a capital letter, then capital letters, digits and
underscores. -/
def isName (s : String) : Bool :=
  match s.toList with
  | [] => false
  | c :: rest => isCapital c && continuesName rest

open Schema

/-- A name of a tag; `what` says what is named. -/
def nameOf (what : String) (d : Document) : Checked String :=
  (text d).andThen fun s =>
    if isName s then .ok s
    else .problem (.refused (what ++ " '" ++ s ++ "' must be UPPER_SNAKE_CASE"))

def Definition.read : Document → Checked Definition :=
  record fun fields =>
    Definition.mk
      <$> required "name" (nameOf "Tag name") fields
      <*> optional "category" "general" text fields
      <*> optional "description" "" text fields
      <*> required "detection" Detection.read fields

def CompoundDefinition.read : Document → Checked CompoundDefinition :=
  record fun fields =>
    CompoundDefinition.mk
      <$> required "name" (nameOf "Compound tag name") fields
      <*> required "expression" text fields
      <*> optional "severity" .medium (member Severity.ofName?) fields
      <*> optional "description" "" text fields

def Definition.toDocument (d : Definition) : Document :=
  .object [("name", .text d.name), ("category", .text d.category),
    ("description", .text d.description), ("detection", d.detection.toDocument)]

def CompoundDefinition.toDocument (d : CompoundDefinition) : Document :=
  .object [("name", .text d.name), ("expression", .text d.expression),
    ("severity", .text d.severity.name), ("description", .text d.description)]

end TagAudit.Tag
