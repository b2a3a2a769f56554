import TagAudit.Text.Raw

/-!
Documents: the data that definitions, rules and requests are written in. The fields of an object
keep their order, and a name stands at most once among them.

Tag definitions, rule catalogs and request bodies all come to the program as such values.
-/

namespace TagAudit

/-- A structured value. Whole numbers and fractional numbers are kept apart. -/
inductive Document where
  | null
  | bool (value : Bool)
  | int (value : Int)
  | float (value : Float)
  | text (value : String)
  /-- A text in which halves of surrogate pairs stand. -/
  | rawText (value : Text.Raw)
  | list (items : List Document)
  | object (fields : List (String × Document))
  deriving Inhabited

namespace Document

abbrev Fields := List (String × Document)

def ofTexts (texts : List String) : Document :=
  .list (texts.map .text)

def ofNat (n : Nat) : Document :=
  .int n

/-- A text with or without halves of surrogate pairs as a document. -/
def ofRaw (r : Text.Raw) : Document :=
  match r.encodable with
  | .ok s => .text s
  | .error _ => .rawText r

/-- The characters of a text, with the replacement character for each half of a surrogate pair. -/
def text? : Document → Option String
  | .text s => some s
  | .rawText r => some r.replaced
  | _ => none

def raw? : Document → Option Text.Raw
  | .text s => some (.ofString s)
  | .rawText r => some r
  | _ => none

/-- An absent value is null. -/
def ofOption {α : Type} (write : α → Document) : Option α → Document
  | none => .null
  | some a => write a

end Document

end TagAudit
