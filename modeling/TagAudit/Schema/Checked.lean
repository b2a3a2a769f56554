import TagAudit.Document

/-!
Checking documents against the shape that is expected of them. A check either gives a value or a
list of faults, each with the path of field names and item numbers that leads to it. Checks of
independent parts all run, so that every fault is reported, in the order of the parts.

The models of the program, from `Rule` to `AnalyzeRequest`, are declared to a validation package that
checks them. This package is not part of the program, and what it does is assumed in this module and
the two after it. Of errors it is assumed:

* The fields of a model are checked in the order of their declaration, the items of a list and the
  entries of a table in the order of the document, and a fault in one does not keep the others from
  being checked. The faults come in that order.
* A bound or a validator of a field looks at a value that has passed the check of its type, and not at
  any other. There is one fault for a value at most, unless the value has parts.
* The path of a fault has the name under which a field was found, not the one it is declared with.
-/

namespace TagAudit.Schema

/-- One step into a document. -/
inductive Step where
  | field (name : String)
  | item (index : Nat)
  deriving DecidableEq, Repr

inductive Problem where
  /-- A record is expected. -/
  | notRecord
  /-- A record, or a value with the fields of one, is expected. -/
  | notRecordLike
  /-- A record without the field that says which variant it is. -/
  | variantMissing
  /-- A record of a variant that does not exist. -/
  | variantUnknown
  | notText
  /-- A text in which half of a surrogate pair stands. -/
  | notCharacters
  | textTooShort
  | fractional
  | notFinite
  | unreadableInt
  | intTooLarge
  | notInt
  | unreadableNumber
  | notNumber
  | belowMinimum
  | aboveMaximum
  | unreadableBool
  | notBool
  | notList
  | notTable
  | notTuple
  /-- A text that is none of the words allowed. -/
  | notChoice
  /-- A value that names no member of an enumeration. -/
  | notMember
  | missing
  | frozen
  /-- A text that is not a document at all. -/
  | malformed
  /-- A value of the right kind that a rule of its own refuses. -/
  | refused (reason : String)
  deriving DecidableEq, Repr

def Problem.code : Problem → String
  | .notRecord => "model_type"
  | .notRecordLike => "model_attributes_type"
  | .variantMissing => "union_tag_not_found"
  | .variantUnknown => "union_tag_invalid"
  | .notText => "string_type"
  | .notCharacters => "string_unicode"
  | .textTooShort => "string_too_short"
  | .fractional => "int_from_float"
  | .notFinite => "finite_number"
  | .unreadableInt => "int_parsing"
  | .intTooLarge => "int_parsing_size"
  | .notInt => "int_type"
  | .unreadableNumber => "float_parsing"
  | .notNumber => "float_type"
  | .belowMinimum => "greater_than_equal"
  | .aboveMaximum => "less_than_equal"
  | .unreadableBool => "bool_parsing"
  | .notBool => "bool_type"
  | .notList => "list_type"
  | .notTable => "dict_type"
  | .notTuple => "tuple_type"
  | .notChoice => "literal_error"
  | .notMember => "enum"
  | .missing => "missing"
  | .frozen => "frozen_instance"
  | .malformed => "json_invalid"
  | .refused _ => "value_error"

/-- The words that go with a problem, where its name does not say it all. -/
def Problem.message? : Problem → Option String
  | .refused reason => some ("Value error, " ++ reason)
  | _ => none

structure Fault where
  path : List Step
  problem : Problem
  deriving DecidableEq, Repr

/-- The fault seen from one step further out. -/
def Fault.under (step : Step) (fault : Fault) : Fault :=
  { fault with path := step :: fault.path }

inductive Checked (α : Type) where
  | ok (value : α)
  | faulty (faults : List Fault)
  deriving Repr

namespace Checked

variable {α β : Type}

def problem (p : Problem) : Checked α :=
  .faulty [⟨[], p⟩]

def faults : Checked α → List Fault
  | .ok _ => []
  | .faulty fs => fs

/-- The check of a part seen from the whole. -/
def under (step : Step) : Checked α → Checked α
  | .ok a => .ok a
  | .faulty fs => .faulty (fs.map (·.under step))

/-- A further check of a value that passed. -/
def andThen (c : Checked α) (next : α → Checked β) : Checked β :=
  match c with
  | .ok a => next a
  | .faulty fs => .faulty fs

/-- The value that two independent checks give together, or all their faults. -/
def combine (f : Checked (α → β)) (c : Checked α) : Checked β :=
  match f, c with
  | .ok f, .ok a => .ok (f a)
  | .ok _, .faulty fs => .faulty fs
  | .faulty fs, c => .faulty (fs ++ c.faults)

instance : Applicative Checked where
  pure := .ok
  seq f c := combine f (c ())

def toExcept : Checked α → Except (List Fault) α
  | .ok a => .ok a
  | .faulty fs => .error fs

end Checked

/-- The checks of all items of a list, with their numbers from `index` on. -/
def items {α : Type} (check : Document → Checked α) :
    (index : Nat) → List Document → Checked (List α)
  | _, [] => .ok []
  | index, d :: rest =>
    List.cons <$> (check d).under (.item index) <*> items check (index + 1) rest

/-- The checks of all entries of a table, under their names. -/
def entries {α : Type} (check : Document → Checked α) :
    Document.Fields → Checked (List (String × α))
  | [] => .ok []
  | (name, d) :: rest =>
    (fun a as => (name, a) :: as) <$> (check d).under (.field name) <*> entries check rest

end TagAudit.Schema
