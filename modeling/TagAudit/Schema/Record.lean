import TagAudit.Schema.Checked

/-!
Checks of lists, tables and records.

What is assumed of the validation package about fields: Names that no field goes by are ignored. A
field that may go by several names is read under the first of them that the record has, in the order
in which the field lists them and not in that of the record, and the others are not looked at, even
if the value under the first one is faulty. A field that is missing under all of its names is
reported under the first.
-/

namespace TagAudit.Schema

open Document

variable {α : Type}

def listOf (check : Document → Checked α) : Document → Checked (List α)
  | .list ds => items check 0 ds
  | _ => .problem .notList

/-- A fixed sequence of values. -/
def tupleOf (check : Document → Checked α) : Document → Checked (List α)
  | .list ds => items check 0 ds
  | _ => .problem .notTuple

def tableOf (check : Document → Checked α) : Document → Checked (List (String × α))
  | .object fields => entries check fields
  | _ => .problem .notTable

/-- The fields of a table, whatever they hold. -/
def table : Document → Checked Fields
  | .object fields => .ok fields
  | _ => .problem .notTable

/-- A record whose fields pass a check; `otherwise` is the problem with anything else. -/
def recordOr (otherwise : Problem) (check : Fields → Checked α) : Document → Checked α
  | .object fields => check fields
  | _ => .problem otherwise

def record (check : Fields → Checked α) : Document → Checked α :=
  recordOr .notRecord check

/-- The first of several names that a record has, with its value. -/
def findField (fields : Fields) : List String → Option (String × Document)
  | [] => none
  | name :: names =>
    match fields.lookup name with
    | some d => some (name, d)
    | none => findField fields names

/-- A field that must be there, under one of its names. A missing field is reported under the first
of them. -/
def requiredAs (names : List String) (check : Document → Checked α) (fields : Fields) : Checked α :=
  match findField fields names with
  | some (name, d) => (check d).under (.field name)
  | none => .faulty [⟨[.field (names.headD "")], .missing⟩]

/-- A field with a value of its own when it is not there, under one of its names. -/
def optionalAs (names : List String) (absent : α) (check : Document → Checked α)
    (fields : Fields) : Checked α :=
  match findField fields names with
  | some (name, d) => (check d).under (.field name)
  | none => .ok absent

def required (name : String) (check : Document → Checked α) (fields : Fields) : Checked α :=
  requiredAs [name] check fields

def optional (name : String) (absent : α) (check : Document → Checked α) (fields : Fields) :
    Checked α :=
  optionalAs [name] absent check fields

end TagAudit.Schema
