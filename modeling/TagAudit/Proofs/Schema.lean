import TagAudit.Schema.Record
import TagAudit.Schema.Scalar

/-!
# Checks that passed

What is known of the parts once a check of the whole has given a value.
-/

namespace TagAudit.Schema

variable {α β : Type}

namespace Checked

theorem seq_eq_ok_iff (f : Checked (α → β)) (c : Checked α) (b : β) :
    f <*> c = .ok b ↔ ∃ g a, f = .ok g ∧ c = .ok a ∧ g a = b := by
  change combine f c = .ok b ↔ _
  cases f with
  | faulty fs => simp [combine]
  | ok g =>
    cases c with
    | faulty fs => simp [combine]
    | ok a => simp [combine]

theorem map_eq_ok_iff (f : α → β) (c : Checked α) (b : β) :
    f <$> c = .ok b ↔ ∃ a, c = .ok a ∧ f a = b := by
  change combine (.ok f) c = .ok b ↔ _
  cases c with
  | faulty fs => simp [combine]
  | ok a => simp [combine]

theorem under_eq_ok_iff (step : Step) (c : Checked α) (a : α) : c.under step = .ok a ↔ c = .ok a := by
  cases c with
  | faulty fs => simp [under]
  | ok a' => simp [under]

theorem andThen_eq_ok_iff (c : Checked α) (next : α → Checked β) (b : β) :
    c.andThen next = .ok b ↔ ∃ a, c = .ok a ∧ next a = .ok b := by
  cases c with
  | faulty fs => simp [andThen]
  | ok a => simp [andThen]

theorem toExcept_eq_ok_iff (c : Checked α) (a : α) : c.toExcept = .ok a ↔ c = .ok a := by
  cases c with
  | faulty fs => simp [toExcept]
  | ok a' => simp [toExcept]

end Checked

theorem of_record {check : Document.Fields → Checked α} {d : Document} {a : α}
    (h : record check d = .ok a) : ∃ fields, d = .object fields ∧ check fields = .ok a := by
  cases d with
  | object fields => exact ⟨fields, rfl, h⟩
  | null | bool | int | float | text | rawText | list =>
    exact absurd h (by simp [record, recordOr, Checked.problem])

theorem of_required {name : String} {check : Document → Checked α} {fields : Document.Fields} {a : α}
    (h : required name check fields = .ok a) :
    ∃ d, fields.lookup name = some d ∧ check d = .ok a := by
  unfold required requiredAs at h
  cases hlookup : fields.lookup name with
  | none =>
    rw [findField, hlookup] at h
    exact absurd h (by simp [findField])
  | some d =>
    rw [findField, hlookup] at h
    exact ⟨d, rfl, (Checked.under_eq_ok_iff _ _ _).1 h⟩

section Agree

variable {names : List String} {fields fields' : Document.Fields}

end Agree

end TagAudit.Schema
