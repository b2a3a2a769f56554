import TagAudit.Analysis
import TagAudit.Proofs.Expression.Cache
import TagAudit.Proofs.Rule.Matching

/-!
# Analyses that ask for conditions (`CodeAnalyzer.analyze`)

An analysis meets the memory of conditions only where it needs a condition that a text writes.
Seen from there it is an inquiry: it asks for one text after another, and whoever holds the memory
answers. The value of an inquiry is what it gives when every text is parsed, and an analysis is
the value of its inquiry.
-/

namespace TagAudit

open Expression (SyntaxFault Cache)
open Rule (MatchOptions MatchResult Verdict)

/-- A computation that asks for the conditions that texts write, one text after another. -/
inductive Inquiry (α : Type) where
  | done (value : α)
  | ask (text : String) (resume : Except SyntaxFault Expression → Inquiry α)

namespace Inquiry

variable {α β : Type}

/-- The value of an inquiry when every text is parsed. -/
def value : Inquiry α → α
  | .done a => a
  | .ask text resume => (resume (Expression.parse text)).value

/-- The number of texts that an inquiry asks for when every text is parsed. -/
def length : Inquiry α → Nat
  | .done _ => 0
  | .ask text resume => (resume (Expression.parse text)).length + 1

def bind (f : α → Inquiry β) : Inquiry α → Inquiry β
  | .done a => f a
  | .ask text resume => .ask text fun parsed => (resume parsed).bind f

def map (f : α → β) (q : Inquiry α) : Inquiry β := q.bind fun a => .done (f a)

end Inquiry

/-! ### The memory, one access at a time -/

namespace Expression.Cache

/-- The first access of a look-up: a text that is held moves to the front, and one that is not is
counted as a miss. -/
def probe (cache : Cache) (text : String) : Option Expression × Cache :=
  match cache.entries.lookup text with
  | some e =>
    (some e, { cache with
      entries := (text, e) :: cache.entries.filter (·.1 ≠ text), hits := cache.hits + 1 })
  | none => (none, { cache with misses := cache.misses + 1 })

/-- The second access of a look-up that missed, with the condition that was parsed in between. By
now the text may be held. -/
def learn (cache : Cache) (text : String) (parsed : Except SyntaxFault Expression) : Cache :=
  match parsed with
  | .error _ => cache
  | .ok e =>
    if text ∈ cache.entries.map Prod.fst then cache
    else { cache with entries := ((text, e) :: cache.entries).take cacheCapacity }

theorem probe_cases (cache : Cache) (text : String) :
    (∃ e, (text, e) ∈ cache.entries ∧ cache.probe text = (some e, { cache with
      entries := (text, e) :: cache.entries.filter (·.1 ≠ text), hits := cache.hits + 1 })) ∨
    (text ∉ cache.entries.map Prod.fst ∧
      cache.probe text = (none, { cache with misses := cache.misses + 1 })) := by
  cases hlookup : cache.entries.lookup text with
  | some e => exact .inl ⟨e, mem_of_lookup hlookup, by rw [probe, hlookup]⟩
  | none =>
    refine .inr ⟨?_, by rw [probe, hlookup]⟩
    intro hmem
    obtain ⟨entry, hentry, rfl⟩ := List.mem_map.1 hmem
    have hne := List.lookup_eq_none_iff.1 hlookup entry hentry
    exact absurd hne (by simp)

/-- Every condition held is the one that its text writes. -/
def Sound (cache : Cache) : Prop := ∀ entry ∈ cache.entries, parse entry.1 = .ok entry.2

theorem sound_empty : empty.Sound := by
  intro entry hentry
  exact absurd hentry List.not_mem_nil

section Access

variable {cache : Cache} (h : cache.Sound) (text : String)

include h

theorem Sound.parse_of_probe {e : Expression} (he : (cache.probe text).1 = some e) :
    parse text = .ok e := by
  rcases cache.probe_cases text with ⟨e', hmem, heq⟩ | ⟨-, heq⟩
  · rw [heq] at he
    cases he
    exact h _ hmem
  · rw [heq] at he
    cases he

theorem Sound.probe : (cache.probe text).2.Sound := by
  intro entry hentry
  rcases cache.probe_cases text with ⟨e, hmem, heq⟩ | ⟨-, heq⟩
  · rw [heq] at hentry
    rcases List.mem_cons.1 hentry with rfl | hrest
    · exact h _ hmem
    · exact h entry (List.mem_filter.1 hrest).1
  · rw [heq] at hentry
    exact h entry hentry

theorem Sound.learn : (cache.learn text (parse text)).Sound := by
  intro entry hentry
  unfold Cache.learn at hentry
  split at hentry
  · exact h entry hentry
  · rename_i e hparse
    split at hentry
    · exact h entry hentry
    · rcases List.mem_cons.1 (List.mem_of_mem_take hentry) with rfl | hrest
      · exact hparse
      · exact h entry hrest

end Access

end Expression.Cache

/-! ### The inquiry of an analysis -/

namespace Rule

end Rule

end TagAudit
