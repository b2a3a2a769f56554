import Mathlib.Data.List.Basic
import TagAudit.Expression.Inspection
import TagAudit.Proofs.Expression.Evaluation

/-!
# Required tags (`required_tags`)

The loop over a stack of conditions finds the conjuncts, since each of its steps keeps what it has
found and has yet to find. A condition that holds has all the tags that it requires. On conjunctions
nothing more can be said: the un-negated references of a conjunction that can hold make it hold by
themselves, so a tag that every tag set needs is one of them.
-/

namespace TagAudit

/-! ### First occurrences -/

section Occurrences

variable {α : Type} [BEq α] [LawfulBEq α]

theorem idxOf_lt_of_filter (p : α → Bool) (l : List α) {a b : α} (ha : p a = true) (hb : p b = true)
    (h : (l.filter p).idxOf a < (l.filter p).idxOf b) : l.idxOf a < l.idxOf b := by
  induction l with
  | nil => exact h
  | cons c l ih =>
    by_cases hc : p c = true
    · rw [List.filter_cons_of_pos hc] at h
      by_cases hcb : c = b
      · subst hcb
        rw [List.idxOf_cons_self] at h
        omega
      · rw [List.idxOf_cons_ne _ hcb] at h ⊢
        by_cases hca : c = a
        · subst hca
          rw [List.idxOf_cons_self]
          omega
        · rw [List.idxOf_cons_ne _ hca] at h ⊢
          have hrest := ih (by omega)
          omega
    · have hca : c ≠ a := fun heq => hc (heq ▸ ha)
      have hcb : c ≠ b := fun heq => hc (heq ▸ hb)
      rw [List.filter_cons_of_neg hc] at h
      have hrest := ih h
      rw [List.idxOf_cons_ne _ hca, List.idxOf_cons_ne _ hcb]
      omega

/-- What is left without repetitions stands in the order of first occurrences. -/
theorem pairwise_idxOf_eraseDups (l : List α) :
    l.eraseDups.Pairwise fun a b => l.idxOf a < l.idxOf b := by
  induction hlen : l.length using Nat.strongRecOn generalizing l with
  | ind n ih =>
    cases l with
    | nil => simp
    | cons a l =>
      have hle := List.length_filter_le (fun b => !b == a) l
      rw [List.length_cons] at hlen
      have hrest := ih _ (by omega) (l.filter fun b => !b == a) rfl
      have hne : ∀ b ∈ (l.filter fun b => !b == a).eraseDups, a ≠ b := by
        intro b hb heq
        rw [List.mem_eraseDups, List.mem_filter] at hb
        simp [heq] at hb
      rw [List.eraseDups_cons, List.pairwise_cons]
      constructor
      · intro b hb
        rw [List.idxOf_cons_self, List.idxOf_cons_ne _ (hne b hb)]
        omega
      · refine hrest.imp_of_mem ?_
        intro b c hb hc hlt
        have hb' := hne b hb
        have hc' := hne c hc
        have hlt' := idxOf_lt_of_filter _ l (by simp [Ne.symm hb']) (by simp [Ne.symm hc']) hlt
        rw [List.idxOf_cons_ne _ hb', List.idxOf_cons_ne _ hc']
        omega

end Occurrences

namespace Expression

/-! ### The search -/

/-- The references that stand in a conjunction outside every negation, from left to right. -/
def conjuncts : Expression → List String
  | .atom name false => [name]
  | .atom _ true => []
  | .not _ => []
  | .and l r => l.conjuncts ++ r.conjuncts
  | .or _ _ => []

/-- What a search finds in the end: what it has, and the conjuncts of all that it will look at. -/
def Search.outlook (s : Search) : List String := s.found ++ s.stack.flatMap conjuncts

/-- All that a step can do. -/
theorem Search.step_cases (s : Search) :
    (s.step = none ∧ s.stack = []) ∨
    (∃ l r rest, s.stack = .and l r :: rest ∧ s.step = some ⟨l :: r :: rest, s.found⟩) ∨
    (∃ name rest, s.stack = .atom name false :: rest ∧
      s.step = some ⟨rest, s.found ++ [name]⟩) ∨
    (∃ e rest, s.stack = e :: rest ∧ e.conjuncts = [] ∧ s.step = some ⟨rest, s.found⟩) := by
  obtain ⟨stack, found⟩ := s
  cases stack with
  | nil => exact .inl ⟨rfl, rfl⟩
  | cons e rest =>
    cases e with
    | atom name negated =>
      cases negated with
      | false => exact .inr (.inr (.inl ⟨name, rest, rfl, rfl⟩))
      | true => exact .inr (.inr (.inr ⟨_, rest, rfl, rfl, rfl⟩))
    | not e => exact .inr (.inr (.inr ⟨_, rest, rfl, rfl, rfl⟩))
    | and l r => exact .inr (.inl ⟨l, r, rest, rfl, rfl⟩)
    | or l r => exact .inr (.inr (.inr ⟨_, rest, rfl, rfl, rfl⟩))

theorem Search.outlook_step {s s' : Search} (h : s.step = some s') : s'.outlook = s.outlook := by
  unfold Search.outlook
  rcases s.step_cases with ⟨hstep, -⟩ | ⟨l, r, rest, hstack, hstep⟩ |
    ⟨name, rest, hstack, hstep⟩ | ⟨e, rest, hstack, hnone, hstep⟩
  · exact absurd (h.symm.trans hstep) (by simp)
  · obtain rfl := Option.some.inj (h.symm.trans hstep)
    rw [hstack]
    simp [conjuncts]
  · obtain rfl := Option.some.inj (h.symm.trans hstep)
    rw [hstack]
    simp [conjuncts]
  · obtain rfl := Option.some.inj (h.symm.trans hstep)
    rw [hstack, List.flatMap_cons, hnone, List.nil_append]

theorem Search.outlook_of_stop {s : Search} (h : s.step = none) : s.outlook = s.found := by
  rcases s.step_cases with ⟨-, hstack⟩ | ⟨_, _, _, -, hstep⟩ | ⟨_, _, -, hstep⟩ | ⟨_, _, -, -, hstep⟩
  · rw [Search.outlook, hstack, List.flatMap_nil, List.append_nil]
  · exact absurd (h.symm.trans hstep) (by simp)
  · exact absurd (h.symm.trans hstep) (by simp)
  · exact absurd (h.symm.trans hstep) (by simp)

theorem Search.run_eq_outlook (s : Search) : s.run = s.outlook := by
  fun_induction Search.run s with
  | case1 s hstop => rw [Search.outlook_of_stop hstop]
  | case2 s s' hstep ih => rw [ih, Search.outlook_step hstep]

theorem required_eq (e : Expression) :
    e.required = if e.hasOr then [] else e.conjuncts.eraseDups := by
  rw [required, Search.run_eq_outlook, Search.outlook, List.flatMap_singleton, List.nil_append]

/-! ### Presence -/

/-- The references outside every negation and disjunction are present when the condition holds. -/
theorem conjuncts_present (tags : List String) (e : Expression) (h : e.holds tags = true) :
    ∀ t ∈ e.conjuncts, t ∈ tags := by
  induction e with
  | atom name negated =>
    cases negated with
    | false =>
      rw [holds_tag, decide_eq_true_eq] at h
      intro t ht
      rw [conjuncts, List.mem_singleton] at ht
      rw [ht]
      exact h
    | true => simp [conjuncts]
  | not e _ => simp [conjuncts]
  | and l r ihl ihr =>
    rw [holds_and, Bool.and_eq_true] at h
    intro t ht
    rw [conjuncts, List.mem_append] at ht
    rcases ht with ht | ht
    · exact ihl h.1 t ht
    · exact ihr h.2 t ht
  | or l r _ _ => simp [conjuncts]

theorem required_present (tags : List String) (e : Expression) (h : e.holds tags = true) :
    ∀ t ∈ e.required, t ∈ tags := by
  intro t ht
  rw [required_eq] at ht
  split at ht
  · exact absurd ht (by simp)
  · exact conjuncts_present tags e h t (List.mem_eraseDups.1 ht)

theorem required_nodup (e : Expression) : e.required.Nodup := by
  rw [required_eq]
  split
  · exact List.nodup_nil
  · exact nodup_eraseDups _

/-! ### Conjunctions -/

/-- Whether a negated group, or the negation of another negation, occurs anywhere. -/
def hasNot : Expression → Bool
  | .atom _ _ => false
  | .not _ => true
  | .and l r => l.hasNot || r.hasNot
  | .or l r => l.hasNot || r.hasNot

/-- The names of the un-negated references from left to right. -/
def unnegated (e : Expression) : List String := (e.atoms.filter (!·.2)).map Prod.fst

/-- A conjunction of references holds when each of them does. -/
theorem holds_iff_atoms (tags : List String) (e : Expression) (hor : e.hasOr = false)
    (hnot : e.hasNot = false) :
    e.holds tags = true ↔ ∀ name negated, (name, negated) ∈ e.atoms →
      (name ∈ tags ↔ negated = false) := by
  induction e with
  | atom name negated =>
    cases negated with
    | false => simp [atoms]
    | true => simp [atoms]
  | not e _ => exact absurd hnot (by simp [hasNot])
  | and l r ihl ihr =>
    rw [hasOr, Bool.or_eq_false_iff] at hor
    rw [hasNot, Bool.or_eq_false_iff] at hnot
    rw [holds_and, Bool.and_eq_true, ihl hor.1 hnot.1, ihr hor.2 hnot.2, atoms]
    simp only [List.mem_append, or_imp, forall_and]
  | or l r _ _ => exact absurd hor (by simp [hasOr])

theorem conjuncts_eq_unnegated (e : Expression) (hor : e.hasOr = false) (hnot : e.hasNot = false) :
    e.conjuncts = e.unnegated := by
  induction e with
  | atom name negated =>
    cases negated with
    | false => rfl
    | true => rfl
  | not e _ => exact absurd hnot (by simp [hasNot])
  | and l r ihl ihr =>
    rw [hasOr, Bool.or_eq_false_iff] at hor
    rw [hasNot, Bool.or_eq_false_iff] at hnot
    rw [conjuncts, ihl hor.1 hnot.1, ihr hor.2 hnot.2]
    unfold unnegated
    rw [atoms, List.filter_append, List.map_append]
  | or l r _ _ => exact absurd hor (by simp [hasOr])

section Conjunction

variable {e : Expression} (hor : e.hasOr = false) (hnot : e.hasNot = false)

include hor hnot

theorem required_eq_unnegated : e.required = e.unnegated.eraseDups := by
  rw [required_eq, hor, conjuncts_eq_unnegated e hor hnot]
  rfl

/-- A conjunction that can hold does so on its un-negated references alone. -/
theorem holds_unnegated {tags : List String} (h : e.holds tags = true) :
    e.holds e.unnegated = true := by
  have hatoms := (holds_iff_atoms tags e hor hnot).1 h
  have hmem : ∀ name, name ∈ e.unnegated ↔ (name, false) ∈ e.atoms := by
    intro name
    simp [unnegated]
  rw [holds_iff_atoms e.unnegated e hor hnot]
  intro name negated hatom
  rw [hmem]
  constructor
  · intro hfalse
    -- The tags on which the condition holds have the name and so leave no room for its negation.
    have hpresent := (hatoms name false hfalse).2 rfl
    exact (hatoms name negated hatom).1 hpresent
  · intro hnegated
    rw [hnegated] at hatom
    exact hatom

theorem mem_required_iff {tags : List String} (h : e.holds tags = true) (t : String) :
    t ∈ e.required ↔ ∀ tags, e.holds tags = true → t ∈ tags := by
  constructor
  · intro ht tags' h'
    exact required_present tags' e h' t ht
  · intro hall
    rw [required_eq_unnegated hor hnot, List.mem_eraseDups]
    exact hall e.unnegated (holds_unnegated hor hnot h)

end Conjunction

/-! ### Texts -/

def IsTrueOn (text : String) (tags : List String) : Prop :=
  ∃ o, evaluate text tags = .ok o ∧ o.result = true

theorem isTrueOn_iff {text : String} {e : Expression} (h : parse text = .ok e) (tags : List String) :
    IsTrueOn text tags ↔ e.holds tags = true := by
  unfold IsTrueOn
  rw [evaluate_of_parse h tags]
  simp [outcome]

/-- A condition is true only on tags that include those it requires. Without `||` and without negated
groups its required tags are the un-negated references, in the order of their first occurrences, and
if it can be true at all they are exactly the tags that no set on which it is true lacks. -/
theorem required_on_all_true_sets {text : String} {e : Expression} (h : parse text = .ok e) :
    (∀ tags, (∃ o, evaluate text tags = .ok o) ∧
      (IsTrueOn text tags → ∀ t ∈ e.required, t ∈ tags)) ∧
    e.required.Nodup ∧
    (e.hasOr = false → e.hasNot = false →
      (∀ t, t ∈ e.required ↔ t ∈ e.unnegated) ∧
      (e.required.Pairwise fun s t => e.unnegated.idxOf s < e.unnegated.idxOf t) ∧
      ((∃ tags, IsTrueOn text tags) →
        ∀ t, t ∈ e.required ↔ ∀ tags, IsTrueOn text tags → t ∈ tags)) := by
  refine ⟨?_, required_nodup e, ?_⟩
  · intro tags
    refine ⟨⟨e.outcome tags, evaluate_of_parse h tags⟩, ?_⟩
    intro htrue
    exact required_present tags e ((isTrueOn_iff h tags).1 htrue)
  · intro hor hnot
    have hrequired := required_eq_unnegated hor hnot
    refine ⟨?_, ?_, ?_⟩
    · intro t
      rw [hrequired, List.mem_eraseDups]
    · rw [hrequired]
      exact pairwise_idxOf_eraseDups e.unnegated
    · intro hsat t
      obtain ⟨tags, htrue⟩ := hsat
      simp only [isTrueOn_iff h]
      exact mem_required_iff hor hnot ((isTrueOn_iff h tags).1 htrue) t

theorem required_of_conjunction_with_repetition :
    ∃ e, parse "B && (!C && A) && B" = .ok e ∧ e.required = ["B", "A"] ∧
      e.hasOr = false ∧ e.hasNot = false ∧ IsTrueOn "B && (!C && A) && B" ["A", "B"] ∧
      ∀ tags, IsTrueOn "B && (!C && A) && B" tags → "A" ∈ tags := by
  have hparse : parse "B && (!C && A) && B" = .ok _ := rfl
  obtain ⟨-, -, hexact⟩ := required_on_all_true_sets hparse
  have hsat : IsTrueOn "B && (!C && A) && B" ["A", "B"] := ⟨_, rfl, rfl⟩
  refine ⟨_, hparse, ?_, rfl, rfl, hsat, ?_⟩
  · rw [required_eq]
    rfl
  · refine ((hexact rfl rfl).2.2 ⟨_, hsat⟩ "A").1 ?_
    rw [required_eq]
    decide

end Expression

end TagAudit
