import TagAudit.Proofs.Rule.Matching

/-!
# Tags that explain a violation (`evaluate`, `RuleMatcher.match_rules`)

The tags that an evaluation reports are enough for its result: a condition that is true stays true
when other tags are taken away, as long as its negated groups hold no further negation. Such a group
can only lose what would make it true, and so its negation stays.
-/

namespace TagAudit

namespace Expression

/-- Whether no negation occurs, neither of a tag nor of a group. -/
def isPositive : Expression → Bool
  | .atom _ negated => !negated
  | .not _ => false
  | .and l r => l.isPositive && r.isPositive
  | .or l r => l.isPositive && r.isPositive

/-- Whether no negation occurs inside a negated group. -/
def hasFlatNegation : Expression → Bool
  | .atom _ _ => true
  | .not e => e.isPositive
  | .and l r => l.hasFlatNegation && r.hasFlatNegation
  | .or l r => l.hasFlatNegation && r.hasFlatNegation

section Fewer

variable {tags fewer : List String}

/-- A condition without negations that holds on fewer tags holds on all of them. -/
theorem holds_of_fewer (hfewer : ∀ t ∈ fewer, t ∈ tags) {e : Expression} (hpos : e.isPositive = true)
    (h : e.holds fewer = true) : e.holds tags = true := by
  induction e with
  | atom name negated =>
    cases negated with
    | false =>
      rw [holds_tag, decide_eq_true_eq] at h ⊢
      exact hfewer name h
    | true => exact absurd hpos (by simp [isPositive])
  | not e _ => exact absurd hpos (by simp [isPositive])
  | and l r ihl ihr =>
    rw [isPositive, Bool.and_eq_true] at hpos
    rw [holds_and, Bool.and_eq_true] at h ⊢
    exact ⟨ihl hpos.1 h.1, ihr hpos.2 h.2⟩
  | or l r ihl ihr =>
    rw [isPositive, Bool.and_eq_true] at hpos
    rw [holds_or, Bool.or_eq_true] at h ⊢
    rcases h with h | h
    · exact .inl (ihl hpos.1 h)
    · exact .inr (ihr hpos.2 h)

/-- The tags along the way of an evaluation are enough for its result. -/
theorem holds_of_witness (hfewer : ∀ t ∈ fewer, t ∈ tags) {e : Expression}
    (hflat : e.hasFlatNegation = true) {found : List String} (h : e.witness tags = some found)
    (hfound : ∀ t ∈ found, t ∈ fewer) : e.holds fewer = true := by
  have hholds : e.holds tags = true := by rw [holds_eq, h, Option.isSome_some]
  induction e generalizing found with
  | atom name negated =>
    cases negated with
    | false =>
      rw [holds_tag, decide_eq_true_eq] at hholds ⊢
      rw [witness_tag, if_pos hholds, Option.some.injEq] at h
      exact hfound name (by simp [← h])
    | true =>
      rw [holds_negatedTag, Bool.not_eq_true', decide_eq_false_iff_not] at hholds ⊢
      exact fun hname => hholds (hfewer name hname)
  | not e _ =>
    rw [holds_not, Bool.not_eq_true'] at hholds ⊢
    cases hvalue : e.holds fewer with
    | false => rfl
    | true =>
      rw [holds_of_fewer hfewer hflat hvalue] at hholds
      exact absurd hholds (by simp)
  | and l r ihl ihr =>
    rw [hasFlatNegation, Bool.and_eq_true] at hflat
    rw [holds_and, Bool.and_eq_true] at hholds ⊢
    rw [witness_and, Option.bind_eq_some_iff] at h
    obtain ⟨a, ha, hmap⟩ := h
    obtain ⟨b, hb, rfl⟩ := Option.map_eq_some_iff.1 hmap
    constructor
    · exact ihl hflat.1 ha (fun t ht => hfound t (List.mem_append_left b ht)) hholds.1
    · exact ihr hflat.2 hb (fun t ht => hfound t (List.mem_append_right a ht)) hholds.2
  | or l r ihl ihr =>
    rw [hasFlatNegation, Bool.and_eq_true] at hflat
    rw [holds_or, Bool.or_eq_true]
    rw [witness_or, Option.or_eq_some_iff] at h
    -- Only the side that explains the result has to stay true; the other one may become true.
    rcases h with h | ⟨-, h⟩
    · exact .inl (ihl hflat.1 h hfound (by rw [holds_eq, h, Option.isSome_some]))
    · exact .inr (ihr hflat.2 h hfound (by rw [holds_eq, h, Option.isSome_some]))

theorem holds_of_matchedTags (hfewer : ∀ t ∈ fewer, t ∈ tags) {e : Expression}
    (hflat : e.hasFlatNegation = true) (h : e.holds tags = true)
    (hmatched : ∀ t ∈ (e.outcome tags).matchedTags, t ∈ fewer) : e.holds fewer = true := by
  rw [holds_eq, Option.isSome_iff_exists] at h
  obtain ⟨found, hfound⟩ := h
  rw [outcome_of_some tags e found hfound] at hmatched
  exact holds_of_witness hfewer hflat hfound fun t ht => hmatched t (List.mem_eraseDups.2 ht)

end Fewer

end Expression

/-! ### Violations -/

namespace Rule

/-- What is found for a condition stays found on all tags on which the condition is true. -/
theorem verdict_of_holds {tags fewer : List String} {options : MatchOptions} {r : Rule}
    {v : Violation} (h : r.verdict tags options = .reported v) {e : Expression}
    (hparse : Expression.parse v.expression = .ok e) (hholds : e.holds fewer = true) :
    r.verdict fewer options =
      .reported { v with matchedTags := (e.outcome fewer).matchedTags } := by
  obtain ⟨hhigh, ⟨-, rfl⟩ | ⟨hcond, _, -, -, rfl⟩⟩ := verdict_eq_reported h
  · -- A rule without a condition is listed under the empty text, which is no condition.
    have hempty : Expression.parse "" = .error .blank := rfl
    exact absurd (hempty.symm.trans hparse) (by simp)
  · have hcondition : Expression.parse r.condition = .ok e := hparse
    rcases verdict_cases fewer options r with ⟨hblank, -⟩ | ⟨hblank, -⟩ | ⟨-, fault, hfault, -⟩ |
      ⟨-, e', he', hfalse, -⟩ | ⟨-, e', he', -, hverdict⟩
    · exact absurd hblank hcond
    · exact absurd hblank hcond
    · rw [hcondition] at hfault
      exact absurd hfault (by simp)
    · rw [hcondition, Except.ok.injEq] at he'
      rw [← he', hholds] at hfalse
      exact absurd hfalse (by simp)
    · rw [hcondition, Except.ok.injEq] at he'
      rw [hverdict, ← he']
      rcases applies_cases r options r.condition (e.outcome fewer).matchedTags with
        ⟨hlow, -⟩ | ⟨-, hreported⟩
      · omega
      · exact hreported

end Rule

/-- A condition that is true with some reported tags is true on any part of the tags that holds the
reported ones, if no negation occurs inside its negated groups. So a violation with this condition
does not go away with the other tags, unless the number of results is limited. -/
theorem matchedTags_suffice {text : String} {e : Expression} (hparse : Expression.parse text = .ok e)
    (hflat : e.hasFlatNegation = true) {tags fewer : List String} {o : Expression.Outcome}
    (heval : Expression.evaluate text tags = .ok o) (htrue : o.result = true)
    (hmatched : ∀ t ∈ o.matchedTags, t ∈ fewer) (hfewer : ∀ t ∈ fewer, t ∈ tags) :
    ∃ o', Expression.evaluate text fewer = .ok o' ∧ o'.result = true ∧
      ∀ (rules : List Rule) (options : Rule.MatchOptions), options.maxResults = none →
        ∀ v ∈ (Rule.matchRules tags rules options).violations, v.expression = text →
          { v with matchedTags := o'.matchedTags } ∈
            (Rule.matchRules fewer rules options).violations := by
  rw [Expression.evaluate_of_parse hparse, Except.ok.injEq] at heval
  subst heval
  have hholds : e.holds fewer = true :=
    Expression.holds_of_matchedTags hfewer hflat htrue hmatched
  refine ⟨e.outcome fewer, Expression.evaluate_of_parse hparse fewer, hholds, ?_⟩
  intro rules options hlimit v hv hexpression
  rw [Rule.mem_violations_iff hlimit] at hv ⊢
  obtain ⟨r, hr, hverdict⟩ := hv
  subst hexpression
  exact ⟨r, hr, Rule.verdict_of_holds hverdict hparse hholds⟩

/-- The first side of the condition is false, and it is true once `B` and `D` are gone. -/
theorem matchedTags_suffice_after_removal :
    ∃ r : Rule, r.tagCondition = some "!(B && D) && E || A && !(B && C)" ∧
      r.violation r.condition ["A"] ∈
        (Rule.matchRules ["A", "B", "D", "E"] [r] {}).violations ∧
      r.violation r.condition ["E"] ∈ (Rule.matchRules ["A", "E"] [r] {}).violations := by
  have hparse : Expression.parse "!(B && D) && E || A && !(B && C)" = .ok _ := rfl
  have heval : Expression.evaluate "!(B && D) && E || A && !(B && C)" ["A", "B", "D", "E"] =
      .ok ⟨true, ["A"]⟩ := rfl
  have hmatched : ∀ t ∈ ["A"], t ∈ ["A", "E"] := by decide
  have hfewer : ∀ t ∈ ["A", "E"], t ∈ ["A", "B", "D", "E"] := by decide
  obtain ⟨o', ho', -, hkept⟩ := matchedTags_suffice hparse rfl heval rfl hmatched hfewer
  obtain rfl : ⟨true, ["E"]⟩ = o' := Except.ok.inj ho'
  let r : Rule :=
    { id := "R1", title := "Guard", category := "Style", severity := .high,
      tagCondition := some "!(B && D) && E || A && !(B && C)", suggestion := "",
      description := "", fixEffort := none }
  have hfound : r.violation r.condition ["A"] ∈
      (Rule.matchRules ["A", "B", "D", "E"] [r] {}).violations := by decide +kernel
  exact ⟨r, rfl, hfound, hkept [r] {} rfl _ hfound (by decide +kernel)⟩

-- A negation inside a negated group is not explained by the reported tags.
example : Expression.evaluate "!(!A)" ["A"] = .ok ⟨true, []⟩ ∧
    Expression.evaluate "!(!A)" [] = .ok ⟨false, []⟩ := ⟨rfl, rfl⟩

end TagAudit
