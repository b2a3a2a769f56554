import Mathlib.Data.List.Forall2
import TagAudit.Proofs.Rule.Matching

/-!
# Every rule is accounted for once (`RuleMatcher.match_rules`, `validate_rule_expressions`)

A rule has exactly one of four fates. The counts of a match are the numbers of rules by fate, its
violations are those of the reported rules, and the rules that are skipped can be told without any
tags, from the report on the conditions alone.
-/

namespace TagAudit.Rule

inductive Fate where
  | skipped
  | notMatched
  | lowPriority
  | reported
  deriving DecidableEq, Repr

def HasInvalidCondition (r : Rule) : Prop :=
  ¬ r.HasBlankCondition ∧ (Expression.parse r.condition).isOk = false

instance (r : Rule) : Decidable r.HasInvalidCondition :=
  inferInstanceAs (Decidable (_ ∧ _))

/-- The truth value of a rule's condition on the tags of a file; none for what is no condition. -/
def truth? (tags : List String) (r : Rule) : Option Bool :=
  (Expression.evaluate r.condition tags).toOption.map Expression.Outcome.result

/-- A rule says something of a file: its condition holds, or it has none and such rules apply. -/
def Applies (tags : List String) (options : MatchOptions) (r : Rule) : Prop :=
  (r.HasBlankCondition ∧ options.skipUntagged = false) ∨
    (¬ r.HasBlankCondition ∧ r.truth? tags = some true)

instance (tags : List String) (options : MatchOptions) (r : Rule) :
    Decidable (r.Applies tags options) :=
  inferInstanceAs (Decidable (_ ∨ _))

def HasFate (tags : List String) (options : MatchOptions) (r : Rule) : Fate → Prop
  | .skipped => (r.HasBlankCondition ∧ options.skipUntagged = true) ∨ r.HasInvalidCondition
  | .notMatched => ¬ r.HasBlankCondition ∧ r.truth? tags = some false
  | .lowPriority => r.Applies tags options ∧ (r.priority : Int) < options.minPriority
  | .reported => r.Applies tags options ∧ options.minPriority ≤ (r.priority : Int)

instance (tags : List String) (options : MatchOptions) (r : Rule) (fate : Fate) :
    Decidable (r.HasFate tags options fate) :=
  match fate with
  | .skipped => inferInstanceAs (Decidable (_ ∨ _))
  | .notMatched => inferInstanceAs (Decidable (_ ∧ _))
  | .lowPriority => inferInstanceAs (Decidable (_ ∧ _))
  | .reported => inferInstanceAs (Decidable (_ ∧ _))

def fateCount (tags : List String) (options : MatchOptions) (rules : List Rule) (fate : Fate) :
    Nat :=
  rules.countP fun r => r.HasFate tags options fate

/-- A violation says of its rule what it should. -/
structure Reports (tags : List String) (r : Rule) (v : Violation) : Prop where
  ruleId : v.ruleId = r.id
  severity : v.severity = r.severity
  category : v.category = r.normalizedCategory
  priority : v.priority = r.priority
  explanation : (r.HasBlankCondition ∧ v.expression = "" ∧ v.matchedTags = []) ∨
    (¬ r.HasBlankCondition ∧ v.expression = r.condition ∧
      ∃ outcome, Expression.evaluate r.condition tags = .ok outcome ∧ outcome.result = true ∧
        v.matchedTags = outcome.matchedTags)

/-! ### Fates of verdicts -/

def Verdict.fate : Verdict → Fate
  | .untagged => .skipped
  | .invalid _ => .skipped
  | .notMatched => .notMatched
  | .lowPriority => .lowPriority
  | .reported _ => .reported

theorem truth?_of_parse {r : Rule} {e : Expression} (h : Expression.parse r.condition = .ok e)
    (tags : List String) : r.truth? tags = some (e.holds tags) := by
  rw [truth?, Expression.evaluate_of_parse h]
  rfl

theorem truth?_of_fault {r : Rule} {fault : Expression.SyntaxFault}
    (h : Expression.parse r.condition = .error fault) (tags : List String) :
    r.truth? tags = none := by
  rw [truth?, Expression.evaluate, h]
  rfl

theorem hasFate_of_applies (tags : List String) (options : MatchOptions) (r : Rule)
    (expression : String) (matchedTags : List String) (happlies : r.Applies tags options)
    (hskipped : ¬ r.HasFate tags options .skipped)
    (hfalse : ¬ r.HasFate tags options .notMatched) (fate : Fate) :
    r.HasFate tags options fate ↔ (r.applies options expression matchedTags).fate = fate := by
  rcases applies_cases r options expression matchedTags with ⟨hlow, h⟩ | ⟨hhigh, h⟩
  · have hnot : ¬ options.minPriority ≤ (r.priority : Int) := by omega
    cases fate with
    | skipped => simp [h, Verdict.fate, hskipped]
    | notMatched => simp [h, Verdict.fate, hfalse]
    | lowPriority => simp [h, Verdict.fate, HasFate, happlies, hlow]
    | reported => simp [h, Verdict.fate, HasFate, hnot]
  · have hnot : ¬ (r.priority : Int) < options.minPriority := by omega
    cases fate with
    | skipped => simp [h, Verdict.fate, hskipped]
    | notMatched => simp [h, Verdict.fate, hfalse]
    | lowPriority => simp [h, Verdict.fate, HasFate, hnot]
    | reported => simp [h, Verdict.fate, HasFate, happlies, hhigh]

theorem hasInvalidCondition_of_fault {r : Rule} {fault : Expression.SyntaxFault}
    (hcond : ¬ r.HasBlankCondition) (h : Expression.parse r.condition = .error fault) :
    r.HasInvalidCondition :=
  ⟨hcond, by rw [h]; rfl⟩

theorem not_hasInvalidCondition_of_parse {r : Rule} {e : Expression}
    (h : Expression.parse r.condition = .ok e) : ¬ r.HasInvalidCondition := by
  rintro ⟨-, hfault⟩
  rw [h] at hfault
  exact absurd hfault (by simp [Except.isOk, Except.toBool])

theorem not_hasInvalidCondition_of_blank {r : Rule} (h : r.HasBlankCondition) :
    ¬ r.HasInvalidCondition :=
  fun hinvalid => hinvalid.1 h

/-- The verdict on a rule gives it its fate, and no other one. -/
theorem hasFate_iff (tags : List String) (options : MatchOptions) (r : Rule) (fate : Fate) :
    r.HasFate tags options fate ↔ (r.verdict tags options).fate = fate := by
  have hcases := verdict_cases tags options r
  generalize r.verdict tags options = v at hcases ⊢
  rcases hcases with ⟨hblank, hskip, rfl⟩ | ⟨hblank, hskip, rfl⟩ | ⟨hcond, fault, hparse, rfl⟩ |
    ⟨hcond, e, hparse, hholds, rfl⟩ | ⟨hcond, e, hparse, hholds, rfl⟩
  · cases fate <;> simp [HasFate, Applies, Verdict.fate, hblank, hskip]
  · have hvalid := not_hasInvalidCondition_of_blank hblank
    apply hasFate_of_applies <;> simp [HasFate, Applies, hblank, hskip, hvalid]
  · have htruth := truth?_of_fault hparse tags
    have hinvalid := hasInvalidCondition_of_fault hcond hparse
    cases fate <;> simp [HasFate, Applies, Verdict.fate, hcond, htruth, hinvalid]
  · have htruth := truth?_of_parse hparse tags
    have hvalid := not_hasInvalidCondition_of_parse hparse
    cases fate <;> simp [HasFate, Applies, Verdict.fate, hcond, htruth, hholds, hvalid]
  · have htruth := truth?_of_parse hparse tags
    have hvalid := not_hasInvalidCondition_of_parse hparse
    apply hasFate_of_applies <;> simp [HasFate, Applies, hcond, htruth, hholds, hvalid]

/-! ### Counts -/

theorem fateCount_eq (tags : List String) (options : MatchOptions) (rules : List Rule)
    (fate : Fate) :
    fateCount tags options rules fate =
      (rules.map (·.verdict tags options)).countP (·.fate = fate) := by
  rw [fateCount, List.countP_map]
  refine List.countP_congr fun r _ => ?_
  simp only [hasFate_iff, Function.comp]

theorem filteredCounts_eq (verdicts : List Verdict) :
    filteredCounts verdicts =
      { notMatched := verdicts.countP (·.fate = .notMatched)
        skipped := verdicts.countP (·.fate = .skipped)
        lowPriority := verdicts.countP (·.fate = .lowPriority) } := by
  unfold filteredCounts
  congr 1
  · refine List.countP_congr fun v _ => ?_
    cases v <;> simp [Verdict.fate]
  · refine List.countP_congr fun v _ => ?_
    cases v <;> simp [Verdict.fate, Verdict.isSkipped]
  · refine List.countP_congr fun v _ => ?_
    cases v <;> simp [Verdict.fate]

theorem length_eq_countP_fate (verdicts : List Verdict) :
    verdicts.length = verdicts.countP (·.fate = .skipped) + verdicts.countP (·.fate = .notMatched) +
      verdicts.countP (·.fate = .lowPriority) + verdicts.countP (·.fate = .reported) := by
  induction verdicts with
  | nil => rfl
  | cons v verdicts ih =>
    simp only [List.length_cons, List.countP_cons]
    cases v.fate <;> simp <;> omega

/-! ### Violations -/

theorem reported_map_fst (tags : List String) (options : MatchOptions) (rules : List Rule) :
    (reported tags options rules).map Prod.fst =
      rules.filter fun r => r.HasFate tags options .reported := by
  rw [reported, List.map_filterMap, ← List.filterMap_eq_filter]
  refine List.filterMap_congr fun r _ => ?_
  cases h : r.verdict tags options <;>
    simp [hasFate_iff, h, Verdict.violation?, Verdict.fate, Option.guard]

theorem reports_violation (tags : List String) (options : MatchOptions) (r : Rule) (v : Violation)
    (h : r.verdict tags options = .reported v) : Reports tags r v := by
  rcases (verdict_eq_reported h).2 with ⟨hblank, rfl⟩ | ⟨hcond, e, hparse, hholds, rfl⟩
  · exact ⟨rfl, rfl, rfl, rfl, .inl ⟨hblank, rfl, rfl⟩⟩
  · exact ⟨rfl, rfl, rfl, rfl, .inr ⟨hcond, rfl, e.outcome tags,
      Expression.evaluate_of_parse hparse tags, hholds, rfl⟩⟩

theorem forall₂_reports (tags : List String) (found : List (Rule × Violation))
    (h : ∀ entry ∈ found, Reports tags entry.1 entry.2) :
    List.Forall₂ (Reports tags) (found.map Prod.fst) (found.map Prod.snd) := by
  rw [List.forall₂_map_left_iff, List.forall₂_map_right_iff, List.forall₂_same]
  exact h

theorem violations_report (tags : List String) (rules : List Rule) (options : MatchOptions) :
    ∃ kept : List Rule,
      kept.Perm (rules.filter fun r => r.HasFate tags options .reported) ∧
      List.Forall₂ (Reports tags) (options.cut kept) (matchRules tags rules options).violations := by
  refine ⟨(arranged options (reported tags options rules)).map Prod.fst, ?_, ?_⟩
  · rw [← reported_map_fst]
    exact (arranged_perm options _).map Prod.fst
  · rw [matchRules_violations, MatchOptions.cut_map]
    apply forall₂_reports
    intro entry hentry
    have hfound := (arranged_perm options _).mem_iff.1 ((options.cut_sublist _).subset hentry)
    exact reports_violation tags options _ _ ((mem_reported tags options rules _ _).1 hfound).2

/-! ### The report on the conditions -/

/-- Whether an entry of the report on conditions says that its rule has none. -/
def lacksCondition : Document → Bool
  | .object fields =>
    match fields.lookup "has_condition" with
    | some (.bool value) => !value
    | _ => false
  | _ => false

theorem conditionStatus_cases (r : Rule) :
    (r.HasBlankCondition ∧ r.conditionStatus = .absent) ∨
    (¬ r.HasBlankCondition ∧ ¬ r.HasInvalidCondition ∧ r.conditionStatus = .valid) ∨
    (¬ r.HasBlankCondition ∧ r.HasInvalidCondition ∧
      ∃ fault, r.conditionStatus = .invalid fault) := by
  by_cases hblank : r.HasBlankCondition
  · exact .inl ⟨hblank, by simp [conditionStatus, (isUntagged_iff r).2 hblank]⟩
  · have htagged : ¬ r.isUntagged = true := fun h => hblank ((isUntagged_iff r).1 h)
    cases hparse : Expression.parse r.condition with
    | ok e =>
      exact .inr (.inl ⟨hblank, not_hasInvalidCondition_of_parse hparse,
        by simp [conditionStatus, htagged, hparse]⟩)
    | error fault =>
      exact .inr (.inr ⟨hblank, hasInvalidCondition_of_fault hblank hparse, fault,
        by simp [conditionStatus, htagged, hparse]⟩)

theorem conditionReport_counts (rules : List Rule) :
    ∃ valid invalid : List Document,
      conditionReport rules = .object [("valid", .list valid), ("invalid", .list invalid)] ∧
      invalid.length = rules.countP (fun r => r.HasInvalidCondition) ∧
      valid.countP lacksCondition = rules.countP (fun r => r.HasBlankCondition) := by
  refine ⟨_, _, rfl, ?_, ?_⟩
  · rw [List.length_filterMap_eq_countP]
    refine List.countP_congr fun r _ => ?_
    rcases conditionStatus_cases r with ⟨hblank, h⟩ | ⟨-, hvalid, h⟩ | ⟨-, hinvalid, fault, h⟩
    · simp [h, not_hasInvalidCondition_of_blank hblank]
    · simp [h, hvalid]
    · simp [h, hinvalid]
  · rw [List.countP_filterMap]
    refine List.countP_congr fun r _ => ?_
    rcases conditionStatus_cases r with ⟨hblank, h⟩ | ⟨hcond, -, h⟩ | ⟨hcond, -, fault, h⟩
    · simp [h, hblank, lacksCondition, List.lookup_cons]
    · simp [h, hcond, lacksCondition, List.lookup_cons]
    · simp [h, hcond]

theorem fateCount_skipped (tags : List String) (options : MatchOptions) (rules : List Rule) :
    fateCount tags options rules .skipped =
      rules.countP (fun r => r.HasInvalidCondition) +
        if options.skipUntagged then rules.countP (fun r => r.HasBlankCondition) else 0 := by
  unfold fateCount
  induction rules with
  | nil => simp
  | cons r rules ih =>
    simp only [List.countP_cons, ih]
    by_cases hblank : r.HasBlankCondition
    · have hvalid := not_hasInvalidCondition_of_blank hblank
      cases hskip : options.skipUntagged with
      | true =>
        simp [HasFate, hblank, hvalid, hskip]
        omega
      | false => simp [HasFate, hblank, hvalid, hskip]
    · by_cases hinvalid : r.HasInvalidCondition
      · simp [HasFate, hblank, hinvalid]
        omega
      · simp [HasFate, hblank, hinvalid]

/-! ### The accounts of a match -/

/-- Each rule has exactly one fate. The counts of a match are the numbers of rules by fate, the
violations are those of the reported rules as far as the limit allows, and the skipped rules are
those that the report on the conditions lists as invalid and, if asked for, as without condition. -/
theorem matchRules_accounts (tags : List String) (rules : List Rule) (options : MatchOptions) :
    (∀ r : Rule, ∃! fate, r.HasFate tags options fate) ∧
    (matchRules tags rules options).filtered =
      { notMatched := fateCount tags options rules .notMatched
        skipped := fateCount tags options rules .skipped
        lowPriority := fateCount tags options rules .lowPriority } ∧
    (matchRules tags rules options).totalRules =
      fateCount tags options rules .skipped + fateCount tags options rules .notMatched +
        fateCount tags options rules .lowPriority + fateCount tags options rules .reported ∧
    (matchRules tags rules options).violations.length =
      min (options.maxResults.getD (fateCount tags options rules .reported))
        (fateCount tags options rules .reported) ∧
    (matchRules tags rules options).toDocument = .object
      [("violations",
          .list ((matchRules tags rules options).violations.map Violation.toDocument)),
        ("filtered", (matchRules tags rules options).filtered.toDocument),
        ("stats", .object [("total_rules", .ofNat rules.length),
          ("violations", .ofNat (matchRules tags rules options).violations.length)])] ∧
    (∃ kept : List Rule,
      kept.Perm (rules.filter fun r => r.HasFate tags options .reported) ∧
      List.Forall₂ (Reports tags) (options.cut kept)
        (matchRules tags rules options).violations) ∧
    ∃ valid invalid : List Document,
      conditionReport rules = .object [("valid", .list valid), ("invalid", .list invalid)] ∧
      (matchRules tags rules options).filtered.skipped =
        invalid.length + if options.skipUntagged then valid.countP lacksCondition else 0 := by
  have hcounts : (matchRules tags rules options).filtered =
      { notMatched := fateCount tags options rules .notMatched
        skipped := fateCount tags options rules .skipped
        lowPriority := fateCount tags options rules .lowPriority } := by
    simp only [matchRules_filtered, filteredCounts_eq, fateCount_eq]
  obtain ⟨kept, hkept, hreports⟩ := violations_report tags rules options
  obtain ⟨valid, invalid, hreport, hinvalid, hvalid⟩ := conditionReport_counts rules
  refine ⟨?_, hcounts, ?_, ?_, ?_, ⟨kept, hkept, hreports⟩, valid, invalid, hreport, ?_⟩
  · intro r
    refine ⟨(r.verdict tags options).fate, (hasFate_iff tags options r _).2 rfl, ?_⟩
    intro fate hfate
    exact ((hasFate_iff tags options r fate).1 hfate).symm
  · have htotal := length_eq_countP_fate (rules.map (·.verdict tags options))
    rw [List.length_map] at htotal
    simp only [matchRules_totalRules, fateCount_eq]
    exact htotal
  · have hsize : kept.length = fateCount tags options rules .reported := by
      rw [hkept.length_eq, ← List.countP_eq_length_filter]
      rfl
    rw [← hreports.length_eq, MatchOptions.length_cut, hsize]
  · rw [MatchResult.toDocument, matchRules_totalRules]
  · rw [hcounts, hinvalid, hvalid]
    exact fateCount_skipped tags options rules

end TagAudit.Rule
