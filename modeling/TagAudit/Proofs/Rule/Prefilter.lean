import Mathlib.Data.List.Basic
import TagAudit.Proofs.Expression.Required
import TagAudit.Rule.Matching

/-!
# Rules that need not be matched (`RuleMatcher.prefilter_rules`)

A condition that holds has all the tags that it requires. A rule whose required tags are not all
there is therefore not matched, and matching the other rules alone reports the same violations in
the same order.
-/

namespace TagAudit

/-! ### Dropped rules -/

namespace Rule

/-- A rule that the tags leave no chance is not matched. -/
theorem verdict_of_not_mayMatch (tags : List String) (options : MatchOptions) (r : Rule)
    (h : mayMatch tags r = false) : r.verdict tags options = .notMatched := by
  rw [mayMatch, Bool.or_eq_false_iff] at h
  obtain ⟨htagged, hrequired⟩ := h
  cases hparse : Expression.parse r.condition with
  | error fault => simp [hparse] at hrequired
  | ok e =>
    simp only [hparse] at hrequired
    -- A condition that held would have all its required tags.
    have hfalse : e.holds tags = false := by
      cases hholds : e.holds tags with
      | false => rfl
      | true =>
        have hall : e.required.all (· ∈ tags) = true := by
          simpa using Expression.required_present tags e hholds
        rw [hall] at hrequired
        exact absurd hrequired (by simp)
    have heval := Expression.evaluate_of_parse hparse tags
    simp [verdict, htagged, heval, Expression.outcome, hfalse]

theorem reported_prefilter (tags : List String) (options : MatchOptions) (rules : List Rule) :
    reported tags options (prefilter tags rules) = reported tags options rules := by
  rw [prefilter, reported, reported, List.filterMap_filter]
  refine List.filterMap_congr fun r _ => ?_
  split
  · rfl
  · rename_i hdropped
    rw [verdict_of_not_mayMatch tags options r (by simpa using hdropped)]
    rfl

/-- The verdicts other than `notMatched` are all found among the rules that are kept. -/
theorem countP_verdict_prefilter (tags : List String) (options : MatchOptions) (rules : List Rule)
    (p : Verdict → Bool) (hp : p .notMatched = false) :
    ((prefilter tags rules).map (·.verdict tags options)).countP p =
      (rules.map (·.verdict tags options)).countP p := by
  induction rules with
  | nil => rfl
  | cons r rules ih =>
    rw [prefilter] at ih ⊢
    by_cases hkept : mayMatch tags r = true
    · rw [List.filter_cons_of_pos hkept, List.map_cons, List.map_cons, List.countP_cons,
        List.countP_cons, ih]
    · have hverdict := verdict_of_not_mayMatch tags options r (by simpa using hkept)
      rw [List.filter_cons_of_neg hkept, List.map_cons, hverdict,
        List.countP_cons_of_neg (by simp [hp]), ih]

theorem countP_notMatched_prefilter (tags : List String) (options : MatchOptions)
    (rules : List Rule) :
    (rules.map (·.verdict tags options)).countP (· = .notMatched) + (prefilter tags rules).length =
      ((prefilter tags rules).map (·.verdict tags options)).countP (· = .notMatched) +
        rules.length := by
  induction rules with
  | nil => rfl
  | cons r rules ih =>
    rw [prefilter] at ih ⊢
    by_cases hkept : mayMatch tags r = true
    · rw [List.filter_cons_of_pos hkept]
      simp only [List.map_cons, List.countP_cons, List.length_cons]
      omega
    · have hverdict := verdict_of_not_mayMatch tags options r (by simpa using hkept)
      rw [List.filter_cons_of_neg hkept, List.map_cons, hverdict,
        List.countP_cons_of_pos (by simp), List.length_cons]
      omega

/-- Matching only the rules that the tags leave a chance gives the same violations in the same
order and the same counts, except that the dropped rules are not counted as not matched. -/
theorem matchRules_prefilter (tags : List String) (rules : List Rule) (options : MatchOptions) :
    (matchRules tags (prefilter tags rules) options).violations =
      (matchRules tags rules options).violations ∧
    (matchRules tags (prefilter tags rules) options).filtered.skipped =
      (matchRules tags rules options).filtered.skipped ∧
    (matchRules tags (prefilter tags rules) options).filtered.lowPriority =
      (matchRules tags rules options).filtered.lowPriority ∧
    (matchRules tags rules options).filtered.notMatched =
      (matchRules tags (prefilter tags rules) options).filtered.notMatched +
        (rules.length - (prefilter tags rules).length) := by
  refine ⟨?_, ?_, ?_, ?_⟩
  · simp only [matchRules, reported_prefilter]
  · exact countP_verdict_prefilter tags options rules Verdict.isSkipped rfl
  · exact countP_verdict_prefilter tags options rules (· = .lowPriority) rfl
  · have hcount := countP_notMatched_prefilter tags options rules
    have hle : (prefilter tags rules).length ≤ rules.length := List.length_filter_le _ rules
    simp only [matchRules, filteredCounts]
    omega

end Rule

end TagAudit
