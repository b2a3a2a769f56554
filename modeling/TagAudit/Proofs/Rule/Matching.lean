import TagAudit.Proofs.Expression.Evaluation
import TagAudit.Rule.Matching

/-!
# The verdict on a rule (`RuleMatcher.match_rules`)

What can become of a rule, said once with all that decides it, and the violations of a match as a
list of findings that is ordered and then cut.
-/

namespace TagAudit

/-! ### Blank conditions -/

theorem Text.trimStart_eq_nil_iff (cs : List Char) :
    Text.trimStart cs = [] ↔ ∀ c ∈ cs, Text.isBlank c = true := by
  induction cs with
  | nil => simp [Text.trimStart]
  | cons c cs ih =>
    unfold Text.trimStart at ih ⊢
    by_cases hc : Text.isBlank c = true
    · simp [hc, ih]
    · simp [hc]

theorem Text.trim_eq_nil_iff (cs : List Char) :
    Text.trim cs = [] ↔ ∀ c ∈ cs, Text.isBlank c = true := by
  rw [← trimStart_eq_nil_iff, Text.trim, List.reverse_eq_nil_iff, trimStart_eq_nil_iff]
  constructor
  · intro hall
    by_cases hnil : Text.trimStart cs = []
    · exact hnil
    · -- What trimming leaves starts with a character that is not blank.
      have hhead : Text.isBlank ((Text.trimStart cs).head hnil) = false :=
        List.head_dropWhile_not Text.isBlank hnil
      have hblank := hall _ (List.mem_reverse.2 (List.head_mem hnil))
      rw [hhead] at hblank
      exact absurd hblank (by simp)
  · intro hnil c hc
    rw [hnil] at hc
    exact absurd hc (by simp)

namespace Rule

/-- A rule has no condition, or one of blanks only. -/
def HasBlankCondition (r : Rule) : Prop :=
  ∀ c ∈ (r.tagCondition.getD "").toList, Text.isBlank c = true

instance (r : Rule) : Decidable r.HasBlankCondition :=
  inferInstanceAs (Decidable (∀ c ∈ (r.tagCondition.getD "").toList, Text.isBlank c = true))

theorem isUntagged_iff (r : Rule) : r.isUntagged = true ↔ r.HasBlankCondition := by
  rw [HasBlankCondition, ← Text.trim_eq_nil_iff, isUntagged, String.isEmpty_iff, condition,
    Text.trimmed]
  constructor
  · intro h
    simpa using congrArg String.toList h
  · intro h
    rw [h]

/-! ### Verdicts -/

/-- All that can become of a rule, and what decides it. -/
theorem verdict_cases (tags : List String) (options : MatchOptions) (r : Rule) :
    (r.HasBlankCondition ∧ options.skipUntagged = true ∧ r.verdict tags options = .untagged) ∨
    (r.HasBlankCondition ∧ options.skipUntagged = false ∧
      r.verdict tags options = r.applies options "" []) ∨
    (¬ r.HasBlankCondition ∧ ∃ fault, Expression.parse r.condition = .error fault ∧
      r.verdict tags options = .invalid fault) ∨
    (¬ r.HasBlankCondition ∧ ∃ e, Expression.parse r.condition = .ok e ∧ e.holds tags = false ∧
      r.verdict tags options = .notMatched) ∨
    (¬ r.HasBlankCondition ∧ ∃ e, Expression.parse r.condition = .ok e ∧ e.holds tags = true ∧
      r.verdict tags options = r.applies options r.condition (e.outcome tags).matchedTags) := by
  by_cases hblank : r.HasBlankCondition
  · have huntagged := (isUntagged_iff r).2 hblank
    cases hskip : options.skipUntagged with
    | true => exact .inl ⟨hblank, rfl, by simp [verdict, huntagged, hskip]⟩
    | false => exact .inr (.inl ⟨hblank, rfl, by simp [verdict, huntagged, hskip]⟩)
  · have htagged : r.isUntagged = false := by
      rw [← Bool.not_eq_true, isUntagged_iff]
      exact hblank
    refine .inr (.inr ?_)
    cases hparse : Expression.parse r.condition with
    | error fault =>
      refine .inl ⟨hblank, fault, rfl, ?_⟩
      simp [verdict, htagged, Expression.evaluate, hparse, Except.map]
    | ok e =>
      have heval := Expression.evaluate_of_parse hparse tags
      cases hholds : e.holds tags with
      | false =>
        refine .inr (.inl ⟨hblank, e, rfl, hholds, ?_⟩)
        simp [verdict, htagged, heval, Expression.outcome, hholds]
      | true =>
        refine .inr (.inr ⟨hblank, e, rfl, hholds, ?_⟩)
        simp [verdict, htagged, heval, Expression.outcome, hholds]

theorem applies_cases (r : Rule) (options : MatchOptions) (expression : String)
    (matchedTags : List String) :
    ((r.priority : Int) < options.minPriority ∧
      r.applies options expression matchedTags = .lowPriority) ∨
    (options.minPriority ≤ (r.priority : Int) ∧
      r.applies options expression matchedTags = .reported (r.violation expression matchedTags)) := by
  by_cases hlow : (r.priority : Int) < options.minPriority
  · exact .inl ⟨hlow, by simp [applies, hlow]⟩
  · exact .inr ⟨by omega, by simp [applies, hlow]⟩

theorem verdict_eq_reported {tags : List String} {options : MatchOptions} {r : Rule} {v : Violation}
    (h : r.verdict tags options = .reported v) :
    options.minPriority ≤ (r.priority : Int) ∧
      ((r.HasBlankCondition ∧ v = r.violation "" []) ∨
        (¬ r.HasBlankCondition ∧ ∃ e, Expression.parse r.condition = .ok e ∧
          e.holds tags = true ∧ v = r.violation r.condition (e.outcome tags).matchedTags)) := by
  have happlies : ∀ expression matchedTags,
      Verdict.reported v = r.applies options expression matchedTags →
        options.minPriority ≤ (r.priority : Int) ∧ v = r.violation expression matchedTags := by
    intro expression matchedTags heq
    rcases applies_cases r options expression matchedTags with ⟨-, hlow⟩ | ⟨hhigh, hreported⟩
    · rw [hlow] at heq
      exact absurd heq (by simp)
    · rw [hreported] at heq
      exact ⟨hhigh, Verdict.reported.inj heq⟩
  have hcases := verdict_cases tags options r
  rw [h] at hcases
  rcases hcases with ⟨-, -, heq⟩ | ⟨hblank, -, heq⟩ | ⟨-, fault, -, heq⟩ | ⟨-, e, -, -, heq⟩ |
    ⟨hcond, e, hparse, hholds, heq⟩
  · exact absurd heq (by simp)
  · obtain ⟨hhigh, hv⟩ := happlies _ _ heq
    exact ⟨hhigh, .inl ⟨hblank, hv⟩⟩
  · exact absurd heq (by simp)
  · exact absurd heq (by simp)
  · obtain ⟨hhigh, hv⟩ := happlies _ _ heq
    exact ⟨hhigh, .inr ⟨hcond, e, hparse, hholds, hv⟩⟩

/-! ### Findings -/

theorem mem_reported (tags : List String) (options : MatchOptions) (rules : List Rule)
    (r : Rule) (v : Violation) :
    (r, v) ∈ reported tags options rules ↔ r ∈ rules ∧ r.verdict tags options = .reported v := by
  have hviolation : ∀ verdict : Verdict, verdict.violation? = some v ↔ verdict = .reported v := by
    intro verdict
    cases verdict <;> simp [Verdict.violation?]
  simp only [reported, List.mem_filterMap, Option.map_eq_some_iff, Prod.mk.injEq]
  constructor
  · rintro ⟨r', hr', v', hv', rfl, rfl⟩
    exact ⟨hr', (hviolation _).1 hv'⟩
  · rintro ⟨hr, hv⟩
    exact ⟨r, hr, v, (hviolation _).2 hv, rfl, rfl⟩

/-- Neither the order nor the limit that the options ask for changes what is found. -/
theorem reported_congr (tags : List String) (options options' : MatchOptions) (rules : List Rule)
    (hskip : options.skipUntagged = options'.skipUntagged)
    (hmin : options.minPriority = options'.minPriority) :
    reported tags options rules = reported tags options' rules := by
  simp only [reported, verdict, applies, hskip, hmin]

def arranged (options : MatchOptions) (found : List (Rule × Violation)) :
    List (Rule × Violation) :=
  if options.sortByPriority then found.mergeSort fun a b => a.1.comesFirst b.1 else found

theorem arranged_of_sort {options : MatchOptions} (h : options.sortByPriority = true)
    (found : List (Rule × Violation)) :
    arranged options found = found.mergeSort fun a b => a.1.comesFirst b.1 := by
  rw [arranged, if_pos h]

theorem arranged_of_not_sort {options : MatchOptions} (h : options.sortByPriority = false)
    (found : List (Rule × Violation)) : arranged options found = found := by
  rw [arranged, if_neg (by simp [h])]

theorem arranged_perm (options : MatchOptions) (found : List (Rule × Violation)) :
    (arranged options found).Perm found := by
  unfold arranged
  split
  · exact List.mergeSort_perm _ _
  · exact List.Perm.refl _

/-- As many entries of a list as the options allow. -/
def MatchOptions.cut {α : Type} (options : MatchOptions) (entries : List α) : List α :=
  match options.maxResults with
  | none => entries
  | some limit => entries.take limit

theorem MatchOptions.cut_of_none {α : Type} {options : MatchOptions} (h : options.maxResults = none)
    (entries : List α) : options.cut entries = entries := by
  simp only [cut, h]

theorem MatchOptions.cut_of_some {α : Type} {options : MatchOptions} {limit : Nat}
    (h : options.maxResults = some limit) (entries : List α) :
    options.cut entries = entries.take limit := by
  simp only [cut, h]

theorem MatchOptions.cut_map {α β : Type} (options : MatchOptions) (f : α → β) (entries : List α) :
    options.cut (entries.map f) = (options.cut entries).map f := by
  cases h : options.maxResults with
  | none => rw [cut_of_none h, cut_of_none h]
  | some limit => rw [cut_of_some h, cut_of_some h, List.map_take]

theorem MatchOptions.length_cut {α : Type} (options : MatchOptions) (entries : List α) :
    (options.cut entries).length =
      min (options.maxResults.getD entries.length) entries.length := by
  cases h : options.maxResults with
  | none => simp [cut_of_none h]
  | some limit => simp [cut_of_some h]

theorem MatchOptions.cut_sublist {α : Type} (options : MatchOptions) (entries : List α) :
    (options.cut entries).Sublist entries := by
  cases h : options.maxResults with
  | none => simp [cut_of_none h]
  | some limit =>
    rw [cut_of_some h]
    exact List.take_sublist limit entries

theorem matchRules_violations (tags : List String) (rules : List Rule) (options : MatchOptions) :
    (matchRules tags rules options).violations =
      (options.cut (arranged options (reported tags options rules))).map Prod.snd := by
  rw [← MatchOptions.cut_map]
  rfl

theorem mem_violations_iff {options : MatchOptions} (hlimit : options.maxResults = none)
    (tags : List String) (rules : List Rule) (v : Violation) :
    v ∈ (matchRules tags rules options).violations ↔
      ∃ r ∈ rules, r.verdict tags options = .reported v := by
  rw [matchRules_violations, MatchOptions.cut_of_none hlimit, List.mem_map]
  constructor
  · intro h
    obtain ⟨⟨r, v'⟩, hmem, rfl⟩ := h
    rw [(arranged_perm options _).mem_iff, mem_reported] at hmem
    exact ⟨r, hmem⟩
  · intro h
    obtain ⟨r, hr, hv⟩ := h
    refine ⟨(r, v), ?_, rfl⟩
    rw [(arranged_perm options _).mem_iff, mem_reported]
    exact ⟨hr, hv⟩

theorem matchRules_totalRules (tags : List String) (rules : List Rule) (options : MatchOptions) :
    (matchRules tags rules options).totalRules = rules.length := rfl

theorem matchRules_filtered (tags : List String) (rules : List Rule) (options : MatchOptions) :
    (matchRules tags rules options).filtered =
      filteredCounts (rules.map (·.verdict tags options)) := rfl

end Rule

end TagAudit
