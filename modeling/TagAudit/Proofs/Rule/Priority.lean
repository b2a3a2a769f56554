import Mathlib.Data.List.Basic
import TagAudit.Proofs.Rule.Matching
import TagAudit.Proofs.StableSort

/-!
# The order of violations (`calculate_priority`, `RuleMatcher.match_rules`)

Violations are ordered by severity, category, effort of repair and position. No category counts as
much as the step from one severity to the next, so this is the order by priority, a single number,
with ties by effort. Hence a lower bound on the priority and a limit on the number of violations
both keep a leading part of the ordered list.
-/

namespace TagAudit

/-! ### Weights -/

theorem Category.weight_lt (category : String) : Category.weight category < 25 := by
  have hall : ∀ entry ∈ Category.weights, entry.2 < 25 := by decide
  unfold Category.weight
  cases h : Category.weights.lookup category with
  | none => simp
  | some w => exact hall (category, w) (mem_of_lookup h)

theorem Severity.weight_gap (s t : Severity) (h : s.weight < t.weight) :
    s.weight + 25 ≤ t.weight := by
  cases s <;> cases t <;> simp_all [Severity.weight]

namespace Rule

theorem priority_lt_iff (a b : Rule) :
    a.priority < b.priority ↔ a.severity.weight < b.severity.weight ∨
      (a.severity.weight = b.severity.weight ∧ a.categoryWeight < b.categoryWeight) := by
  have ha : a.categoryWeight < 25 := Category.weight_lt _
  have hb : b.categoryWeight < 25 := Category.weight_lt _
  have hab := Severity.weight_gap a.severity b.severity
  have hba := Severity.weight_gap b.severity a.severity
  unfold priority
  omega

theorem priority_eq_iff (a b : Rule) :
    a.priority = b.priority ↔
      a.severity.weight = b.severity.weight ∧ a.categoryWeight = b.categoryWeight := by
  have hab := priority_lt_iff a b
  have hba := priority_lt_iff b a
  omega

/-! ### Keys -/

/-- The key by priority, highest first, and then by effort of repair. -/
def priorityKey (r : Rule) : ℤ ×ₗ ℕ :=
  toLex (-(r.priority : ℤ), FixEffort.rank r.fixEffort)

/-- The key by severity and category, highest first, and then by effort of repair and position. -/
def rankKey (r : Rule) (position : ℕ) : ℤ ×ₗ ℤ ×ₗ ℕ ×ₗ ℕ :=
  toLex (-(r.severity.weight : ℤ), toLex (-(r.categoryWeight : ℤ),
    toLex (FixEffort.rank r.fixEffort, position)))

theorem priorityKey_le_iff (a b : Rule) :
    a.priorityKey ≤ b.priorityKey ↔ b.priority < a.priority ∨
      (b.priority = a.priority ∧ FixEffort.rank a.fixEffort ≤ FixEffort.rank b.fixEffort) := by
  simp only [priorityKey, Prod.Lex.toLex_le_toLex]
  omega

theorem priorityKey_lt_iff (a b : Rule) :
    a.priorityKey < b.priorityKey ↔ b.priority < a.priority ∨
      (b.priority = a.priority ∧ FixEffort.rank a.fixEffort < FixEffort.rank b.fixEffort) := by
  simp only [priorityKey, Prod.Lex.toLex_lt_toLex]
  omega

theorem priorityKey_eq_iff (a b : Rule) :
    a.priorityKey = b.priorityKey ↔ b.priority = a.priority ∧
      FixEffort.rank a.fixEffort = FixEffort.rank b.fixEffort := by
  simp only [priorityKey, EmbeddingLike.apply_eq_iff_eq, Prod.mk.injEq]
  omega

/-- The order by the four parts is that by priority, effort and position. -/
theorem rankKey_lt_iff (a b : Rule) (i j : ℕ) :
    a.rankKey i < b.rankKey j ↔ toLex (a.priorityKey, i) < toLex (b.priorityKey, j) := by
  have hlt := priority_lt_iff b a
  have heq := priority_eq_iff b a
  simp only [rankKey, Prod.Lex.toLex_lt_toLex, priorityKey_lt_iff, priorityKey_eq_iff]
  omega

theorem comesFirst_iff (a b : Rule) : a.comesFirst b = true ↔ a.priorityKey ≤ b.priorityKey := by
  have hlt := priority_lt_iff b a
  have heq := priority_eq_iff b a
  rw [priorityKey_le_iff, hlt, heq]
  unfold comesFirst
  split
  · rename_i hsev
    rw [decide_eq_true_eq]
    omega
  · split
    · rw [decide_eq_true_eq]
      omega
    · rw [decide_eq_true_eq]
      omega

/-! ### Findings by priority -/

/-- The options with violations by priority and without a limit. -/
def MatchOptions.prioritized (options : MatchOptions) : MatchOptions :=
  { options with sortByPriority := true, maxResults := none }

theorem priority_of_mem_reported {tags : List String} {options : MatchOptions} {rules : List Rule}
    {entry : Rule × Violation} (h : entry ∈ reported tags options rules) :
    entry.2.priority = entry.1.priority := by
  obtain ⟨r, v⟩ := entry
  obtain ⟨-, hverdict⟩ := (mem_reported tags options rules r v).1 h
  rcases (verdict_eq_reported hverdict).2 with ⟨-, rfl⟩ | ⟨-, e, -, -, rfl⟩
  · rfl
  · rfl

theorem stableSort_arranged (options : MatchOptions) (h : options.sortByPriority = true)
    (found : List (Rule × Violation)) :
    StableSort (fun entry => entry.1.priorityKey) found (arranged options found) := by
  rw [arranged_of_sort h]
  refine stableSort_mergeSort (fun entry => entry.1.priorityKey) (fun entry => entry.1.priorityKey)
    _ found (fun a b => comesFirst_iff a.1 b.1) (fun a b hab => hab) ?_
  exact List.pairwise_of_forall fun a b => le_of_eq

theorem violation?_applies (r : Rule) (options : MatchOptions) (expression : String)
    (matchedTags : List String) :
    (r.applies options expression matchedTags).violation? =
      if options.minPriority ≤ (r.priority : Int) then some (r.violation expression matchedTags)
      else none := by
  rcases applies_cases r options expression matchedTags with ⟨hlow, h⟩ | ⟨hhigh, h⟩
  · rw [h, if_neg (by omega)]
    rfl
  · rw [h, if_pos hhigh]
    rfl

theorem violation?_verdict (tags : List String) (options : MatchOptions) (m : Int) (r : Rule) :
    (r.verdict tags { options with minPriority := m }).violation? =
      if m ≤ (r.priority : Int) then
        (r.verdict tags { options with minPriority := 0 }).violation?
      else none := by
  have hzero : (0 : Int) ≤ (r.priority : Int) := by omega
  unfold verdict
  by_cases huntagged : r.isUntagged = true
  · cases hskip : options.skipUntagged with
    | true => simp [huntagged, Verdict.violation?]
    | false => simp [huntagged, violation?_applies]
  · cases heval : Expression.evaluate r.condition tags with
    | error fault => simp [huntagged, Verdict.violation?]
    | ok outcome =>
      cases hresult : outcome.result with
      | true => simp [huntagged, hresult, violation?_applies]
      | false => simp [huntagged, hresult, Verdict.violation?]

/-- A lower bound on the priority selects among the findings. -/
theorem reported_minPriority (tags : List String) (options : MatchOptions) (rules : List Rule)
    (m : Int) :
    reported tags { options with minPriority := m } rules =
      (reported tags { options with minPriority := 0 } rules).filter
        fun entry => m ≤ (entry.1.priority : Int) := by
  unfold reported
  rw [List.filter_filterMap]
  refine List.filterMap_congr fun r _ => ?_
  rw [violation?_verdict tags options m r]
  by_cases hm : m ≤ (r.priority : Int)
  · rw [if_pos hm]
    cases (r.verdict tags { options with minPriority := 0 }).violation? with
    | none => rfl
    | some v => simp [Option.filter, hm]
  · rw [if_neg hm]
    cases (r.verdict tags { options with minPriority := 0 }).violation? with
    | none => rfl
    | some v => simp [Option.filter, hm]

/-! ### Findings with their positions -/

/-- The findings together with the positions of their rules. -/
def ranked (tags : List String) (options : MatchOptions) (rules : List Rule) :
    List ((Rule × ℕ) × Violation) :=
  rules.zipIdx.filterMap fun entry => ((entry.1.verdict tags options).violation?).map (entry, ·)

theorem ranked_map (tags : List String) (options : MatchOptions) (rules : List Rule) :
    (ranked tags options rules).map (fun entry => (entry.1.1, entry.2)) =
      reported tags options rules := by
  have hrules : reported tags options rules =
      reported tags options (rules.zipIdx.map Prod.fst) := by rw [List.zipIdx_map_fst]
  rw [hrules, reported, ranked, List.map_filterMap, List.filterMap_map]
  refine List.filterMap_congr fun entry _ => ?_
  simp only [Option.map_map, Function.comp_def]

theorem ranked_pairwise (tags : List String) (options : MatchOptions) (rules : List Rule) :
    (ranked tags options rules).Pairwise fun a b => a.1.2 < b.1.2 := by
  have hpositions : rules.zipIdx.Pairwise fun a b => a.2 < b.2 := by
    rw [← List.pairwise_map (f := Prod.snd) (R := (· < ·)), List.zipIdx_map_snd]
    exact List.pairwise_lt_range' 1
  refine List.Pairwise.filterMap _ ?_ hpositions
  intro a b hab x hx y hy
  obtain ⟨v, -, rfl⟩ := Option.map_eq_some_iff.1 hx
  obtain ⟨w, -, rfl⟩ := Option.map_eq_some_iff.1 hy
  exact hab

theorem rankKey_le_iff (a b : Rule) (i j : ℕ) :
    a.rankKey i ≤ b.rankKey j ↔ toLex (a.priorityKey, i) ≤ toLex (b.priorityKey, j) := by
  rw [← not_lt, ← not_lt, rankKey_lt_iff]

/-- Sorting the findings by all four parts of their keys gives the findings by priority. -/
theorem ranked_mergeSort (tags : List String) (options : MatchOptions) (rules : List Rule) :
    (((ranked tags options rules).mergeSort fun a b =>
        a.1.1.rankKey a.1.2 ≤ b.1.1.rankKey b.1.2).map fun entry => (entry.1.1, entry.2)) =
      arranged options.prioritized (reported tags options rules) := by
  have hsort : StableSort (fun entry => entry.1.1.priorityKey) (ranked tags options rules)
      ((ranked tags options rules).mergeSort fun a b =>
        a.1.1.rankKey a.1.2 ≤ b.1.1.rankKey b.1.2) := by
    refine stableSort_mergeSort (fun entry : (Rule × ℕ) × Violation => entry.1.1.priorityKey)
      (fun entry => entry.1.1.rankKey entry.1.2) _ _ (fun a b => decide_eq_true_iff) ?_ ?_
    · intro a b hab
      rw [rankKey_le_iff, Prod.Lex.toLex_le_toLex] at hab
      rcases hab with hlt | ⟨heq, -⟩
      · exact le_of_lt hlt
      · exact le_of_eq heq
    · refine (ranked_pairwise tags options rules).imp ?_
      intro a b hposition hkey
      rw [rankKey_le_iff, Prod.Lex.toLex_le_toLex]
      exact .inr ⟨hkey, le_of_lt hposition⟩
  have hmap := hsort.map (fun entry => (entry.1.1, entry.2)) (fun entry => entry.1.priorityKey)
    (fun _ => rfl)
  rw [ranked_map] at hmap
  exact hmap.unique (stableSort_arranged options.prioritized rfl (reported tags options rules))

/-! ### The list by priority -/

theorem violations_unsorted (tags : List String) (rules : List Rule) (options : MatchOptions) :
    (matchRules tags rules { options.prioritized with sortByPriority := false }).violations =
      (reported tags options rules).map Prod.snd := by
  rw [matchRules_violations, MatchOptions.cut_of_none rfl, arranged_of_not_sort rfl]
  exact congrArg _ (reported_congr tags _ options rules rfl rfl)

theorem violations_prioritized (tags : List String) (rules : List Rule) (options : MatchOptions) :
    (matchRules tags rules options.prioritized).violations =
      (arranged options.prioritized (reported tags options rules)).map Prod.snd := by
  rw [matchRules_violations, MatchOptions.cut_of_none rfl,
    reported_congr tags options.prioritized options rules rfl rfl]

theorem violations_limited (tags : List String) (rules : List Rule) (options : MatchOptions)
    (k : ℕ) :
    (matchRules tags rules { options.prioritized with maxResults := some k }).violations =
      (matchRules tags rules options.prioritized).violations.take k := by
  have hfound : reported tags { options.prioritized with maxResults := some k } rules =
      reported tags options rules := reported_congr tags _ options rules rfl rfl
  rw [matchRules_violations, violations_prioritized, ← List.map_take, hfound,
    MatchOptions.cut_of_some rfl, arranged_of_sort rfl, arranged_of_sort rfl]

theorem prioritized_pairwise (tags : List String) (rules : List Rule) (options : MatchOptions) :
    (matchRules tags rules options.prioritized).violations.Pairwise
      fun v w => w.priority ≤ v.priority := by
  rw [violations_prioritized, List.pairwise_map]
  have hperm := arranged_perm options.prioritized (reported tags options rules)
  have hsorted := (stableSort_arranged options.prioritized rfl (reported tags options rules)).ordered
  refine hsorted.imp_of_mem ?_
  intro a b ha hb hab
  rw [priority_of_mem_reported (hperm.mem_iff.1 ha), priority_of_mem_reported (hperm.mem_iff.1 hb)]
  rw [priorityKey_le_iff] at hab
  omega

theorem arranged_filter (options : MatchOptions) (h : options.sortByPriority = true)
    (found : List (Rule × Violation)) (p : Rule × Violation → Bool) :
    arranged options (found.filter p) = (arranged options found).filter p :=
  (stableSort_arranged options h (found.filter p)).unique
    ((stableSort_arranged options h found).filter p)

theorem prioritized_minPriority (tags : List String) (rules : List Rule) (options : MatchOptions)
    (m : Int) :
    (matchRules tags rules { options.prioritized with minPriority := m }).violations =
      (matchRules tags rules { options.prioritized with minPriority := 0 }).violations.takeWhile
        fun v => m ≤ v.priority := by
  have hm := violations_prioritized tags rules { options with minPriority := m }
  have hzero := violations_prioritized tags rules { options with minPriority := 0 }
  have hpairwise := prioritized_pairwise tags rules { options with minPriority := 0 }
  have hselect : (matchRules tags rules { options.prioritized with minPriority := m }).violations =
      (matchRules tags rules { options.prioritized with minPriority := 0 }).violations.filter
        fun v => m ≤ v.priority := by
    refine hm.trans (Eq.trans ?_ (congrArg _ hzero.symm))
    rw [reported_minPriority, arranged_filter _ rfl, List.filter_map]
    refine congrArg _ (List.filter_congr fun entry hentry => ?_)
    have hfound := (arranged_perm _ _).mem_iff.1 hentry
    simp only [Function.comp_apply, priority_of_mem_reported hfound]
  rw [hselect, takeWhile_eq_filter_of_pairwise]
  refine hpairwise.imp ?_
  intro v w hvw
  simp only [decide_eq_true_eq]
  omega

theorem lowPriority_of_minPriority_zero (tags : List String) (rules : List Rule)
    (options : MatchOptions) (h : options.minPriority = 0) :
    (matchRules tags rules options).filtered.lowPriority = 0 := by
  have happlies : ∀ (r : Rule) (expression : String) (matchedTags : List String),
      r.applies options expression matchedTags ≠ .lowPriority := by
    intro r expression matchedTags
    rcases applies_cases r options expression matchedTags with ⟨hlow, -⟩ | ⟨-, hreported⟩
    · rw [h] at hlow
      omega
    · rw [hreported]
      simp
  rw [matchRules_filtered, filteredCounts, List.countP_eq_zero]
  intro verdict hverdict
  obtain ⟨r, -, rfl⟩ := List.mem_map.1 hverdict
  rw [decide_eq_true_eq]
  rcases verdict_cases tags options r with ⟨-, -, h⟩ | ⟨-, -, h⟩ | ⟨-, fault, -, h⟩ |
    ⟨-, e, -, -, h⟩ | ⟨-, e, -, -, h⟩
  · rw [h]
    simp
  · rw [h]
    exact happlies r _ _
  · rw [h]
    simp
  · rw [h]
    simp
  · rw [h]
    exact happlies r _ _

/-- The violations by priority are the stable sort of those in the order of the rules by priority and
effort, and the order by severity, category, effort and position is the same. So priorities never
increase along the list, a lower bound keeps the leading part that reaches it, and a limit keeps the
first violations, of which none has a lower priority than one that is dropped. -/
theorem matchRules_by_priority (tags : List String) (rules : List Rule) (options : MatchOptions) :
    (∀ (a b : Rule) (i j : ℕ),
      a.rankKey i < b.rankKey j ↔ toLex (a.priorityKey, i) < toLex (b.priorityKey, j)) ∧
    (matchRules tags rules { options.prioritized with sortByPriority := false }).violations =
      (reported tags options rules).map Prod.snd ∧
    (∀ entry ∈ reported tags options rules, entry.2.priority = entry.1.priority) ∧
    (∃ ordered : List (Rule × Violation),
      StableSort (fun entry => entry.1.priorityKey) (reported tags options rules) ordered ∧
      (matchRules tags rules options.prioritized).violations = ordered.map Prod.snd) ∧
    (matchRules tags rules options.prioritized).violations =
      ((ranked tags options rules).mergeSort fun a b =>
        a.1.1.rankKey a.1.2 ≤ b.1.1.rankKey b.1.2).map Prod.snd ∧
    ((matchRules tags rules options.prioritized).violations.Pairwise
      fun v w => w.priority ≤ v.priority) ∧
    (matchRules tags rules
      { options.prioritized with minPriority := 0 }).filtered.lowPriority = 0 ∧
    (∀ m : Int,
      (matchRules tags rules { options.prioritized with minPriority := m }).violations =
        (matchRules tags rules { options.prioritized with minPriority := 0 }).violations.takeWhile
          fun v => m ≤ v.priority) ∧
    ∀ k : ℕ,
      (matchRules tags rules { options.prioritized with maxResults := some k }).violations =
        (matchRules tags rules options.prioritized).violations.take k ∧
      ∀ kept ∈ (matchRules tags rules options.prioritized).violations.take k,
        ∀ dropped ∈ (matchRules tags rules options.prioritized).violations.drop k,
          dropped.priority ≤ kept.priority := by
  refine ⟨rankKey_lt_iff, violations_unsorted tags rules options,
    fun entry hentry => priority_of_mem_reported hentry,
    ⟨arranged options.prioritized (reported tags options rules),
      stableSort_arranged options.prioritized rfl _, violations_prioritized tags rules options⟩,
    ?_, prioritized_pairwise tags rules options, ?_, prioritized_minPriority tags rules options, ?_⟩
  · rw [violations_prioritized, ← ranked_mergeSort, List.map_map]
    rfl
  · exact lowPriority_of_minPriority_zero tags rules _ rfl
  · intro k
    refine ⟨violations_limited tags rules options k, ?_⟩
    have hpairwise := prioritized_pairwise tags rules options
    rw [← List.take_append_drop k (matchRules tags rules options.prioritized).violations,
      List.pairwise_append] at hpairwise
    intro kept hkept dropped hdropped
    exact hpairwise.2.2 kept hkept dropped hdropped

end Rule

end TagAudit
