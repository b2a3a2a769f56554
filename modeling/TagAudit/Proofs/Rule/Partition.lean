import TagAudit.Proofs.Grouping
import TagAudit.Proofs.Rule.Accounting
import TagAudit.Proofs.Rule.Priority

/-!
# Violations in groups (`group_by_category`, `group_by_severity`, `summarize_violations`)

The groups by category and those by severity each have every violation once. A summary counts the
violations of each group, so its counts add up to their number. Violations that were found by
priority come by severity first, so the groups by severity, one after the other, are the list as it
was found.
-/

namespace TagAudit

namespace Rule

variable {tags : List String} {options : MatchOptions} {rules : List Rule}

theorem severity_of_mem_reported {entry : Rule × Violation}
    (h : entry ∈ reported tags options rules) : entry.2.severity = entry.1.severity := by
  have hverdict := ((mem_reported tags options rules entry.1 entry.2).1 h).2
  exact (reports_violation tags options entry.1 entry.2 hverdict).severity

theorem severity_weight_le {a b : Rule} (h : a.priorityKey ≤ b.priorityKey) :
    b.severity.weight ≤ a.severity.weight := by
  have hlt := priority_lt_iff b a
  have heq := priority_eq_iff b a
  rw [priorityKey_le_iff] at h
  omega

theorem violations_by_severity (h : options.sortByPriority = true) :
    (matchRules tags rules options).violations.Pairwise
      fun v w => w.severity.weight ≤ v.severity.weight := by
  have hperm := arranged_perm options (reported tags options rules)
  have hordered := (stableSort_arranged options h (reported tags options rules)).ordered
  have hcut := hordered.sublist (options.cut_sublist (arranged options (reported tags options rules)))
  rw [matchRules_violations, List.pairwise_map]
  refine hcut.imp_of_mem ?_
  intro a b ha hb hab
  have hmem : ∀ {entry}, entry ∈ options.cut (arranged options (reported tags options rules)) →
      entry ∈ reported tags options rules := by
    intro entry hentry
    exact hperm.mem_iff.1 ((options.cut_sublist _).subset hentry)
  rw [severity_of_mem_reported (hmem ha), severity_of_mem_reported (hmem hb)]
  exact severity_weight_le hab

end Rule

namespace Violation

variable (violations : List Violation)

/-! ### Groups by category -/

theorem grouping_byCategory : Grouping group violations (byCategory violations) := by
  refine Grouping.of_keys (nodup_eraseDups _) ?_
  intro v hv
  rw [List.mem_eraseDups]
  exact List.mem_map_of_mem hv

theorem keys_byCategory :
    (byCategory violations).map Prod.fst = (violations.map group).eraseDups := by
  rw [byCategory, List.map_map]
  exact List.map_id _

theorem byCategory_ne_nil {g : String × List Violation} (h : g ∈ byCategory violations) :
    g.2 ≠ [] := by
  have hkey : g.1 ∈ (byCategory violations).map Prod.fst := List.mem_map_of_mem h
  rw [keys_byCategory, List.mem_eraseDups] at hkey
  obtain ⟨v, hv, hgroup⟩ := List.mem_map.1 hkey
  rw [(grouping_byCategory violations).group g h]
  apply List.ne_nil_of_mem (a := v)
  rw [List.mem_filter]
  exact ⟨hv, by simp [hgroup]⟩

/-! ### Groups by severity -/

theorem grouping_bySeverity : Grouping severity violations (bySeverity violations) :=
  Grouping.of_keys (by decide) fun v _ => v.severity.mem_all

theorem keys_bySeverity : (bySeverity violations).map Prod.fst = Severity.all := rfl

theorem eraseDups_all_append (severities : List Severity) :
    (Severity.all ++ severities).eraseDups = Severity.all := by
  have hnone : severities.removeAll Severity.all = [] := by
    rw [List.removeAll, List.filter_eq_nil_iff]
    intro severity _
    simp [severity.mem_all]
  rw [List.eraseDups_append, hnone]
  rfl

/-- The groups by severity, one after the other, are the violations sorted by severity. -/
theorem stableSort_bySeverity :
    StableSort (fun v => -(v.severity.weight : ℤ)) violations
      ((bySeverity violations).flatMap Prod.snd) := by
  refine (grouping_bySeverity violations).stableSort (fun s => -(s.weight : ℤ)) ?_
  rw [keys_bySeverity]
  decide

theorem flatMap_bySeverity_of_pairwise
    (h : violations.Pairwise fun v w => w.severity.weight ≤ v.severity.weight) :
    (bySeverity violations).flatMap Prod.snd = violations := by
  have hself : StableSort (fun v => -(v.severity.weight : ℤ)) violations violations := by
    refine ⟨h.imp ?_, fun _ => rfl⟩
    intro v w hvw
    omega
  exact (stableSort_bySeverity violations).unique hself

/-! ### Summaries -/

theorem sumOf_bySeverity :
    sumOf Prod.snd (ViolationSummary.ofList violations).bySeverity = violations.length := by
  rw [ViolationSummary.ofList, sumOf_map]
  exact (grouping_bySeverity violations).sumOf_length

theorem sumOf_byCategory :
    sumOf Prod.snd (ViolationSummary.ofList violations).byCategory = violations.length := by
  rw [ViolationSummary.ofList, sumOf_map]
  exact (grouping_byCategory violations).sumOf_length

theorem nodup_words_summary :
    ((ViolationSummary.ofList violations).bySeverity.map fun e => e.1.word).Nodup := by
  have hwords : ((ViolationSummary.ofList violations).bySeverity.map fun e => e.1.word) =
      Severity.all.map Severity.word := rfl
  rw [hwords]
  decide

theorem nodup_categories_summary :
    ((ViolationSummary.ofList violations).byCategory.map Prod.fst).Nodup := by
  have hkeys : (ViolationSummary.ofList violations).byCategory.map Prod.fst =
      (byCategory violations).map Prod.fst := by
    rw [ViolationSummary.ofList, List.map_map]
    rfl
  rw [hkeys]
  exact (grouping_byCategory violations).distinct

theorem mem_bySeverity_summary_iff (severity : Severity) (count : Nat) :
    (severity, count) ∈ (ViolationSummary.ofList violations).bySeverity ↔
      count = violations.countP (·.severity = severity) := by
  rw [ViolationSummary.ofList, List.mem_map, List.countP_eq_length_filter]
  constructor
  · intro h
    obtain ⟨g, hg, heq⟩ := h
    obtain ⟨rfl, rfl⟩ := Prod.mk.inj heq
    rw [(grouping_bySeverity violations).group g hg]
  · intro h
    refine ⟨(severity, violations.filter (·.severity = severity)), ?_, by rw [h]⟩
    exact List.mem_map.2 ⟨severity, severity.mem_all, rfl⟩

theorem mem_byCategory_summary_iff (category : String) (count : Nat) :
    (category, count) ∈ (ViolationSummary.ofList violations).byCategory ↔
      count = violations.countP (·.group = category) ∧ count ≠ 0 := by
  rw [ViolationSummary.ofList, List.mem_map, List.countP_eq_length_filter]
  constructor
  · intro h
    obtain ⟨g, hg, heq⟩ := h
    obtain ⟨rfl, rfl⟩ := Prod.mk.inj heq
    have hne := byCategory_ne_nil violations hg
    refine ⟨?_, fun hzero => hne (List.length_eq_zero_iff.1 hzero)⟩
    rw [(grouping_byCategory violations).group g hg]
  · intro h
    obtain ⟨hcount, hpos⟩ := h
    rw [hcount] at hpos
    obtain ⟨v, hv⟩ := List.exists_mem_of_length_pos (Nat.pos_of_ne_zero hpos)
    obtain ⟨hmem, hgroup⟩ := List.mem_filter.1 hv
    refine ⟨(category, violations.filter (·.group = category)), ?_, by rw [hcount]⟩
    refine List.mem_map.2 ⟨category, ?_, rfl⟩
    rw [List.mem_eraseDups, List.mem_map]
    exact ⟨v, hmem, by simpa using hgroup⟩

/-! ### The laws of grouping -/

/-- Each violation is in one group by category and in one by severity, and the groups together are
the violations in some order. A group has its violations in the order of the list, and no group by
category is empty. Both kinds of groups are made in one pass, by category from no groups and by
severity from one empty group for each grade. A summary has the sizes of the groups, which add up to
the number of violations, and the first five violations. Of violations by priority, the groups by
severity in their order are the list itself. -/
theorem groups_partition (violations : List Violation) :
    let summary := ViolationSummary.ofList violations
    (∀ v ∈ violations, (∃! g, g ∈ byCategory violations ∧ v ∈ g.2) ∧
      ∃! g, g ∈ bySeverity violations ∧ v ∈ g.2) ∧
    (∀ g ∈ byCategory violations,
      g.2 = violations.filter (·.group = g.1) ∧ g.2.Sublist violations ∧ g.2 ≠ []) ∧
    (∀ g ∈ bySeverity violations,
      g.2 = violations.filter (·.severity = g.1) ∧ g.2.Sublist violations) ∧
    ((byCategory violations).flatMap Prod.snd).Perm violations ∧
    ((bySeverity violations).flatMap Prod.snd).Perm violations ∧
    byCategory violations = violations.foldl (Grouping.enter group) [] ∧
    bySeverity violations =
      violations.foldl (Grouping.enter severity) (Severity.all.map fun s => (s, [])) ∧
    (summary.total = violations.length ∧
      sumOf Prod.snd summary.bySeverity = summary.total ∧
      sumOf Prod.snd summary.byCategory = summary.total ∧
      (∀ severity count, (severity, count) ∈ summary.bySeverity ↔
        count = violations.countP (·.severity = severity)) ∧
      (∀ category count, (category, count) ∈ summary.byCategory ↔
        count = violations.countP (·.group = category) ∧ count ≠ 0) ∧
      (summary.bySeverity.map fun e => e.1.word).Nodup ∧
      (summary.byCategory.map Prod.fst).Nodup ∧
      summary.top = violations.take 5 ∧
      summary.toDocument = .object
        [("total", .ofNat summary.total),
          ("by_severity", .object (summary.bySeverity.map fun e => (e.1.word, .ofNat e.2))),
          ("by_category", .object (summary.byCategory.map fun e => (e.1, .ofNat e.2))),
          ("top_violations", .list (summary.top.map brief))]) ∧
    ∀ (tags : List String) (rules : List Rule) (options : Rule.MatchOptions),
      let found := (Rule.matchRules tags rules { options with sortByPriority := true }).violations
      (bySeverity found).flatMap Prod.snd = found := by
  intro summary
  have hcategory := grouping_byCategory violations
  have hseverity := grouping_bySeverity violations
  refine ⟨fun v hv => ⟨hcategory.existsUnique hv, hseverity.existsUnique hv⟩,
    fun g hg => ⟨hcategory.group g hg, hcategory.sublist hg, byCategory_ne_nil violations hg⟩,
    fun g hg => ⟨hseverity.group g hg, hseverity.sublist hg⟩, hcategory.flatMap_perm,
    hseverity.flatMap_perm, ?categoryPass, ?severityPass, ?summary, ?found⟩
  case categoryPass => exact hcategory.eq_foldl List.nodup_nil (keys_byCategory violations)
  case severityPass =>
    refine hseverity.eq_foldl (by decide) ?_
    rw [keys_bySeverity, eraseDups_all_append]
  case summary =>
    exact ⟨rfl, sumOf_bySeverity violations, sumOf_byCategory violations,
      mem_bySeverity_summary_iff violations, mem_byCategory_summary_iff violations,
      nodup_words_summary violations, nodup_categories_summary violations, rfl, rfl⟩
  case found =>
    intro tags rules options found
    exact flatMap_bySeverity_of_pairwise found (Rule.violations_by_severity rfl)

/-- Three violations, of which the last has no category. -/
def mixed : List Violation :=
  [⟨"R1", "", "style", .low, "A", ["A"], 31, "", ""⟩,
    ⟨"R2", "", "unknown", .critical, "B", ["B"], 100, "", ""⟩,
    ⟨"R3", "", "", .low, "", [], 25, "", ""⟩]

theorem groups_partition_of_mixed :
    (∃! g, g ∈ byCategory mixed ∧ (⟨"R3", "", "", .low, "", [], 25, "", ""⟩ : Violation) ∈ g.2) ∧
    ("unknown", mixed.drop 1) ∈ byCategory mixed ∧
    mixed.drop 1 = mixed.filter (·.group = "unknown") ∧
    (bySeverity mixed).flatMap Prod.snd ≠ mixed ∧
    ((bySeverity mixed).flatMap Prod.snd).Perm mixed := by
  have hgroup : ("unknown", mixed.drop 1) ∈ byCategory mixed := by decide
  obtain ⟨honce, hcategory, -, -, hperm, -⟩ := groups_partition mixed
  exact ⟨(honce _ (by decide)).1, hgroup, (hcategory _ hgroup).1, by decide, hperm⟩

end Violation

end TagAudit
