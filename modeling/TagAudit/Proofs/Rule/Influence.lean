import TagAudit.Compound
import TagAudit.Proofs.Expression.Inspection
import TagAudit.Proofs.Table
import TagAudit.Rule.Matching

/-!
# The influence of one tag (`find_rules_by_tag`, `depends_on`)

Two tag sets that differ at most in one tag are compared on everything that is computed from them. An
evaluation asks only for the tags that the condition mentions, so a rule or a compound tag whose
condition does not mention the tag in question comes out the same on both.
-/

namespace TagAudit

/-- Two sets of tags that differ at most in one tag. -/
def AgreeExcept (tag : String) (tags tags' : List String) : Prop :=
  ∀ t, t ≠ tag → (t ∈ tags ↔ t ∈ tags')

namespace Expression

/-! ### What an evaluation asks for -/

theorem witness_congr {tags tags' : List String} {e : Expression}
    (h : ∀ a ∈ e.atoms, (a.1 ∈ tags ↔ a.1 ∈ tags')) : e.witness tags = e.witness tags' := by
  induction e with
  | atom name negated =>
    have hname : name ∈ tags ↔ name ∈ tags' := h (name, negated) (by simp [atoms])
    cases negated with
    | false => rw [witness_tag, witness_tag, if_congr hname rfl rfl]
    | true => rw [witness_negatedTag, witness_negatedTag, if_congr hname rfl rfl]
  | not e ih =>
    have he := ih h
    rw [witness_not, witness_not, he]
  | and l r ihl ihr =>
    have hl := ihl fun a ha => h a (List.mem_append_left _ ha)
    have hr := ihr fun a ha => h a (List.mem_append_right _ ha)
    rw [witness_and, witness_and, hl, hr]
  | or l r ihl ihr =>
    have hl := ihl fun a ha => h a (List.mem_append_left _ ha)
    have hr := ihr fun a ha => h a (List.mem_append_right _ ha)
    rw [witness_or, witness_or, hl, hr]

theorem witness_of_agree {tag : String} {tags tags' : List String} (h : AgreeExcept tag tags tags')
    {e : Expression} (he : e.mentions tag ≠ true) : e.witness tags = e.witness tags' := by
  refine witness_congr ?_
  intro a ha
  have hne : a.1 ≠ tag := by
    intro heq
    exact he ((mentions_iff tag e).2 ⟨a.2, heq ▸ ha⟩)
  exact h a.1 hne

theorem evaluate_of_agree {tag : String} {tags tags' : List String} (h : AgreeExcept tag tags tags')
    {text : String} (htext : (parse text).map (mentions tag) ≠ .ok true) :
    evaluate text tags = evaluate text tags' := by
  cases hparse : parse text with
  | error fault => rw [evaluate, evaluate, hparse]; rfl
  | ok e =>
    have he : e.mentions tag ≠ true := by
      intro hm
      exact htext ((map_eq_ok_iff _ _ _).2 ⟨e, hparse, hm⟩)
    have hwitness := witness_of_agree h he
    rw [evaluate_of_parse hparse, evaluate_of_parse hparse, outcome_eq, outcome_eq, hwitness]

end Expression

/-! ### Rules -/

namespace Rule

theorem mentions_eq_true_iff (tag : String) (r : Rule) :
    r.mentions tag = true ↔
      (Expression.parse r.condition).map (Expression.mentions tag) = .ok true := by
  cases huntagged : r.isUntagged with
  | true =>
    -- A rule without a condition has the empty text, which is no condition.
    have hempty : r.condition = "" := String.isEmpty_iff.1 huntagged
    have hblank : Expression.parse "" = .error .blank := rfl
    rw [mentions, huntagged, hempty, hblank]
    simp [Except.map]
  | false =>
    rw [mentions, huntagged]
    cases hparse : Expression.parse r.condition with
    | error fault => simp [Except.map]
    | ok e => simp [Except.map]

theorem verdict_of_agree {tag : String} {tags tags' : List String}
    (h : AgreeExcept tag tags tags') {r : Rule} (hr : r.mentions tag ≠ true)
    (options : MatchOptions) : r.verdict tags options = r.verdict tags' options := by
  have heval := Expression.evaluate_of_agree h fun hm => hr ((mentions_eq_true_iff tag r).2 hm)
  rw [verdict, verdict, heval]

/-- A match sees nothing of the tags but the verdicts. -/
theorem matchRules_of_verdicts {tags tags' : List String} {rules : List Rule}
    {options : MatchOptions}
    (h : ∀ r ∈ rules, r.verdict tags options = r.verdict tags' options) :
    matchRules tags rules options = matchRules tags' rules options := by
  have hreported : reported tags options rules = reported tags' options rules := by
    refine List.filterMap_congr ?_
    intro r hr
    rw [h r hr]
  have hverdicts : rules.map (·.verdict tags options) = rules.map (·.verdict tags' options) :=
    List.map_congr_left h
  rw [matchRules, matchRules, hreported, hverdicts]

theorem mem_mentioning (tag : String) (rules : List Rule) (r : Rule) :
    r ∈ mentioning tag rules ↔ r ∈ rules ∧ r.mentions tag = true :=
  List.mem_filter

end Rule

/-! ### Compound tags -/

namespace Compound

open Tag (CompoundDefinition)

theorem verdict_eq_evaluate (base : List String) (d : CompoundDefinition) :
    verdict base d = (Expression.evaluate d.expression base).map Expression.Outcome.result := by
  rw [verdict, Expression.evaluate]
  cases Expression.parse d.expression with
  | error fault => rfl
  | ok e => rfl

theorem ofDefinition_of_agree {tag : String} {tags tags' : List String}
    (h : AgreeExcept tag tags tags') {d : CompoundDefinition}
    (hd : (Expression.parse d.expression).map (Expression.mentions tag) ≠ .ok true) :
    Result.ofDefinition tags d = Result.ofDefinition tags' d := by
  have heval := Expression.evaluate_of_agree h hd
  have hverdict : verdict tags d = verdict tags' d := by
    rw [verdict_eq_evaluate, verdict_eq_evaluate, heval]
  rw [Result.ofDefinition, Result.ofDefinition, hverdict]

theorem lookup_results_congr {f g : CompoundDefinition → Result} {name : String}
    {definitions : List CompoundDefinition}
    (h : ∀ d ∈ definitions, d.name = name → f d = g d) :
    (definitions.map fun d => (d.name, f d)).lookup name =
      (definitions.map fun d => (d.name, g d)).lookup name := by
  induction definitions with
  | nil => rfl
  | cons d rest ih =>
    have hrest := ih fun d' hd' => h d' (List.mem_cons_of_mem _ hd')
    rw [List.map_cons, List.map_cons, List.lookup_cons, List.lookup_cons, hrest]
    by_cases hname : d.name = name
    · rw [h d List.mem_cons_self hname]
    · have hne : (name == d.name) = false := by simp [Ne.symm hname]
      rw [hne]

theorem get?_resolve_of_agree {tag : String} {tags tags' : List String}
    (h : AgreeExcept tag tags tags') {definitions : List CompoundDefinition} {name : String}
    (hd : ∀ d ∈ definitions, d.name = name →
      (Expression.parse d.expression).map (Expression.mentions tag) ≠ .ok true) :
    (resolve tags definitions).results.get? name =
      (resolve tags' definitions).results.get? name := by
  unfold resolve
  dsimp only
  rw [Table.ofList, Table.ofList, Table.get?_putAll, Table.get?_putAll, ← List.map_reverse,
    ← List.map_reverse]
  congr 1
  refine lookup_results_congr ?_
  intro d hmem hname
  exact ofDefinition_of_agree h (hd d (List.mem_reverse.1 hmem) hname)

end Compound

/-- Rules whose conditions do not mention a tag are matched alike on two tag sets that differ at most
in that tag, and compound tags whose conditions do not mention it come out alike. So every rule that
the tag can affect is found among the rules that mention it, and those are the rules whose conditions
can be read and have a reference to it, negated or not. -/
theorem unmentioned_tag_no_influence {tag : String} {tags tags' : List String}
    (h : AgreeExcept tag tags tags') :
    (∀ (rules : List Rule) (options : Rule.MatchOptions),
      let leftOut := rules.filter (· ∉ Rule.mentioning tag rules)
      Rule.matchRules tags leftOut options = Rule.matchRules tags' leftOut options) ∧
    (∀ (rules : List Rule) (options : Rule.MatchOptions), ∀ r ∈ rules,
      r.verdict tags options ≠ r.verdict tags' options → r ∈ Rule.mentioning tag rules) ∧
    (∀ (rules : List Rule) (r : Rule), r ∈ Rule.mentioning tag rules ↔
      r ∈ rules ∧ ∃ e negated,
        Expression.parse r.condition = .ok e ∧ (tag, negated) ∈ e.atoms) ∧
    ∀ (definitions : List Tag.CompoundDefinition) (name : String),
      (∀ d ∈ definitions, d.name = name →
        (Expression.parse d.expression).map (Expression.mentions tag) ≠ .ok true) →
      (Compound.resolve tags definitions).results.get? name =
        (Compound.resolve tags' definitions).results.get? name := by
  refine ⟨?_, ?_, ?_, fun definitions name => Compound.get?_resolve_of_agree h⟩
  · intro rules options leftOut
    refine Rule.matchRules_of_verdicts ?_
    intro r hr
    obtain ⟨hmem, hout⟩ := List.mem_filter.1 hr
    rw [decide_eq_true_eq, Rule.mem_mentioning] at hout
    exact Rule.verdict_of_agree h (fun hm => hout ⟨hmem, hm⟩) options
  · intro rules options r hmem hdiffers
    refine (Rule.mem_mentioning tag rules r).2 ⟨hmem, ?_⟩
    cases hm : r.mentions tag with
    | true => rfl
    | false =>
      have hunmentioned : r.mentions tag ≠ true := by simp [hm]
      exact absurd (Rule.verdict_of_agree h hunmentioned options) hdiffers
  · intro rules r
    rw [Rule.mem_mentioning, Rule.mentions_eq_true_iff]
    simp only [map_eq_ok_iff, Expression.mentions_iff, exists_and_left]

/-- Two rules that mention `LOCK`, one that does not, one without a condition, and one whose condition
cannot be read. -/
def lockRules : List Rule :=
  let rule (id : String) (condition : Option String) : Rule :=
    { id, title := "", category := "style", severity := .high, tagCondition := condition,
      suggestion := "", description := "", fixEffort := none }
  [rule "R1" (some "LOCK || LOOP"), rule "R2" (some "LOOP && (WAIT || !FINAL)"), rule "R3" none,
    rule "R4" (some "!LOCK"), rule "R5" (some "LOOP &&")]

theorem lock_no_influence :
    (Rule.mentioning "LOCK" lockRules).map Rule.id = ["R1", "R4"] ∧
    AgreeExcept "LOCK" ["LOOP", "LOCK"] ["LOOP"] ∧
    Rule.matchRules ["LOOP", "LOCK"]
        (lockRules.filter (· ∉ Rule.mentioning "LOCK" lockRules)) {} =
      Rule.matchRules ["LOOP"] (lockRules.filter (· ∉ Rule.mentioning "LOCK" lockRules)) {} ∧
    ((Rule.matchRules ["LOOP"]
      (lockRules.filter (· ∉ Rule.mentioning "LOCK" lockRules)) {}).violations.map
        Violation.ruleId) = ["R2"] := by
  have hagree : AgreeExcept "LOCK" ["LOOP", "LOCK"] ["LOOP"] := by
    intro t ht
    simp [ht]
  obtain ⟨hmatch, -⟩ := unmentioned_tag_no_influence hagree
  exact ⟨by decide +kernel, hagree, hmatch lockRules {}, by decide +kernel⟩

end TagAudit
