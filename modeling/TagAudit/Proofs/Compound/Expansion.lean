import Mathlib.Data.List.Nodup
import TagAudit.Compound
import TagAudit.Proofs.Expression.Evaluation

/-!
# Compound tags as abbreviations (`resolve_compound_tags`)

A compound tag stands for its condition. Evaluating a condition on the tags of a file together with
the compound tags is the same as replacing in it each reference to a compound tag by the condition of
that tag, once and all at the same time, and evaluating the outcome on the base tags alone.
-/

namespace TagAudit

/-! ### Substitution -/

namespace Expression

def never : Expression := .and (.atom "" false) (.atom "" true)

@[simp] theorem holds_never (tags : List String) : never.holds tags = false := by
  simp [never]

/-- A condition with other conditions in place of some references. A replacement is not searched for
references again; a negated reference becomes the negation of its replacement. -/
def substitute (replacement : String → Option Expression) : Expression → Expression
  | .atom name false => (replacement name).getD (.atom name false)
  | .atom name true => ((replacement name).map Expression.not).getD (.atom name true)
  | .not e => .not (e.substitute replacement)
  | .and l r => .and (l.substitute replacement) (r.substitute replacement)
  | .or l r => .or (l.substitute replacement) (r.substitute replacement)

def replacedHolds (base : List String) (replacement : String → Option Expression)
    (name : String) : Bool :=
  match replacement name with
  | none => name ∈ base
  | some e => e.holds base

/-- Substitution on base tags is evaluation on the tags whose replacements hold. -/
theorem holds_substitute (base tags : List String) (replacement : String → Option Expression)
    (htags : ∀ name, name ∈ tags ↔ replacedHolds base replacement name = true) (e : Expression) :
    (e.substitute replacement).holds base = e.holds tags := by
  induction e with
  | atom name negated =>
    have hname : decide (name ∈ tags) = replacedHolds base replacement name := by
      rw [Bool.eq_iff_iff, decide_eq_true_eq, htags name]
    cases negated with
    | false =>
      rw [holds_tag, hname, substitute, replacedHolds]
      cases replacement name with
      | none => simp
      | some e => simp
    | true =>
      rw [holds_negatedTag, hname, substitute, replacedHolds]
      cases replacement name with
      | none => simp
      | some e => simp
  | not e ih => rw [substitute, holds_not, holds_not, ih]
  | and l r ihl ihr => rw [substitute, holds_and, holds_and, ihl, ihr]
  | or l r ihl ihr => rw [substitute, holds_or, holds_or, ihl, ihr]

end Expression

/-! ### Tags with compound tags -/

namespace Compound

open Expression
open Tag (CompoundDefinition)

/-- The condition that a compound tag stands for; one that cannot be read never holds. -/
def meaning (d : CompoundDefinition) : Expression :=
  match parse d.expression with
  | .ok e => e
  | .error _ => never

/-- A condition in place of each name of a compound tag. -/
def replacing (f : CompoundDefinition → Expression) (definitions : List CompoundDefinition)
    (name : String) : Option Expression :=
  (definitions.find? (·.name = name)).map f

theorem matched_ofDefinition (base : List String) (d : CompoundDefinition) :
    (Result.ofDefinition base d).matched = (meaning d).holds base := by
  rw [Result.ofDefinition, verdict, meaning]
  cases parse d.expression with
  | error fault => simp [Except.map]
  | ok e => simp [Except.map]

/-- The tags of a resolution: the base tags and the compound tags whose conditions hold on them. -/
theorem mem_resolve_tags (base : List String) (definitions : List CompoundDefinition)
    (name : String) :
    name ∈ (resolve base definitions).tags ↔
      name ∈ base ∨ ∃ d ∈ definitions, d.name = name ∧ (meaning d).holds base = true := by
  rw [resolve, List.mem_eraseDups, List.mem_append, List.mem_map]
  refine or_congr_right ⟨?_, ?_⟩
  · rintro ⟨entry, hentry, rfl⟩
    obtain ⟨hmem, hmatched⟩ := List.mem_filter.1 hentry
    obtain ⟨d, hd, rfl⟩ := List.mem_map.1 hmem
    rw [matched_ofDefinition] at hmatched
    exact ⟨d, hd, rfl, hmatched⟩
  · rintro ⟨d, hd, rfl, hholds⟩
    refine ⟨(d.name, Result.ofDefinition base d), List.mem_filter.2 ⟨?_, ?_⟩, rfl⟩
    · exact List.mem_map_of_mem hd
    · rw [matched_ofDefinition]
      exact hholds

section Distinct

variable {base : List String} {definitions : List CompoundDefinition}

theorem replacedHolds_of_mem (f : CompoundDefinition → Expression)
    (hdistinct : (definitions.map (·.name)).Nodup) {d : CompoundDefinition}
    (hd : d ∈ definitions) :
    replacedHolds base (replacing f definitions) d.name = (f d).holds base := by
  obtain ⟨d', hfind⟩ : ∃ d', definitions.find? (·.name = d.name) = some d' :=
    Option.isSome_iff_exists.1 (List.find?_isSome.2 ⟨d, hd, by simp⟩)
  have hname : d'.name = d.name := by simpa using List.find?_some hfind
  have hsame := List.inj_on_of_nodup_map hdistinct (List.mem_of_find?_eq_some hfind) hd hname
  rw [replacedHolds, replacing, hfind, hsame]
  rfl

theorem replacedHolds_of_forall_ne (f : CompoundDefinition → Expression) {name : String}
    (hname : ∀ d ∈ definitions, d.name ≠ name) :
    replacedHolds base (replacing f definitions) name = decide (name ∈ base) := by
  have hfind : definitions.find? (·.name = name) = none :=
    List.find?_eq_none.2 fun d hd => by simpa using hname d hd
  rw [replacedHolds, replacing, hfind]
  rfl

/-- A compound tag is present exactly when its condition holds on the base tags. -/
theorem name_mem_resolve_tags (hdistinct : (definitions.map (·.name)).Nodup)
    (hbase : ∀ d ∈ definitions, d.name ∉ base) {d : CompoundDefinition} (hd : d ∈ definitions) :
    d.name ∈ (resolve base definitions).tags ↔ (meaning d).holds base = true := by
  rw [mem_resolve_tags]
  constructor
  · rintro (hmem | ⟨d', hd', hname, hholds⟩)
    · exact absurd hmem (hbase d hd)
    · rwa [List.inj_on_of_nodup_map hdistinct hd' hd hname] at hholds
  · intro hholds
    exact .inr ⟨d, hd, rfl, hholds⟩

theorem holds_resolve_tags (hdistinct : (definitions.map (·.name)).Nodup)
    (hbase : ∀ d ∈ definitions, d.name ∉ base) (e : Expression) :
    e.holds (resolve base definitions).tags =
      (e.substitute (replacing meaning definitions)).holds base := by
  symm
  apply holds_substitute
  intro name
  by_cases hname : ∃ d ∈ definitions, d.name = name
  · obtain ⟨d, hd, rfl⟩ := hname
    rw [name_mem_resolve_tags hdistinct hbase hd, replacedHolds_of_mem meaning hdistinct hd]
  · have hne : ∀ d ∈ definitions, d.name ≠ name := fun d hd h => hname ⟨d, hd, h⟩
    rw [mem_resolve_tags, replacedHolds_of_forall_ne meaning hne, decide_eq_true_eq]
    constructor
    · rintro (hmem | ⟨d, hd, h, -⟩)
      · exact hmem
      · exact absurd h (hne d hd)
    · exact .inl

theorem holds_substitute_never (hdistinct : (definitions.map (·.name)).Nodup)
    (hbase : ∀ d ∈ definitions, d.name ∉ base) (e : Expression) :
    (e.substitute (replacing (fun _ => never) definitions)).holds base = e.holds base := by
  apply holds_substitute
  intro name
  by_cases hname : ∃ d ∈ definitions, d.name = name
  · -- No base tag has the name of a compound tag.
    obtain ⟨d, hd, rfl⟩ := hname
    rw [replacedHolds_of_mem _ hdistinct hd, holds_never]
    simpa using hbase d hd
  · have hne : ∀ d ∈ definitions, d.name ≠ name := fun d hd h => hname ⟨d, hd, h⟩
    rw [replacedHolds_of_forall_ne _ hne, decide_eq_true_eq]

end Distinct

/-- A condition has on the tags of a resolution the truth value that its expansion has on the base
tags. A compound tag is present when its own condition holds there with all compound tags absent. -/
theorem evaluate_resolve_tags (base : List String) (definitions : List CompoundDefinition)
    (hdistinct : (definitions.map (·.name)).Nodup) (hbase : ∀ d ∈ definitions, d.name ∉ base)
    (text : String) (e : Expression) (he : parse text = .ok e) :
    (evaluate text (resolve base definitions).tags).map Outcome.result =
      .ok ((e.substitute (replacing meaning definitions)).holds base) ∧
    ∀ d ∈ definitions, d.name ∈ (resolve base definitions).tags ↔
      ((meaning d).substitute (replacing (fun _ => never) definitions)).holds base = true := by
  constructor
  · rw [evaluate_of_parse he, ← holds_resolve_tags hdistinct hbase]
    rfl
  · intro d hd
    rw [name_mem_resolve_tags hdistinct hbase hd, holds_substitute_never hdistinct hbase]

/-- A compound tag over a base tag, one over that compound tag, and one that cannot be read. -/
def nestedDefinitions : List CompoundDefinition :=
  [⟨"FIRST", "A", .low, ""⟩, ⟨"SECOND", "FIRST", .low, ""⟩, ⟨"BROKEN", "A &&", .low, ""⟩]

theorem evaluate_resolve_nested :
    (nestedDefinitions.map (·.name)).Nodup ∧ (∀ d ∈ nestedDefinitions, d.name ∉ ["A"]) ∧
    (evaluate "FIRST && !SECOND && !BROKEN" (resolve ["A"] nestedDefinitions).tags).map
      Outcome.result = .ok true ∧
    "SECOND" ∉ (resolve ["A"] nestedDefinitions).tags := by
  have hdistinct : (nestedDefinitions.map (·.name)).Nodup := by decide
  have hbase : ∀ d ∈ nestedDefinitions, d.name ∉ ["A"] := by decide
  obtain ⟨hevaluate, hpresent⟩ := evaluate_resolve_tags ["A"] nestedDefinitions hdistinct hbase
    "FIRST && !SECOND && !BROKEN" _ rfl
  refine ⟨hdistinct, hbase, hevaluate, ?_⟩
  rw [hpresent ⟨"SECOND", "FIRST", .low, ""⟩ (by decide)]
  decide

end Compound

end TagAudit
