import TagAudit.Analysis
import TagAudit.Proofs.Tag.Independence
import TagAudit.Proofs.Tag.Statistics

/-!
# Base tags and compound tags in one profile (`CodeAnalyzer.profile`)

The profile of an analysis holds base tags and compound tags under one set of names. A registry keeps
the names of its two kinds of definitions apart, so a compound tag is present just when its condition
holds. There is one exception: the measures of the bare text have names of their own that no registry
refuses for a compound tag.
-/

namespace TagAudit

open Tag
open Compound (Result)

namespace Compound

theorem get?_resolve {definitions : List CompoundDefinition}
    (hdistinct : (definitions.map CompoundDefinition.name).Nodup) (base : List String)
    (name : String) (result : Result) :
    (resolve base definitions).results.get? name = some result ↔
      ∃ d ∈ definitions, d.name = name ∧ Result.ofDefinition base d = result := by
  have hkeys : ((definitions.map fun d => (d.name, Result.ofDefinition base d)).map Prod.fst).Nodup := by
    rw [List.map_map]
    exact hdistinct
  unfold resolve
  dsimp only
  rw [Table.get?_ofList_eq_some_iff hkeys, List.mem_map]
  simp only [Prod.mk.injEq]

theorem expression_ofDefinition (base : List String) (d : CompoundDefinition) :
    (Result.ofDefinition base d).expression = d.expression := by
  unfold Result.ofDefinition
  cases verdict base d with
  | ok holds => rfl
  | error fault => rfl

theorem mem_present (results : Table String Result) (name expression : String) :
    (name, expression) ∈ present results ↔
      ∃ result, results.get? name = some result ∧ result.matched = true ∧
        result.expression = expression := by
  unfold present
  rw [List.mem_map]
  constructor
  · rintro ⟨entry, hentry, heq⟩
    obtain ⟨hmem, hmatched⟩ := List.mem_filter.1 hentry
    obtain ⟨rfl, rfl⟩ := Prod.mk.inj heq
    exact ⟨entry.2, (results.get?_eq_some_iff entry.1 entry.2).2 hmem, hmatched, rfl⟩
  · rintro ⟨result, hget, hmatched, rfl⟩
    have hmem := (results.get?_eq_some_iff name result).1 hget
    exact ⟨(name, result), List.mem_filter.2 ⟨hmem, hmatched⟩, rfl⟩

/-- What stands under a name once compound tags are added: the compound tag if its condition holds,
and what was there before if not. -/
theorem get?_extend_eq_some_iff (p : Profile) (results : Table String Result) (name : String)
    (d : Detail) :
    (extend p results).details.get? name = some d ↔
      (∃ result, results.get? name = some result ∧ result.matched = true ∧
        d = .compound result.expression) ∨
      ((∀ result, results.get? name = some result → result.matched = false) ∧
        p.details.get? name = some d) := by
  have hkeys : (((present results).map fun c => (c.1, Detail.compound c.2)).map Prod.fst).Nodup := by
    rw [List.map_map]
    exact addedNames_nodup results
  have hadded : ∀ d : Detail,
      ((present results).map fun c => (c.1, Detail.compound c.2)).reverse.lookup name = some d ↔
        ∃ result, results.get? name = some result ∧ result.matched = true ∧
          d = .compound result.expression := by
    intro d
    rw [Table.lookup_reverse_eq_some_iff hkeys, List.mem_map]
    constructor
    · rintro ⟨c, hc, heq⟩
      obtain ⟨rfl, rfl⟩ := Prod.mk.inj heq
      obtain ⟨result, hget, hmatched, hexpression⟩ := (mem_present results c.1 c.2).1 hc
      exact ⟨result, hget, hmatched, by rw [hexpression]⟩
    · rintro ⟨result, hget, hmatched, rfl⟩
      exact ⟨(name, result.expression),
        (mem_present results name result.expression).2 ⟨result, hget, hmatched, rfl⟩, rfl⟩
  rw [(extend_eq p results).1, Table.get?_putAll, Option.or_eq_some_iff, hadded]
  refine or_congr_right (and_congr_left fun _ => ?_)
  rw [Option.eq_none_iff_forall_ne_some]
  constructor
  · intro hnone result hget
    by_contra hmatched
    rw [Bool.not_eq_false] at hmatched
    exact hnone _ ((hadded _).2 ⟨result, hget, hmatched, rfl⟩)
  · intro hall d hsome
    obtain ⟨result, hget, hmatched, -⟩ := (hadded d).1 hsome
    rw [hall result hget] at hmatched
    exact absurd hmatched (by simp)

end Compound

/-- A compound tag is apart from the base tags of a file: it is present just when its condition
holds, and then it is there as a compound tag. -/
def FileProfile.KeepsApart (p : FileProfile) (d : CompoundDefinition) : Prop :=
  ∃ result, p.compounds.get? d.name = some result ∧
    (d.name ∈ p.profile.tags ↔ result.matched = true) ∧
    (result.matched = true → p.profile.details.get? d.name = some (.compound d.expression))

section Built

variable {version : String} {tags : List Definition} {compounds : List CompoundDefinition}

/-- Before compound tags are added, only a measure can stand under the name of one. -/
theorem get?_extract_of_compound {r : Registry}
    (hr : Registry.build version tags compounds = .ok r) (text : List Char)
    (summary : Option Syntax.Summary) {d : CompoundDefinition} (hd : d ∈ r.compounds) :
    (r.extract text summary).details.get? d.name = measured? text d.name := by
  have hapart := (Registry.compounds_of_build hr).2.2 d.name (List.mem_map_of_mem hd)
  rw [get?_extract_eq r (Registry.entries_of_build hr).2, (r.entry?_eq_none_iff d.name).2 hapart]
  exact Option.or_none

variable {a : Analyzer}

theorem get?_profile_compounds (ha : Registry.build version tags compounds = .ok a.registry)
    (text : List Char) (name : String) (result : Result) :
    (a.profile text).compounds.get? name = some result ↔
      ∃ d ∈ a.registry.compounds, d.name = name ∧
        Result.ofDefinition (a.registry.extract text (a.summarize text)).tags d = result :=
  Compound.get?_resolve (Registry.compounds_of_build ha).2.1 _ name result

theorem get?_profile_of_compound (ha : Registry.build version tags compounds = .ok a.registry)
    (text : List Char) {d : CompoundDefinition} (hd : d ∈ a.registry.compounds) {result : Result}
    (hresult : (a.profile text).compounds.get? d.name = some result) :
    (a.profile text).profile.details.get? d.name =
      if result.matched = true then some (.compound result.expression) else measured? text d.name := by
  ext detail
  have hextend := Compound.get?_extend_eq_some_iff (a.registry.extract text (a.summarize text))
    (a.profile text).compounds d.name detail
  rw [get?_extract_of_compound ha text _ hd, hresult] at hextend
  refine hextend.trans ?_
  simp only [Option.some.injEq, exists_eq_left', forall_eq']
  by_cases hmatched : result.matched = true
  · rw [if_pos hmatched, Option.some.injEq, eq_comm (a := detail)]
    simp [hmatched]
  · simp [hmatched]

/-- A compound tag is kept apart unless a measure of the bare text that has its name is high while
its condition does not hold. -/
theorem keepsApart_iff (ha : Registry.build version tags compounds = .ok a.registry)
    (text : List Char) {d : CompoundDefinition} (hd : d ∈ a.registry.compounds) {result : Result}
    (hresult : (a.profile text).compounds.get? d.name = some result)
    (hexpression : result.expression = d.expression) :
    (a.profile text).KeepsApart d ↔ result.matched = true ∨ measured? text d.name = none := by
  have hdetail := get?_profile_of_compound ha text hd hresult
  have hdetailed : (a.profile text).profile.Detailed :=
    (a.registry.detailed_extract text (a.summarize text)).extend _
  unfold FileProfile.KeepsApart
  simp only [hresult, Option.some.injEq, exists_eq_left', hdetailed.mem_tags_iff, hdetail,
    hexpression]
  by_cases hmatched : result.matched = true
  · simp [hmatched]
  · simp [hmatched, Option.eq_none_iff_forall_ne_some]

/-- The compound tags of an analysis. Each has the result of its own condition on the base tags. Under
its name stands the compound tag if that holds, and else only what a measure of the bare text finds.
So compound tags and base tags are kept apart just when no measure that is high has the name of a
compound tag whose condition does not hold; a compound tag with any other name is always apart. Names
that no compound tag has keep what the file has under them. -/
theorem profile_keeps_apart (ha : Registry.build version tags compounds = .ok a.registry)
    (text : List Char) :
    let base := a.registry.extract text (a.summarize text)
    let p := a.profile text
    (∀ d ∈ a.registry.compounds, ∃ result, p.compounds.get? d.name = some result ∧
      result = Result.ofDefinition base.tags d ∧
      p.profile.details.get? d.name =
        (if result.matched = true then some (.compound d.expression) else measured? text d.name) ∧
      (p.KeepsApart d ↔ result.matched = true ∨
        ∀ m ∈ textMeasures, m.tag = d.name → m.measure text < m.threshold) ∧
      (d.name ∉ builtinNames → p.KeepsApart d)) ∧
    ∀ name, name ∉ a.registry.compoundNames →
      p.profile.details.get? name = base.details.get? name := by
  intro base p
  constructor
  · intro d hd
    have hresult : p.compounds.get? d.name = some (Result.ofDefinition base.tags d) :=
      (get?_profile_compounds ha text d.name _).2 ⟨d, hd, rfl, rfl⟩
    have hexpression := Compound.expression_ofDefinition base.tags d
    have hapart := keepsApart_iff ha text hd hresult hexpression
    have hdetail := get?_profile_of_compound ha text hd hresult
    rw [hexpression] at hdetail
    refine ⟨_, hresult, rfl, hdetail, ?_, ?_⟩
    · rw [hapart, measured?_eq_none_iff]
    · intro hname
      exact hapart.2 (.inr (measured?_eq_none text d.name hname))
  · intro name hname
    ext detail
    have hnone : ∀ result, p.compounds.get? name ≠ some result := by
      intro result hget
      obtain ⟨d, hd, rfl, -⟩ := (get?_profile_compounds ha text name result).1 hget
      exact hname (List.mem_map_of_mem hd)
    refine (Compound.get?_extend_eq_some_iff base p.compounds name detail).trans ?_
    simp [hnone]

end Built

/-- A compound tag over a measure, and one that takes the name of a measure. -/
def measureCompounds : List CompoundDefinition :=
  [⟨"BUSY", "NESTING_DEEP", .low, ""⟩, ⟨"NESTING_DEEP", "BUSY", .low, ""⟩]

/-- A text with four control blocks inside each other. -/
def fourDeep : List Char := "do\x7bdo\x7bdo\x7bdo\x7b".toList

def measureAnalyzer : Analyzer where
  registry := ⟨"1", [], measureCompounds⟩
  rules := []
  summarize := fun _ => none

theorem profile_keeps_busy_apart :
    Registry.build "1" [] measureCompounds = .ok measureAnalyzer.registry ∧
      (measureAnalyzer.profile fourDeep).KeepsApart ⟨"BUSY", "NESTING_DEEP", .low, ""⟩ := by
  have hbuild : Registry.build "1" [] measureCompounds = .ok measureAnalyzer.registry := rfl
  obtain ⟨hcompounds, -⟩ := profile_keeps_apart hbuild fourDeep
  obtain ⟨result, -, -, -, -, hapart⟩ := hcompounds ⟨"BUSY", "NESTING_DEEP", .low, ""⟩ (by decide)
  exact ⟨hbuild, hapart (by decide)⟩

/-- The condition of a compound tag does not hold, and its name is there all the same. -/
theorem measure_under_compound_name :
    let p := measureAnalyzer.profile fourDeep
    Registry.build "1" [] measureCompounds = .ok measureAnalyzer.registry ∧
    "NESTING_DEEP" ∈ p.profile.tags ∧
    (p.compounds.get? "NESTING_DEEP").map Result.matched = some false ∧
    p.profile.details.get? "NESTING_DEEP" = some (.metric 4 .atLeast 4 .possible) := by
  refine ⟨rfl, ?_, ?_, ?_⟩
  · decide +kernel
  · decide +kernel
  · decide +kernel

end TagAudit
