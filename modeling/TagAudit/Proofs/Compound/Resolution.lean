import TagAudit.Proofs.Compound.Expansion
import TagAudit.Proofs.Compound.Presence
import TagAudit.Proofs.Rule.Influence

/-!
# The two outcomes of a resolution (`resolve_compound_tags`, `TagProfile.with_compound_tags`)

A resolution gives all tags and the results under their names. Neither depends on the order of the
definitions, there is one result for each definition, and adding the results to a profile of the
base tags gives the tags of the resolution once more. The profile unites its own tags with the names
of the positive results, whatever details it has.
-/

namespace TagAudit.Compound

open Expression (parse)
open Tag (CompoundDefinition Profile)

/-! ### Results -/

theorem ofDefinition_of_error {d : CompoundDefinition} {fault : Expression.SyntaxFault}
    (h : parse d.expression = .error fault) (base : List String) :
    Result.ofDefinition base d =
      ⟨d.expression, d.description, d.severity, false, some fault.message⟩ := by
  rw [Result.ofDefinition, verdict, h]
  rfl

theorem ofDefinition_of_ok {d : CompoundDefinition} {e : Expression}
    (h : parse d.expression = .ok e) (base : List String) :
    Result.ofDefinition base d =
      ⟨d.expression, d.description, d.severity, e.holds base, none⟩ := by
  rw [Result.ofDefinition, verdict, h]
  rfl

/-- A result that names what is wrong with a condition that cannot be read, and tells of any other
whether it holds. -/
def Result.Tells (result : Result) (base : List String) (d : CompoundDefinition) : Prop :=
  result.expression = d.expression ∧ result.description = d.description ∧
  result.severity = d.severity ∧
  (result.error.isSome = true ↔ ∃ fault, parse d.expression = .error fault) ∧
  (result.error.isSome = true → result.matched = false) ∧
  (result.matched = true ↔ ∃ e, parse d.expression = .ok e ∧ e.holds base = true)

theorem tells_ofDefinition (base : List String) (d : CompoundDefinition) :
    (Result.ofDefinition base d).Tells base d := by
  unfold Result.Tells
  cases hparse : parse d.expression with
  | error fault =>
    rw [ofDefinition_of_error hparse]
    simp
  | ok e =>
    rw [ofDefinition_of_ok hparse]
    simp

theorem ofDefinition_congr {base base' : List String} (hbase : ∀ tag, tag ∈ base' ↔ tag ∈ base)
    (d : CompoundDefinition) : Result.ofDefinition base' d = Result.ofDefinition base d := by
  cases hparse : parse d.expression with
  | error fault => rw [ofDefinition_of_error hparse, ofDefinition_of_error hparse]
  | ok e =>
    have hwitness : e.witness base' = e.witness base :=
      Expression.witness_congr fun a _ => hbase a.1
    rw [ofDefinition_of_ok hparse, ofDefinition_of_ok hparse, Expression.holds_eq,
      Expression.holds_eq, hwitness]

theorem keys_resolve {definitions : List CompoundDefinition}
    (hdistinct : (definitions.map CompoundDefinition.name).Nodup) (base : List String) :
    (resolve base definitions).results.keys = definitions.map CompoundDefinition.name := by
  have hkeys : ((definitions.map fun d => (d.name, Result.ofDefinition base d)).map Prod.fst) =
      definitions.map CompoundDefinition.name := by
    rw [List.map_map]
    rfl
  have hentries : (resolve base definitions).results.entries =
      definitions.map fun d => (d.name, Result.ofDefinition base d) :=
    Table.entries_ofList (hkeys ▸ hdistinct)
  rw [Table.keys, hentries, hkeys]

/-! ### Tags and results -/

/-- The tags of a resolution are told by its results. -/
theorem mem_tags_resolve_iff {definitions : List CompoundDefinition}
    (hdistinct : (definitions.map CompoundDefinition.name).Nodup) (base : List String)
    (name : String) :
    name ∈ (resolve base definitions).tags ↔
      name ∈ base ∨ ∃ result, (resolve base definitions).results.get? name = some result ∧
        result.matched = true := by
  rw [mem_resolve_tags]
  simp only [get?_resolve hdistinct]
  refine or_congr_right ⟨?_, ?_⟩
  · intro h
    obtain ⟨d, hd, hname, hholds⟩ := h
    exact ⟨_, ⟨d, hd, hname, rfl⟩, by rw [matched_ofDefinition, hholds]⟩
  · intro h
    obtain ⟨result, ⟨d, hd, hname, rfl⟩, hmatched⟩ := h
    exact ⟨d, hd, hname, by rw [← matched_ofDefinition, hmatched]⟩

theorem get?_extend_of_not_positive (p : Profile) {results : Table String Result} {name : String}
    (h : ¬ ∃ result, results.get? name = some result ∧ result.matched = true) :
    (extend p results).details.get? name = p.details.get? name := by
  ext d
  rw [get?_extend_eq_some_iff]
  constructor
  · intro hd
    obtain ⟨result, hget, hmatched, -⟩ | ⟨-, hd⟩ := hd
    · exact absurd ⟨result, hget, hmatched⟩ h
    · exact hd
  · intro hd
    refine .inr ⟨?_, hd⟩
    intro result hget
    rw [← Bool.not_eq_true]
    exact fun hmatched => h ⟨result, hget, hmatched⟩

theorem mem_tags_extend_iff (p : Profile) (results : Table String Result) (name : String) :
    name ∈ (extend p results).tags ↔
      name ∈ p.tags ∨ ∃ result, results.get? name = some result ∧ result.matched = true := by
  rw [Tag.mem_tags_extend, Tag.addedNames, List.mem_map]
  refine or_congr_right ⟨?_, ?_⟩
  · intro h
    obtain ⟨c, hc, rfl⟩ := h
    obtain ⟨result, hget, hmatched, -⟩ := (mem_present results c.1 c.2).1 hc
    exact ⟨result, hget, hmatched⟩
  · intro h
    obtain ⟨result, hget, hmatched⟩ := h
    exact ⟨_, (mem_present results name _).2 ⟨result, hget, hmatched, rfl⟩, rfl⟩

/-! ### The order of definitions and of tags -/

section Order

variable {base base' : List String} {definitions definitions' : List CompoundDefinition}

theorem get?_resolve_congr (hdistinct : (definitions.map CompoundDefinition.name).Nodup)
    (hbase : ∀ tag, tag ∈ base' ↔ tag ∈ base) (hperm : definitions'.Perm definitions)
    (name : String) :
    (resolve base' definitions').results.get? name =
      (resolve base definitions).results.get? name := by
  have hdistinct' := (hperm.map CompoundDefinition.name).nodup_iff.2 hdistinct
  ext result
  rw [get?_resolve hdistinct', get?_resolve hdistinct]
  refine exists_congr fun d => and_congr hperm.mem_iff (and_congr_right fun _ => ?_)
  rw [ofDefinition_congr hbase]

theorem tags_resolve_nodup (base : List String) (definitions : List CompoundDefinition) :
    (resolve base definitions).tags.Nodup :=
  nodup_eraseDups _

theorem tags_resolve_perm (hdistinct : (definitions.map CompoundDefinition.name).Nodup)
    (hbase : ∀ tag, tag ∈ base' ↔ tag ∈ base) (hperm : definitions'.Perm definitions) :
    (resolve base' definitions').tags.Perm (resolve base definitions).tags := by
  have hdistinct' := (hperm.map CompoundDefinition.name).nodup_iff.2 hdistinct
  rw [List.perm_ext_iff_of_nodup (tags_resolve_nodup _ _) (tags_resolve_nodup _ _)]
  intro name
  rw [mem_tags_resolve_iff hdistinct', mem_tags_resolve_iff hdistinct, hbase,
    get?_resolve_congr hdistinct hbase hperm]

theorem tags_extend_perm (hdistinct : (definitions.map CompoundDefinition.name).Nodup)
    {p : Profile} (hp : ∀ tag, tag ∈ p.tags ↔ tag ∈ base) :
    (extend p (resolve base definitions).results).tags.Perm (resolve base definitions).tags := by
  rw [List.perm_ext_iff_of_nodup (Profile.tags_nodup _) (tags_resolve_nodup _ _)]
  intro name
  rw [mem_tags_extend_iff, hp, mem_tags_resolve_iff hdistinct]

end Order

theorem totalTags_extend {p : Profile} {results : Table String Result} {name : String}
    {result : Result} (hget : results.get? name = some result) (hmatched : result.matched = true) :
    (extend p results).totalTags = (extend p results).tags.length := by
  have hmem : name ∈ Tag.addedNames results :=
    List.mem_map.2 ⟨_, (mem_present results name _).2 ⟨result, hget, hmatched, rfl⟩, rfl⟩
  exact ((Tag.extend_eq p results).2.2 (List.ne_nil_of_mem hmem)).1

/-- The outcome of a resolution of distinct definitions. It is the same for every order of the
definitions and of the base tags. There is one result for each definition, which tells what came of
it, and the tags are the base tags with the names whose results are positive. A profile of the base
tags, with or without details on them, has these tags once the results are added to it, as an
analysis does, and counts them if there are positive results; under all other names the profile
keeps what it had. -/
theorem resolution_agrees {definitions : List CompoundDefinition}
    (hdistinct : (definitions.map CompoundDefinition.name).Nodup) (base : List String) :
    let resolution := resolve base definitions
    let Positive name := ∃ result, resolution.results.get? name = some result ∧
      result.matched = true
    (∀ base' definitions', (∀ tag, tag ∈ base' ↔ tag ∈ base) → definitions'.Perm definitions →
      (resolve base' definitions').tags.Perm resolution.tags ∧
      ∀ name, (resolve base' definitions').results.get? name = resolution.results.get? name) ∧
    resolution.results.keys = definitions.map CompoundDefinition.name ∧
    (∀ d ∈ definitions, ∃ result, resolution.results.get? d.name = some result ∧
      result.Tells base d) ∧
    (∀ name, name ∈ resolution.tags ↔ name ∈ base ∨ Positive name) ∧
    (∀ p : Profile,
      ((∀ tag, tag ∈ p.tags ↔ tag ∈ base) →
        (extend p resolution.results).tags.Perm resolution.tags ∧
        ∀ name, Positive name →
          (extend p resolution.results).totalTags = resolution.tags.length) ∧
      ∀ name, ¬ Positive name →
        (extend p resolution.results).details.get? name = p.details.get? name) ∧
    ∀ (a : Analyzer) (text : List Char), a.registry.compounds = definitions →
      (a.registry.extract text (a.summarize text)).tags = base →
      (a.profile text).profile.tags.Perm resolution.tags := by
  intro resolution Positive
  refine ⟨?_, keys_resolve hdistinct base, ?_, mem_tags_resolve_iff hdistinct base, ?_, ?_⟩
  · intro base' definitions' hbase hperm
    exact ⟨tags_resolve_perm hdistinct hbase hperm, get?_resolve_congr hdistinct hbase hperm⟩
  · intro d hd
    exact ⟨_, (get?_resolve hdistinct base d.name _).2 ⟨d, hd, rfl, rfl⟩, tells_ofDefinition base d⟩
  · intro p
    refine ⟨?_, fun name => get?_extend_of_not_positive p⟩
    intro hp
    have hperm := tags_extend_perm hdistinct hp
    refine ⟨hperm, ?_⟩
    intro name hpositive
    obtain ⟨result, hget, hmatched⟩ := hpositive
    rw [totalTags_extend hget hmatched, hperm.length_eq]
  · intro a text hcompounds hbase
    subst hcompounds hbase
    exact tags_extend_perm hdistinct fun tag => Iff.rfl

/-- A condition that cannot be read, one that refers to itself, and two that refer to each other. -/
def tangledDefinitions : List CompoundDefinition :=
  [⟨"BROKEN", "A &&", .low, ""⟩, ⟨"SELF", "SELF || A", .low, ""⟩, ⟨"LEFT", "!RIGHT", .low, ""⟩,
    ⟨"RIGHT", "LEFT", .low, ""⟩]

/-- A tag without a detail, and statistics that do not know of it. -/
def bareProfile : Profile := ⟨["A"], by decide, .empty, 0, .empty⟩

theorem resolution_of_tangled :
    Tag.Registry.build "1" [] tangledDefinitions = .ok ⟨"1", [], tangledDefinitions⟩ ∧
    (tangledDefinitions.map CompoundDefinition.name).Nodup ∧
    (resolve ["A"] tangledDefinitions.reverse).tags.Perm ["A", "SELF", "LEFT"] ∧
    (∃ result, (resolve ["A"] tangledDefinitions).results.get? "BROKEN" = some result ∧
      result.error.isSome = true ∧ result.matched = false) ∧
    (extend bareProfile (resolve ["A"] tangledDefinitions).results).tags.Perm
      ["A", "SELF", "LEFT"] ∧
    (extend bareProfile (resolve ["A"] tangledDefinitions).results).totalTags = 3 := by
  have hdistinct : (tangledDefinitions.map CompoundDefinition.name).Nodup := by decide
  have htags : (resolve ["A"] tangledDefinitions).tags = ["A", "SELF", "LEFT"] := by decide +kernel
  obtain ⟨horder, -, hresults, htold, hprofiles, -⟩ := resolution_agrees hdistinct ["A"]
  obtain ⟨result, hget, -, -, -, herror, hunmatched, -⟩ :=
    hresults ⟨"BROKEN", "A &&", .low, ""⟩ (by decide)
  have hbroken : result.error.isSome = true := herror.2 ⟨_, rfl⟩
  have hreversed := (horder ["A"] _ (fun _ => Iff.rfl) (List.reverse_perm tangledDefinitions)).1
  obtain ⟨hprofile, htotal⟩ := (hprofiles bareProfile).1 fun _ => Iff.rfl
  have hself := ((htold "SELF").1 (by rw [htags]; decide)).resolve_left (by decide)
  rw [htags] at hreversed hprofile htotal
  exact ⟨rfl, hdistinct, hreversed, ⟨result, hget, hbroken, hunmatched hbroken⟩, hprofile,
    htotal "SELF" hself⟩

end TagAudit.Compound
