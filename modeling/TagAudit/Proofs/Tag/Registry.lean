import Mathlib.Data.List.Nodup
import TagAudit.Proofs.Basic
import TagAudit.Tag.Registry

/-!
# Registries that were built (`TagRegistry`)

What a registry holds once it is built: the given definitions, each with its own patterns, under names
that are distinct among the base tags, among the compound tags, and between the two.
-/

namespace TagAudit.Tag

/-! ### Entries -/

variable {compiler : Pattern.Compiler}

theorem Entry.definition_of_ofDefinition {d : Definition} {e : Entry}
    (h : Entry.ofDefinition compiler d = .ok e) : e.definition = d := by
  unfold Entry.ofDefinition at h
  split at h
  · obtain rfl := Except.ok.inj h
    rfl
  · rename_i set _
    cases hread : readPatterns compiler set.caseSensitive set.patterns with
    | error fault =>
      rw [hread] at h
      exact absurd h (by simp [Except.map])
    | ok patterns =>
      rw [hread] at h
      obtain rfl := Except.ok.inj h
      rfl

theorem map_definition_of_forall₂ {tags : List Definition} {entries : List Entry}
    (h : List.Forall₂ (fun d e => Entry.ofDefinition compiler d = .ok e) tags entries) :
    entries.map Entry.definition = tags := by
  induction h with
  | nil => rfl
  | cons hd _ ih => rw [List.map_cons, Entry.definition_of_ofDefinition hd, ih]

/-! ### Registries -/

namespace Registry

variable {version : String} {tags : List Definition} {compounds : List CompoundDefinition}
  {r : Registry}

/-- Everything that makes a registry the one of given definitions. -/
theorem build_ok_iff :
    Registry.build version tags compounds compiler = .ok r ↔
      (tags.map Definition.name).Nodup ∧ (compounds.map CompoundDefinition.name).Nodup ∧
      (∀ name ∈ compounds.map CompoundDefinition.name, name ∉ tags.map Definition.name) ∧
      r.version = version ∧ r.compounds = compounds ∧
      List.Forall₂ (fun d e => Entry.ofDefinition compiler d = .ok e) tags r.entries := by
  have htags := firstRepeated?_eq_none_iff [] (tags.map Definition.name)
  have hcompounds := firstRepeated?_eq_none_iff (tags.map Definition.name)
    (compounds.map CompoundDefinition.name)
  unfold Registry.build
  dsimp only
  cases hfirst : firstRepeated? [] (tags.map Definition.name) with
  | some name =>
    rw [hfirst] at htags
    have hnot : ¬ (tags.map Definition.name).Nodup := by simpa using htags
    simp [hnot]
  | none =>
    have hnodup := (htags.1 hfirst).1
    cases hsecond : firstRepeated? (tags.map Definition.name)
        (compounds.map CompoundDefinition.name) with
    | some name =>
      rw [hsecond] at hcompounds
      dsimp only
      constructor
      · intro h
        exact absurd h (by simp)
      · rintro ⟨-, hdistinct, hapart, -⟩
        exact absurd (hcompounds.2 ⟨hdistinct, hapart⟩) (by simp)
    | none =>
      obtain ⟨hdistinct, hapart⟩ := hcompounds.1 hsecond
      dsimp only
      rw [map_eq_ok_iff]
      constructor
      · rintro ⟨entries, hentries, rfl⟩
        exact ⟨hnodup, hdistinct, hapart, rfl, rfl, (mapM_ok_iff _ _).1 hentries⟩
      · rintro ⟨-, -, -, rfl, rfl, hentries⟩
        exact ⟨r.entries, (mapM_ok_iff _ _).2 hentries, rfl⟩

/-- A registry that was built holds the given definitions, under distinct names. -/
theorem entries_of_build (h : Registry.build version tags compounds compiler = .ok r) :
    r.entries.map Entry.definition = tags ∧ r.tagNames.Nodup := by
  obtain ⟨hnodup, -, -, -, -, hentries⟩ := build_ok_iff.1 h
  have hdefinitions := map_definition_of_forall₂ hentries
  refine ⟨hdefinitions, ?_⟩
  rw [← hdefinitions, List.map_map] at hnodup
  exact hnodup

theorem compounds_of_build (h : Registry.build version tags compounds compiler = .ok r) :
    r.compounds = compounds ∧ r.compoundNames.Nodup ∧ ∀ name ∈ r.compoundNames, name ∉ r.tagNames := by
  obtain ⟨-, hdistinct, hapart, -, rfl, hentries⟩ := build_ok_iff.1 h
  refine ⟨rfl, hdistinct, ?_⟩
  rw [← map_definition_of_forall₂ hentries, List.map_map] at hapart
  exact hapart

/-- The patterns of an entry are those of its definition. -/
theorem ofDefinition_of_mem (h : Registry.build version tags compounds compiler = .ok r) {e : Entry}
    (he : e ∈ r.entries) : Entry.ofDefinition compiler e.definition = .ok e := by
  obtain ⟨-, -, -, -, -, hentries⟩ := build_ok_iff.1 h
  obtain ⟨d, -, hd⟩ := mem_of_forall₂ hentries he
  rw [Entry.definition_of_ofDefinition hd]
  exact hd

/-! ### Look-ups -/

theorem entry?_eq_some_iff (hnames : r.tagNames.Nodup) (name : String) (e : Entry) :
    r.entry? name = some e ↔ e ∈ r.entries ∧ e.name = name := by
  unfold entry?
  constructor
  · intro h
    exact ⟨List.mem_of_find?_eq_some h, by simpa using List.find?_some h⟩
  · rintro ⟨he, rfl⟩
    obtain ⟨e', hfind⟩ : ∃ e', r.entries.find? (·.name = e.name) = some e' :=
      Option.isSome_iff_exists.1 (List.find?_isSome.2 ⟨e, he, by simp⟩)
    have hname : e'.name = e.name := by simpa using List.find?_some hfind
    rw [hfind, List.inj_on_of_nodup_map hnames (List.mem_of_find?_eq_some hfind) he hname]

theorem entry?_eq_none_iff (r : Registry) (name : String) :
    r.entry? name = none ↔ name ∉ r.tagNames := by
  unfold entry? tagNames
  rw [List.find?_eq_none, List.mem_map]
  simp

theorem ofDefinition_of_entry? (h : Registry.build version tags compounds compiler = .ok r)
    {name : String} {e : Entry} (he : r.entry? name = some e) :
    Entry.ofDefinition compiler e.definition = .ok e :=
  ofDefinition_of_mem h ((entry?_eq_some_iff (entries_of_build h).2 name e).1 he).1

/-- The definition of a name is the one that was given under it. -/
theorem definition?_eq_some_iff (h : Registry.build version tags compounds compiler = .ok r)
    (name : String) (d : Definition) : r.definition? name = some d ↔ d ∈ tags ∧ d.name = name := by
  obtain ⟨hdefinitions, hnames⟩ := entries_of_build h
  unfold definition?
  rw [Option.map_eq_some_iff]
  constructor
  · rintro ⟨e, he, rfl⟩
    obtain ⟨hmem, hname⟩ := (entry?_eq_some_iff hnames name e).1 he
    refine ⟨?_, hname⟩
    rw [← hdefinitions]
    exact List.mem_map_of_mem hmem
  · rintro ⟨hmem, hname⟩
    rw [← hdefinitions] at hmem
    obtain ⟨e, he, rfl⟩ := List.mem_map.1 hmem
    exact ⟨e, (entry?_eq_some_iff hnames name e).2 ⟨he, hname⟩, rfl⟩

end Registry

end TagAudit.Tag
