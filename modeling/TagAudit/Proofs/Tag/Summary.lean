import TagAudit.Proofs.Compound.Resolution
import TagAudit.Proofs.Tag.Restriction

/-!
# What a syntax summary adds (`TagExtractor.extract`)

The findings of a summary stand between those of patterns and those of blocks and measures, and
later findings override earlier ones. Names of definitions are distinct, so a summary writes only
under the names of its own definitions, and a measure of the same name overrides it as it overrides
everything else. So a summary takes no tag away and changes no detail.
-/

namespace TagAudit.Tag

/-- A detection that a summary decides, and decides in favour of the tag. -/
def Detection.MetBy (summary : Syntax.Summary) : Detection → Prop
  | .metric m comparison threshold => comparison.holds (m.value summary) threshold = true
  | .node feature => feature.isIn summary = true
  | .pattern _ _ => False
  | .contextual _ _ => False

theorem Entry.detect_of_none {e : Entry} {text : SourceText} {d : Detail}
    (h : e.detect text none = some d) (summary : Option Syntax.Summary) :
    e.detect text summary = some d := by
  unfold Entry.detect at h ⊢
  cases hdetection : e.definition.detection with
  | pattern quorum set =>
    rw [hdetection] at h
    exact h
  | contextual context set =>
    rw [hdetection] at h
    exact h
  | metric metric comparison threshold =>
    rw [hdetection] at h
    contradiction
  | node feature =>
    rw [hdetection] at h
    contradiction

theorem Entry.exists_detect_iff (e : Entry) (text : SourceText) (summary : Syntax.Summary) :
    (∃ d, e.detect text (some summary) = some d) ↔
      (∃ d, e.detect text none = some d) ∨ e.definition.detection.MetBy summary := by
  unfold Entry.detect
  cases e.definition.detection with
  | pattern quorum set => simp [Detection.MetBy]
  | contextual context set => simp [Detection.MetBy]
  | metric metric comparison threshold => simp [Detection.MetBy]
  | node feature => simp [Detection.MetBy]

section Registered

variable {r : Registry} (hnames : r.tagNames.Nodup)

include hnames

theorem mem_tags_extract_iff (text : List Char) (summary : Option Syntax.Summary) (name : String) :
    name ∈ (r.extract text summary).tags ↔
      (∃ d, measured? text name = some d) ∨
        ∃ e, r.entry? name = some e ∧ ∃ d, e.detect (SourceText.ofChars text) summary = some d := by
  rw [(r.detailed_extract text summary).mem_tags_iff]
  simp only [get?_extract_eq r hnames]
  cases measured? text name with
  | none =>
    simp only [Option.none_or, Option.bind_eq_some_iff, reduceCtorEq, exists_false, false_or]
    rw [exists_comm]
    simp only [exists_and_left]
  | some d => simp

theorem get?_extract_of_none {text : List Char} {name : String} {d : Detail}
    (h : (r.extract text none).details.get? name = some d) (summary : Option Syntax.Summary) :
    (r.extract text summary).details.get? name = some d := by
  rw [get?_extract_eq r hnames, Option.or_eq_some_iff] at h ⊢
  rcases h with hmeasured | ⟨hnone, hdetect⟩
  · exact .inl hmeasured
  · obtain ⟨e, he, hd⟩ := Option.bind_eq_some_iff.1 hdetect
    exact .inr ⟨hnone, Option.bind_eq_some_iff.2 ⟨e, he, Entry.detect_of_none hd summary⟩⟩

theorem mem_tags_extract_some_iff (text : List Char) (summary : Syntax.Summary) (name : String) :
    name ∈ (r.extract text (some summary)).tags ↔
      name ∈ (r.extract text none).tags ∨
        ∃ definition, r.definition? name = some definition ∧
          definition.detection.MetBy summary := by
  rw [mem_tags_extract_iff hnames, mem_tags_extract_iff hnames, or_assoc]
  refine or_congr_right ?_
  simp only [Registry.definition?, Option.map_eq_some_iff, Entry.exists_detect_iff]
  constructor
  · intro h
    obtain ⟨e, he, hdetect | hmet⟩ := h
    · exact .inl ⟨e, he, hdetect⟩
    · exact .inr ⟨_, ⟨e, he, rfl⟩, hmet⟩
  · intro h
    obtain ⟨e, he, hdetect⟩ | ⟨_, ⟨e, he, rfl⟩, hmet⟩ := h
    · exact ⟨e, he, .inl hdetect⟩
    · exact ⟨e, he, .inr hmet⟩

theorem known_of_mem_tags {text : List Char} {summary : Option Syntax.Summary} {name : String}
    (h : name ∈ (r.extract text summary).tags) : name ∈ r.tagNames ∨ name ∈ builtinNames := by
  rcases (mem_tags_extract_iff hnames text summary name).1 h with ⟨d, hd⟩ | ⟨e, he, -⟩
  · right
    by_contra hnot
    rw [measured?_eq_none text name hnot] at hd
    contradiction
  · left
    by_contra hnot
    rw [(r.entry?_eq_none_iff name).2 hnot] at he
    contradiction

end Registered

/-! ### Unknown references -/

theorem unknown_of_warning {r : Registry} {compound name : String}
    (h : Warning.unknownReference compound name ∈ r.warnings) :
    name ∉ r.compoundNames ∧ name ∉ r.tagNames ∧ name ∉ builtinNames := by
  unfold Registry.warnings at h
  rcases List.mem_append.1 h with h | h
  · obtain ⟨e, -, hwarning⟩ := List.mem_flatMap.1 h
    unfold Registry.patternWarnings at hwarning
    cases hset : e.definition.detection.patternSet? with
    | none => simp [hset] at hwarning
    | some set =>
      rw [hset] at hwarning
      exact absurd (List.eq_of_mem_replicate hwarning) (by simp)
  · obtain ⟨c, -, hwarning⟩ := List.mem_flatMap.1 h
    unfold Registry.compoundWarnings at hwarning
    cases hparse : Expression.parse c.expression with
    | error fault => simp [hparse] at hwarning
    | ok e =>
      rw [hparse] at hwarning
      obtain ⟨reference, -, hreference⟩ := List.mem_filterMap.1 hwarning
      by_cases hcompound : reference ∈ r.compoundNames
      · simp [hcompound] at hreference
      · by_cases hknown : r.knows reference = true
        · simp [hcompound, hknown] at hreference
        · rw [if_neg hcompound, if_neg hknown] at hreference
          obtain ⟨-, rfl⟩ := Warning.unknownReference.inj (Option.some.inj hreference)
          simpa [Registry.knows, hcompound] using hknown

/-- A name that no profile of a registry holds, whether of a file, of wanted tags or of an
analysis. -/
def Registry.NeverFinds (r : Registry) (name : String) : Prop :=
  (∀ text summary, name ∉ (r.extract text summary).tags) ∧
  (∀ text wanted summary, name ∉ (r.extractOnly text wanted summary).tags) ∧
  ∀ a : Analyzer, a.registry = r → ∀ text, name ∉ (a.profile text).profile.tags

theorem neverFinds_of_unknown {version : String} {tags : List Definition}
    {compounds : List CompoundDefinition} {r : Registry}
    (hr : Registry.build version tags compounds = .ok r) {name : String}
    (hcompound : name ∉ r.compoundNames) (htag : name ∉ r.tagNames)
    (hbuiltin : name ∉ builtinNames) : r.NeverFinds name := by
  have hextract : ∀ text summary, name ∉ (r.extract text summary).tags := by
    intro text summary hmem
    exact (known_of_mem_tags (Registry.entries_of_build hr).2 hmem).elim htag hbuiltin
  refine ⟨hextract, ?_, ?_⟩
  · intro text wanted summary hmem
    exact hextract text summary ((Profile.mem_tags_only _ wanted name).1 hmem).2
  · rintro a rfl text hmem
    rcases (Compound.mem_tags_extend_iff _ _ name).1 hmem with hbase | ⟨result, hget, -⟩
    · exact hextract text _ hbase
    · obtain ⟨d, hd, rfl, -⟩ := (get?_profile_compounds hr text name result).1 hget
      exact hcompound (List.mem_map_of_mem hd)

/-- A syntax summary only adds tags. What is found without it is found with it for the same reason;
what is found besides has a definition by a measure or a feature that the summary meets, and every
such tag is found. All tags are defined or measured on every text, so a reference that a warning
calls unknown is in no profile. -/
theorem summary_only_adds {version : String} {tags : List Definition}
    {compounds : List CompoundDefinition} {r : Registry}
    (hr : Registry.build version tags compounds = .ok r) (text : List Char)
    (summary : Syntax.Summary) :
    let bare := r.extract text none
    let full := r.extract text (some summary)
    (∀ name d, bare.details.get? name = some d → full.details.get? name = some d) ∧
    (∀ name, name ∈ full.tags ↔ name ∈ bare.tags ∨
      ∃ definition, r.definition? name = some definition ∧ definition.detection.MetBy summary) ∧
    (∀ name, name ∈ bare.tags ∨ name ∈ full.tags → name ∈ r.tagNames ∨ name ∈ builtinNames) ∧
    ∀ compound name, .unknownReference compound name ∈ r.warnings → r.NeverFinds name := by
  intro bare full
  have hnames := (Registry.entries_of_build hr).2
  refine ⟨?_, mem_tags_extract_some_iff hnames text summary, ?_, ?_⟩
  · intro name d hbare
    exact get?_extract_of_none hnames hbare (some summary)
  · intro name hfound
    rcases hfound with hbare | hfull
    · exact known_of_mem_tags hnames hbare
    · exact known_of_mem_tags hnames hfull
  · intro compound name hwarning
    obtain ⟨hcompound, htag, hbuiltin⟩ := unknown_of_warning hwarning
    exact neverFinds_of_unknown hr hcompound htag hbuiltin

/-- A pattern, a feature, and a measure of the summary under the name of a measure of the text. -/
def summaryDefinitions : List Definition :=
  [⟨"USES_LOCK", "", "", .pattern .any ⟨["lock"], true, true⟩⟩, ⟨"LOOPS", "", "", .node .loop⟩,
    ⟨"NESTING_DEEP", "", "", .metric .maxNestingDepth .atLeast 3⟩]

def loopSummary : Syntax.Summary := { hasLoop := true, maxNestingDepth := 3 }

theorem loop_summary_only_adds :
    ∃ r, Registry.build "1" summaryDefinitions [⟨"BUSY", "LOOPS && TYPO", .low, ""⟩] = .ok r ∧
      (r.extract "lock()".toList (some loopSummary)).details.get? "USES_LOCK" =
        some (.pattern ["lock"] 1) ∧
      "NESTING_DEEP" ∈ (r.extract "lock()".toList (some loopSummary)).tags ∧
      .unknownReference "BUSY" "TYPO" ∈ r.warnings ∧ r.NeverFinds "TYPO" := by
  have hbuilt : (Registry.build "1" summaryDefinitions
      [⟨"BUSY", "LOOPS && TYPO", .low, ""⟩]).toOption.map (fun r =>
        ((r.extract "lock()".toList none).details.get? "USES_LOCK",
          (r.definition? "NESTING_DEEP").map Definition.detection, r.warnings)) =
      some (some (.pattern ["lock"] 1), some (.metric .maxNestingDepth .atLeast 3),
        [.unknownReference "BUSY" "TYPO"]) := by
    decide +kernel
  cases hr : Registry.build "1" summaryDefinitions [⟨"BUSY", "LOOPS && TYPO", .low, ""⟩] with
  | error fault =>
    rw [hr] at hbuilt
    contradiction
  | ok r =>
    rw [hr] at hbuilt
    obtain ⟨hlock, hrest⟩ := Prod.mk.inj (Option.some.inj hbuilt)
    obtain ⟨hnesting, hwarnings⟩ := Prod.mk.inj hrest
    obtain ⟨hkept, hfound, -, hunknown⟩ := summary_only_adds hr "lock()".toList loopSummary
    have hwarning : Warning.unknownReference "BUSY" "TYPO" ∈ r.warnings := by
      rw [hwarnings]
      exact List.mem_singleton.2 rfl
    obtain ⟨definition, hdefinition, hdetection⟩ := Option.map_eq_some_iff.1 hnesting
    refine ⟨r, rfl, hkept _ _ hlock, (hfound _).2 (.inr ⟨definition, hdefinition, ?_⟩), hwarning,
      hunknown _ _ hwarning⟩
    rw [hdetection]
    rfl

end TagAudit.Tag
