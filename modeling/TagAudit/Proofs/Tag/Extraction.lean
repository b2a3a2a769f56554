import Mathlib.Data.List.Nodup
import TagAudit.Proofs.Basic
import TagAudit.Proofs.Table
import TagAudit.Tag.Extract

/-!
# The findings of a file (`TagExtractor.extract`)

What stands under a name in the profile of a file: the finding of the measure of that name, or else
that of the definition.
-/

namespace TagAudit.Tag

/-! ### Findings -/

theorem get?_ofFindings (findings : List (String × Detail)) (name : String) :
    (Profile.ofFindings findings).details.get? name = findings.reverse.lookup name := by
  unfold Profile.ofFindings Table.ofList
  rw [Table.get?_putAll]
  simp [Table.empty, Table.get?]

/-- Every tag of a profile has a detail, and no other name has one. -/
def Profile.Detailed (p : Profile) : Prop := ∀ name, name ∈ p.tags ↔ name ∈ p.details.keys

theorem Registry.detailed_extract (r : Registry) (text : List Char)
    (summary : Option Syntax.Summary) : (r.extract text summary).Detailed :=
  fun _ => Iff.rfl

theorem Profile.Detailed.mem_tags_iff {p : Profile} (h : p.Detailed) (name : String) :
    name ∈ p.tags ↔ ∃ d, p.details.get? name = some d :=
  (h name).trans (Table.mem_keys_iff p.details name)

theorem Profile.Detailed.length_tags {p : Profile} (h : p.Detailed) :
    p.tags.length = p.details.size := by
  have hperm : p.tags.Perm p.details.keys :=
    (List.perm_ext_iff_of_nodup p.tags_nodup p.details.nodup_keys).2 h
  rw [hperm.length_eq, Table.length_keys]

theorem Profile.Detailed.has_congr {p p' : Profile} (h : p.Detailed) (h' : p'.Detailed)
    {name : String} (hname : p'.details.get? name = p.details.get? name) :
    p'.has name = p.has name := by
  unfold Profile.has
  refine decide_eq_decide.2 ?_
  rw [h.mem_tags_iff, h'.mem_tags_iff, hname]

/-! ### Blocks from memory -/

/-- A memory that holds nothing but blocks of a text. -/
def BlockMemory.Sound (memory : BlockMemory) (text : SourceText) : Prop :=
  ∀ context codeOnly blocks, memory.get? (context, codeOnly) = some blocks →
    blocks = context.blocks (text.searched codeOnly)

section Blocks

variable {text : SourceText} {memory : BlockMemory}

theorem BlockMemory.sound_empty (text : SourceText) : BlockMemory.Sound .empty text := by
  intro context codeOnly blocks h
  exact absurd h (by simp [Table.empty, Table.get?])

theorem BlockMemory.Sound.recall (h : BlockMemory.Sound memory text) (context : Context)
    (codeOnly : Bool) :
    (BlockMemory.recall memory text context codeOnly).1 = context.blocks (text.searched codeOnly) ∧
      BlockMemory.Sound (BlockMemory.recall memory text context codeOnly).2 text := by
  unfold BlockMemory.recall
  cases hget : memory.get? (context, codeOnly) with
  | some blocks => exact ⟨h context codeOnly blocks hget, h⟩
  | none =>
    refine ⟨rfl, ?_⟩
    intro context' codeOnly' blocks hput
    rw [Table.get?_put] at hput
    by_cases hkey : (context', codeOnly') = (context, codeOnly)
    · rw [if_pos hkey] at hput
      obtain ⟨rfl, rfl⟩ := Prod.mk.inj hkey
      exact (Option.some.inj hput).symm
    · rw [if_neg hkey] at hput
      exact h context' codeOnly' blocks hput

theorem Entry.detectInBlocks_eq (h : BlockMemory.Sound memory text) {e : Entry}
    (hkind : e.definition.detection.kind = .contextual) (summary : Option Syntax.Summary) :
    (e.detectInBlocks text memory).1 = e.detect text summary ∧
      BlockMemory.Sound (e.detectInBlocks text memory).2 text := by
  unfold Entry.detectInBlocks Entry.detect
  cases hdetection : e.definition.detection with
  | pattern | metric | node =>
    rw [hdetection] at hkind
    exact absurd hkind (by simp [Detection.kind])
  | contextual context set =>
    obtain ⟨hblocks, hsound⟩ := h.recall context set.codeOnly
    by_cases hpatterns : e.patterns.isEmpty = true
    · simp only [if_pos hpatterns]
      exact ⟨trivial, h⟩
    · simp only [if_neg hpatterns, hblocks]
      exact ⟨trivial, hsound⟩

/-- The memory has no part in what is found inside blocks. -/
theorem blockFindings_eq (h : BlockMemory.Sound memory text) (entries : List Entry)
    (hkind : ∀ e ∈ entries, e.definition.detection.kind = .contextual)
    (summary : Option Syntax.Summary) :
    blockFindings text memory entries =
      entries.filterMap fun e => (e.detect text summary).map (e.name, ·) := by
  induction entries generalizing memory with
  | nil => rfl
  | cons e rest ih =>
    obtain ⟨hdetail, hsound⟩ := Entry.detectInBlocks_eq h (hkind e List.mem_cons_self) summary
    have hrest := ih hsound fun e' he' => hkind e' (List.mem_cons_of_mem e he')
    rw [blockFindings]
    dsimp only
    rw [hdetail, hrest]
    cases hfound : e.detect text summary with
    | none => simp [hfound]
    | some d => simp [hfound]

theorem blockFindings_ofKind (h : BlockMemory.Sound memory text) (r : Registry)
    (summary : Option Syntax.Summary) :
    blockFindings text memory (r.ofKind .contextual) = r.findingsOfKind text summary .contextual := by
  refine blockFindings_eq h _ ?_ summary
  intro e he
  simpa using (List.mem_filter.1 he).2

end Blocks

/-! ### Findings of definitions and of measures -/

/-- The findings by definitions, in the order of the kinds of detection. -/
def Registry.definedFindings (r : Registry) (text : SourceText) (summary : Option Syntax.Summary) :
    List (String × Detail) :=
  [DetectionKind.pattern, .metric, .node, .contextual].flatMap (r.findingsOfKind text summary)

theorem Registry.findings_eq (r : Registry) (text : List Char) (summary : Option Syntax.Summary) :
    r.findings text summary =
      r.definedFindings (SourceText.ofChars text) summary ++ textMeasures.filterMap (·.finding? text) := by
  have hblocks := blockFindings_ofKind (BlockMemory.sound_empty (SourceText.ofChars text)) r summary
  unfold Registry.findings Registry.definedFindings
  dsimp only
  rw [hblocks]
  simp [List.flatMap_cons]

theorem mem_definedFindings (r : Registry) (text : SourceText) (summary : Option Syntax.Summary)
    (name : String) (d : Detail) :
    (name, d) ∈ r.definedFindings text summary ↔
      ∃ e ∈ r.entries, e.name = name ∧ e.detect text summary = some d := by
  have hkinds : ∀ kind, kind ∈ [DetectionKind.pattern, .metric, .node, .contextual] := by
    intro kind
    cases kind <;> decide
  unfold Registry.definedFindings Registry.findingsOfKind Registry.ofKind
  rw [List.mem_flatMap]
  constructor
  · rintro ⟨kind, -, hmem⟩
    obtain ⟨e, he, hdetect⟩ := List.mem_filterMap.1 hmem
    obtain ⟨d', hd', heq⟩ := Option.map_eq_some_iff.1 hdetect
    obtain ⟨rfl, rfl⟩ := Prod.mk.inj heq
    exact ⟨e, (List.mem_filter.1 he).1, rfl, hd'⟩
  · rintro ⟨e, he, rfl, hdetect⟩
    refine ⟨e.definition.detection.kind, hkinds _, List.mem_filterMap.2 ⟨e, ?_, ?_⟩⟩
    · exact List.mem_filter.2 ⟨he, by simp⟩
    · rw [hdetect]
      rfl

/-- The finding of the measure of the bare text that has a name. -/
def measured? (text : List Char) (name : String) : Option Detail :=
  (textMeasures.filterMap (·.finding? text)).reverse.lookup name

theorem get?_extract (r : Registry) (text : List Char) (summary : Option Syntax.Summary)
    (name : String) :
    (r.extract text summary).details.get? name =
      (measured? text name).or
        ((r.definedFindings (SourceText.ofChars text) summary).reverse.lookup name) := by
  unfold Registry.extract
  rw [get?_ofFindings, Registry.findings_eq, List.reverse_append, List.lookup_append]
  rfl

theorem TextMeasure.finding?_eq_some_iff (m : TextMeasure) (text : List Char) (name : String)
    (d : Detail) :
    m.finding? text = some (name, d) ↔ m.tag = name ∧ m.threshold ≤ m.measure text ∧
      d = .metric (m.measure text) .atLeast m.threshold m.confidence := by
  unfold TextMeasure.finding?
  dsimp only
  by_cases h : m.threshold ≤ m.measure text
  · rw [if_pos h, Option.some.injEq, Prod.mk.injEq]
    simp only [h, true_and, eq_comm]
  · rw [if_neg h]
    simp [h]

theorem measureNames_nodup (text : List Char) :
    ((textMeasures.filterMap (·.finding? text)).map Prod.fst).Nodup := by
  have hsublist : ∀ measures : List TextMeasure,
      ((measures.filterMap (·.finding? text)).map Prod.fst).Sublist (measures.map TextMeasure.tag) := by
    intro measures
    induction measures with
    | nil => exact .slnil
    | cons m rest ih =>
      cases hfinding : m.finding? text with
      | none =>
        rw [List.filterMap_cons_none hfinding]
        exact ih.cons _
      | some entry =>
        rw [List.filterMap_cons_some hfinding, List.map_cons, List.map_cons,
          ((m.finding?_eq_some_iff text entry.1 entry.2).1 hfinding).1]
        exact ih.cons_cons _
  have hnames : (textMeasures.map TextMeasure.tag).Nodup := by decide
  exact hnames.sublist (hsublist textMeasures)

theorem measured?_eq_some_iff (text : List Char) (name : String) (d : Detail) :
    measured? text name = some d ↔ ∃ m ∈ textMeasures, m.tag = name ∧
      m.threshold ≤ m.measure text ∧
      d = .metric (m.measure text) .atLeast m.threshold m.confidence := by
  unfold measured?
  rw [Table.lookup_reverse_eq_some_iff (measureNames_nodup text), List.mem_filterMap]
  simp only [TextMeasure.finding?_eq_some_iff]

theorem measured?_eq_none_iff (text : List Char) (name : String) :
    measured? text name = none ↔
      ∀ m ∈ textMeasures, m.tag = name → m.measure text < m.threshold := by
  rw [Option.eq_none_iff_forall_ne_some]
  constructor
  · intro hnone m hm htag
    by_contra hhigh
    exact hnone _ ((measured?_eq_some_iff text name _).2 ⟨m, hm, htag, Nat.not_lt.1 hhigh, rfl⟩)
  · intro hlow d hsome
    obtain ⟨m, hm, htag, hhigh, -⟩ := (measured?_eq_some_iff text name d).1 hsome
    have hlt := hlow m hm htag
    omega

/-- Only the tags that are measured on every text have a measure. -/
theorem measured?_eq_none (text : List Char) (name : String) (h : name ∉ builtinNames) :
    measured? text name = none := by
  have htags : ∀ m ∈ textMeasures, m.tag ∈ builtinNames := by
    simp [textMeasures, builtinNames]
  rw [measured?_eq_none_iff]
  rintro m hm rfl
  exact absurd (htags m hm) h

/-! ### Registries with distinct names -/

theorem lookup_definedFindings (r : Registry) (hnames : r.tagNames.Nodup) (text : SourceText)
    (summary : Option Syntax.Summary) {e : Entry} (he : e ∈ r.entries) :
    (r.definedFindings text summary).reverse.lookup e.name = e.detect text summary := by
  have hsame : ∀ d, (e.name, d) ∈ r.definedFindings text summary ↔
      e.detect text summary = some d := by
    intro d
    rw [mem_definedFindings]
    constructor
    · rintro ⟨e', he', hname, hdetect⟩
      rwa [List.inj_on_of_nodup_map hnames he' he hname] at hdetect
    · intro hdetect
      exact ⟨e, he, rfl, hdetect⟩
  cases hlookup : (r.definedFindings text summary).reverse.lookup e.name with
  | some d => exact ((hsame d).1 (List.mem_reverse.1 (mem_of_lookup hlookup))).symm
  | none =>
    cases hdetect : e.detect text summary with
    | none => rfl
    | some d =>
      have hmem := List.mem_reverse.2 ((hsame d).2 hdetect)
      have hne := List.lookup_eq_none_iff.1 hlookup _ hmem
      exact absurd hne (by simp)

/-- What stands under the name of a definition: the finding of the measure of that name, if there is
one, and else that of the definition. -/
theorem get?_extract_of_mem (r : Registry) (hnames : r.tagNames.Nodup) (text : List Char)
    (summary : Option Syntax.Summary) {e : Entry} (he : e ∈ r.entries) :
    (r.extract text summary).details.get? e.name =
      (measured? text e.name).or (e.detect (SourceText.ofChars text) summary) := by
  rw [get?_extract, lookup_definedFindings r hnames _ summary he]

/-! ### Origins -/

theorem origin_detect {text : SourceText} {summary : Option Syntax.Summary} {e : Entry} {d : Detail}
    (h : e.detect text summary = some d) : d.origin ≠ .compound := by
  unfold Entry.detect at h
  cases hdetection : e.definition.detection with
  | pattern quorum set =>
    simp only [hdetection, patternDetail?] at h
    split at h
    · exact absurd h (by simp)
    · obtain rfl := Option.some.inj h
      simp [Detail.origin]
  | metric metric comparison threshold =>
    simp only [hdetection, Option.bind_eq_some_iff] at h
    obtain ⟨summary, -, h⟩ := h
    split at h
    · obtain rfl := Option.some.inj h
      simp [Detail.origin]
    · exact absurd h (by simp)
  | node feature =>
    simp only [hdetection, Option.bind_eq_some_iff] at h
    obtain ⟨summary, -, h⟩ := h
    split at h
    · obtain rfl := Option.some.inj h
      simp [Detail.origin]
    · exact absurd h (by simp)
  | contextual context set =>
    simp only [hdetection, blockDetail?] at h
    split at h
    · exact absurd h (by simp)
    · obtain ⟨block, -, rfl⟩ := Option.map_eq_some_iff.1 h
      simp [Detail.origin]

/-- The profile of a file holds no compound tag. -/
theorem origin_extract {r : Registry} {text : List Char} {summary : Option Syntax.Summary}
    {name : String} {d : Detail} (h : (r.extract text summary).details.get? name = some d) :
    d.origin ≠ .compound := by
  rw [get?_extract, Option.or_eq_some_iff] at h
  rcases h with h | ⟨-, h⟩
  · obtain ⟨m, -, -, -, rfl⟩ := (measured?_eq_some_iff text name d).1 h
    simp [Detail.origin]
  · obtain ⟨e, -, -, hdetect⟩ :=
      (mem_definedFindings r _ summary name d).1 (List.mem_reverse.1 (mem_of_lookup h))
    exact origin_detect hdetect

end TagAudit.Tag
