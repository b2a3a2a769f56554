import TagAudit.Proofs.Tag.CodeOnly

/-!
# Definitions one by one (`TagExtractor.extract`)

What is found under a name depends on the definition of that name alone, whatever other definitions a
registry holds and in whatever order. The five sources write into one profile and searches inside
blocks share their blocks, but names are distinct, so no definition writes under the name of another.
-/

namespace TagAudit.Tag

theorem lookup_definedFindings_eq_none (r : Registry) (text : SourceText)
    (summary : Option Syntax.Summary) (name : String) (h : name ∉ r.tagNames) :
    (r.definedFindings text summary).reverse.lookup name = none := by
  cases hlookup : (r.definedFindings text summary).reverse.lookup name with
  | none => rfl
  | some d =>
    have hmem := List.mem_reverse.1 (mem_of_lookup hlookup)
    obtain ⟨e, he, rfl, -⟩ := (mem_definedFindings r text summary name d).1 hmem
    exact absurd (List.mem_map_of_mem he) h

/-- What stands under any name in the profile of a file, told by the entry of that name. -/
theorem get?_extract_eq (r : Registry) (hnames : r.tagNames.Nodup) (text : List Char)
    (summary : Option Syntax.Summary) (name : String) :
    (r.extract text summary).details.get? name =
      (measured? text name).or
        ((r.entry? name).bind (Entry.detect (SourceText.ofChars text) summary)) := by
  cases hentry : r.entry? name with
  | some e =>
    obtain ⟨he, rfl⟩ := (Registry.entry?_eq_some_iff hnames name e).1 hentry
    exact get?_extract_of_mem r hnames text summary he
  | none =>
    have hnot := (r.entry?_eq_none_iff name).1 hentry
    rw [get?_extract, lookup_definedFindings_eq_none r _ summary name hnot]
    rfl

section Built

variable {version version' : String} {tags tags' : List Definition}
  {compounds compounds' : List CompoundDefinition} {r r' : Registry}

/-- Two registries with the same definition of a name have the same entry of that name. -/
theorem Registry.entry?_congr (hr : Registry.build version tags compounds = .ok r)
    (hr' : Registry.build version' tags' compounds' = .ok r') {name : String}
    (h : r'.definition? name = r.definition? name) : r'.entry? name = r.entry? name := by
  unfold Registry.definition? at h
  cases hentry : r.entry? name with
  | none =>
    rw [hentry] at h
    exact Option.map_eq_none_iff.1 h
  | some e =>
    rw [hentry] at h
    obtain ⟨e', hentry', hdefinition⟩ := Option.map_eq_some_iff.1 h
    -- The patterns are made from the definition, so equal definitions make equal entries.
    have he := Registry.ofDefinition_of_entry? hr hentry
    have he' := Registry.ofDefinition_of_entry? hr' hentry'
    rw [hdefinition, he] at he'
    rw [hentry', Except.ok.inj he']

theorem get?_extract_congr (hr : Registry.build version tags compounds = .ok r)
    (hr' : Registry.build version' tags' compounds' = .ok r') (text : List Char)
    (summary : Option Syntax.Summary) {name : String}
    (h : r'.definition? name = r.definition? name) :
    (r'.extract text summary).details.get? name = (r.extract text summary).details.get? name := by
  rw [get?_extract_eq r' (Registry.entries_of_build hr').2,
    get?_extract_eq r (Registry.entries_of_build hr).2, Registry.entry?_congr hr hr' h]

theorem Registry.definition?_congr (hr : Registry.build version tags compounds = .ok r)
    (hr' : Registry.build version' tags' compounds' = .ok r') {name : String}
    (h : ∀ d : Definition, d.name = name → (d ∈ tags' ↔ d ∈ tags)) :
    r'.definition? name = r.definition? name := by
  ext d
  rw [Registry.definition?_eq_some_iff hr', Registry.definition?_eq_some_iff hr]
  constructor
  · rintro ⟨hmem, hname⟩
    exact ⟨(h d hname).1 hmem, hname⟩
  · rintro ⟨hmem, hname⟩
    exact ⟨(h d hname).2 hmem, hname⟩

/-- The definition of a name makes a registry by itself. -/
theorem Registry.build_alone (hr : Registry.build version tags compounds = .ok r) (name : String) :
    ∃ alone, Registry.build version (r.definition? name).toList [] = .ok alone ∧
      alone.definition? name = r.definition? name := by
  have hbuild : ∃ alone, Registry.build version (r.definition? name).toList [] = .ok alone := by
    unfold Registry.definition?
    cases hentry : r.entry? name with
    | none => exact ⟨⟨version, [], []⟩, rfl⟩
    | some e =>
      have he := Registry.ofDefinition_of_entry? hr hentry
      refine ⟨⟨version, [e], []⟩, Registry.build_ok_iff.2 ⟨?_, ?_, ?_, rfl, rfl, ?_⟩⟩
      · simp
      · simp
      · simp
      · exact .cons he .nil
  obtain ⟨alone, halone⟩ := hbuild
  refine ⟨alone, halone, ?_⟩
  ext d
  rw [Registry.definition?_eq_some_iff halone, Option.mem_toList]
  constructor
  · rintro ⟨h, -⟩
    exact h
  · intro h
    exact ⟨h, ((Registry.definition?_eq_some_iff hr name d).1 h).2⟩

/-- What a profile holds under a name is what it holds by the registry of that name's definition
alone, and by any other registry that defines the name in the same way. Blocks that searches share
have no part in it: from any memory of blocks of the text, each definition finds what it finds by
cutting the blocks itself. -/
theorem extract_one_by_one (hr : Registry.build version tags compounds = .ok r) (text : List Char)
    (summary : Option Syntax.Summary) (name : String) :
    (∃ alone, Registry.build version (r.definition? name).toList [] = .ok alone ∧
      (alone.extract text summary).details.get? name =
        (r.extract text summary).details.get? name) ∧
    (∀ version' tags' compounds' r', Registry.build version' tags' compounds' = .ok r' →
      (∀ d : Definition, d.name = name → (d ∈ tags' ↔ d ∈ tags)) →
      (r'.extract text summary).details.get? name = (r.extract text summary).details.get? name ∧
      (r'.extract text summary).has name = (r.extract text summary).has name) ∧
    ∀ memory : BlockMemory, memory.Sound (SourceText.ofChars text) →
      blockFindings (SourceText.ofChars text) memory (r.ofKind .contextual) =
        r.findingsOfKind (SourceText.ofChars text) summary .contextual := by
  refine ⟨?_, ?_, ?_⟩
  · obtain ⟨alone, halone, hdefinition⟩ := Registry.build_alone hr name
    exact ⟨alone, halone, get?_extract_congr hr halone text summary hdefinition⟩
  · intro version' tags' compounds' r' hr' h
    have hsame := get?_extract_congr hr hr' text summary (Registry.definition?_congr hr hr' h)
    exact ⟨hsame,
      (r.detailed_extract text summary).has_congr (r'.detailed_extract text summary) hsame⟩
  · intro memory hmemory
    exact blockFindings_ofKind hmemory r summary

end Built

/-- Two searches that share the blocks of loops, and a pattern under the name of a measure. -/
def sharedBlockDefinitions : List Definition :=
  [⟨"FIRST", "", "", .contextual .loopBody ⟨["x"], true, false⟩⟩,
    ⟨"SECOND", "", "", .contextual .loopBody ⟨["y"], true, false⟩⟩,
    ⟨"NESTING_DEEP", "", "", .pattern .any ⟨["for"], true, true⟩⟩]

def sharedBlockText : List Char := "for(;;)\x7bx;y\x7d".toList

theorem extract_second_of_shared :
    ∃ r alone, Registry.build "1" sharedBlockDefinitions [] = .ok r ∧
      Registry.build "1" (r.definition? "SECOND").toList [] = .ok alone ∧
      (r.extract sharedBlockText none).details.get? "SECOND" = some (.contextual "x;y") ∧
      (alone.extract sharedBlockText none).details.get? "SECOND" =
        some (.contextual "x;y") := by
  have hbuilt : (Registry.build "1" sharedBlockDefinitions []).toOption.map
      (fun r => (r.extract sharedBlockText none).details.get? "SECOND") =
        some (some (.contextual "x;y")) := by
    decide +kernel
  cases hr : Registry.build "1" sharedBlockDefinitions [] with
  | error fault =>
    rw [hr] at hbuilt
    exact absurd hbuilt (by simp [Except.toOption])
  | ok r =>
    rw [hr] at hbuilt
    have hfound := Option.some.inj hbuilt
    obtain ⟨⟨alone, halone, hsame⟩, -⟩ := extract_one_by_one hr sharedBlockText none "SECOND"
    exact ⟨r, alone, rfl, halone, hfound, hsame.trans hfound⟩

end TagAudit.Tag
