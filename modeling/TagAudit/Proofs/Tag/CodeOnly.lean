import TagAudit.Proofs.Source.Segment
import TagAudit.Proofs.Tag.Extraction
import TagAudit.Proofs.Tag.Registry

/-!
# Tags that are searched in code only (`TagExtractor.extract`)

A definition that leaves comments and literals out of its search sees the normalized text and nothing
else of a file. So what is written inside a comment or a literal has no say in whether its tag is
present, nor in why.
-/

namespace TagAudit.Tag

open Source (segments joined normalize AllClosed)

/-! ### Searches of the normalized text -/

def Entry.codeOnly (e : Entry) : Bool := e.definition.detection.patternSet?.any PatternSet.codeOnly

theorem Entry.detect_of_codeOnly {e : Entry} (h : e.codeOnly = true) {text text' : SourceText}
    (hcode : text'.code = text.code) (summary : Option Syntax.Summary) :
    e.detect text' summary = e.detect text summary := by
  unfold Entry.codeOnly at h
  unfold Entry.detect
  cases hdetection : e.definition.detection with
  | pattern quorum set =>
    rw [hdetection] at h
    have hset : set.codeOnly = true := h
    simp only [SourceText.searched, hset, if_true, hcode]
  | metric _ _ _ => rfl
  | node _ => rfl
  | contextual context set =>
    rw [hdetection] at h
    have hset : set.codeOnly = true := h
    simp only [SourceText.searched, hset, if_true, hcode]

/-- A comment or literal of a file in which every construct is closed can be given any other interior
that fits there. The normalized text stays the same, and so does what each definition finds that
searches code only; under its name only a measure of the bare text comes before that. -/
theorem extract_ignores_interiors {version : String} {tags : List Definition}
    {compounds : List CompoundDefinition} {r : Registry}
    (hr : Registry.build version tags compounds = .ok r) (summary : Option Syntax.Summary)
    {text : List Char} {before after : List Source.Segment} {s : Source.Segment}
    (hsegments : segments text = before ++ s :: after) (hclosed : AllClosed (segments text))
    {interior : List Char} (hfits : s.kind.Fits interior) :
    let edited := joined before ++ s.kind.enclose interior ++ joined after
    (∃ old, s.kind.Fits old ∧ text = joined before ++ s.kind.enclose old ++ joined after) ∧
    segments edited = before ++ ⟨s.kind, s.kind.enclose interior⟩ :: after ∧
    normalize edited = normalize text ∧
    ∀ e ∈ r.entries, e.codeOnly = true →
      let found := e.detect (SourceText.ofChars text) summary
      e.detect (SourceText.ofChars edited) summary = found ∧
      (r.extract text summary).details.get? e.name = (measured? text e.name).or found ∧
      (r.extract edited summary).details.get? e.name = (measured? edited e.name).or found ∧
      (e.name ∉ builtinNames →
        (r.extract edited summary).details.get? e.name =
          (r.extract text summary).details.get? e.name ∧
        (r.extract edited summary).has e.name = (r.extract text summary).has e.name) := by
  intro edited
  have hedited : edited = joined (before ++ ⟨s.kind, s.kind.enclose interior⟩ :: after) := by
    rw [Source.joined_append, Source.joined_cons, ← List.append_assoc]
  have hscan := Source.scan_segments text
  rw [hsegments] at hscan
  obtain ⟨old, hold, hs⟩ :=
    hscan.enclosed (List.mem_append_right before List.mem_cons_self) hfits.ne_code
  obtain ⟨hnew, hnormalize⟩ := Source.normalize_replace hsegments hclosed hfits
  rw [← hedited] at hnew hnormalize
  refine ⟨⟨old, hold, ?_⟩, hnew, hnormalize, ?_⟩
  · rw [← hscan.joined_eq, Source.joined_append, Source.joined_cons, hs, ← List.append_assoc]
  · intro e he hcodeOnly found
    have hdetect : e.detect (SourceText.ofChars edited) summary = found :=
      Entry.detect_of_codeOnly hcodeOnly hnormalize summary
    have hnames := (Registry.entries_of_build hr).2
    have hbefore := get?_extract_of_mem r hnames text summary he
    have hafter := get?_extract_of_mem r hnames edited summary he
    rw [hdetect] at hafter
    refine ⟨hdetect, hbefore, hafter, ?_⟩
    intro hname
    have hsame : (r.extract edited summary).details.get? e.name =
        (r.extract text summary).details.get? e.name := by
      rw [hbefore, hafter, measured?_eq_none edited e.name hname,
        measured?_eq_none text e.name hname]
    exact ⟨hsame,
      (r.detailed_extract text summary).has_congr (r.detailed_extract edited summary) hsame⟩

/-- A literal is made to name what is searched for, and the profile stays the same. -/
theorem extract_ignores_lock_in_literal :
    let definition : Definition := ⟨"USES_LOCK", "", "", .pattern .any ⟨["lock"], true, true⟩⟩
    let text := "lock(\"a\\\"\");//b".toList
    let edited := "lock(\"lock\");//b".toList
    ∃ r, Registry.build "1" [definition] [] = .ok r ∧ AllClosed (segments text) ∧
      normalize edited = normalize text ∧
      (r.extract edited none).details.get? "USES_LOCK" =
        (r.extract text none).details.get? "USES_LOCK" ∧
      (r.extract edited none).has "USES_LOCK" = (r.extract text none).has "USES_LOCK" := by
  intro definition text edited
  have hsegments : segments text =
      [⟨.code, ['l']⟩, ⟨.code, ['o']⟩, ⟨.code, ['c']⟩, ⟨.code, ['k']⟩, ⟨.code, ['(']⟩] ++
        ⟨.stringLiteral, ['"', 'a', '\\', '"', '"']⟩ ::
        [⟨.code, [')']⟩, ⟨.code, [';']⟩, ⟨.lineComment, ['/', '/', 'b']⟩] := by decide
  have hclosed : AllClosed (segments text) := by
    rw [hsegments]
    unfold AllClosed
    decide
  have hfits : Source.SegmentKind.stringLiteral.Fits ['l', 'o', 'c', 'k'] :=
    .plain (by decide) (by decide) (.plain (by decide) (by decide)
      (.plain (by decide) (by decide) (.plain (by decide) (by decide) .nil)))
  have hbuilt : (Registry.build "1" [definition] []).isOk = true := by decide +kernel
  cases hr : Registry.build "1" [definition] [] with
  | error fault =>
    rw [hr] at hbuilt
    cases hbuilt
  | ok r =>
    obtain ⟨e, he, hdefinition⟩ := List.map_eq_singleton_iff.1 (Registry.entries_of_build hr).1
    have hname : e.name = "USES_LOCK" := congrArg Definition.name hdefinition
    have hcodeOnly : e.codeOnly = true := by
      unfold Entry.codeOnly
      rw [hdefinition]
      rfl
    obtain ⟨-, -, hnormalize, hfound⟩ := extract_ignores_interiors hr none hsegments hclosed hfits
    obtain ⟨-, -, -, hsame⟩ := hfound e (by simp [he]) hcodeOnly
    rw [hname] at hsame
    exact ⟨r, rfl, hclosed, hnormalize, hsame (by decide)⟩

end TagAudit.Tag
