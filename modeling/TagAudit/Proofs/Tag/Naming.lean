import TagAudit.Proofs.Expression.Evaluation
import TagAudit.Proofs.Schema
import TagAudit.Proofs.Tag.Registry
import TagAudit.Tag.Extract

/-!
# Names that conditions can refer to

The names of a registry and the tags of conditions are described apart from each other. They agree but
for one thing: a name may end with a line break, which in a condition is a blank. Such a name is
accepted, and no condition can refer to it.
-/

namespace TagAudit.Tag

open Expression (IsTagName isTagChar lex parse evaluate Outcome)
open Schema

/-! ### The names of a registry -/

theorem continuesName_word {cs : List Char} (h : continuesName cs = true) :
    ∃ word tail, cs = word ++ tail ∧ (∀ c ∈ word, isTagChar c = true) ∧
      (tail = [] ∨ tail = ['\n']) := by
  fun_induction continuesName cs with
  | case1 => exact ⟨[], [], rfl, by simp, .inl rfl⟩
  | case2 => exact ⟨[], ['\n'], rfl, by simp, .inr rfl⟩
  | case3 c rest _ ih =>
    rw [Bool.and_eq_true] at h
    obtain ⟨word, tail, rfl, hword, htail⟩ := ih h.2
    refine ⟨c :: word, tail, rfl, ?_, htail⟩
    intro d hd
    rcases List.mem_cons.1 hd with rfl | hd
    · exact h.1
    · exact hword d hd

/-- A name is a tag, with perhaps a line break after it. -/
theorem word_of_isName {name : String} (h : isName name = true) :
    ∃ word tail, name.toList = String.toList word ++ tail ∧ IsTagName word ∧
      (tail = [] ∨ tail = ['\n']) := by
  unfold isName at h
  cases hchars : name.toList with
  | nil =>
    rw [hchars] at h
    exact absurd h (by simp)
  | cons c rest =>
    rw [hchars, Bool.and_eq_true] at h
    obtain ⟨word, tail, rfl, hword, htail⟩ := continuesName_word h.2
    have hc : isTagChar c = true := by
      have hcapital := h.1
      unfold isCapital at hcapital
      simp [isTagChar, hcapital]
    refine ⟨String.ofList (c :: word), tail, ?_, ⟨?_, ?_⟩, htail⟩
    · rw [String.toList_ofList, List.cons_append]
    · simp
    · rw [String.toList_ofList]
      intro d hd
      rcases List.mem_cons.1 hd with rfl | hd
      · exact hc
      · exact hword d hd

theorem isName_of_nameOf {what : String} {d : Document} {name : String}
    (h : nameOf what d = .ok name) : isName name = true := by
  obtain ⟨s, -, hs⟩ := (Checked.andThen_eq_ok_iff _ _ _).1 h
  by_cases hname : isName s = true
  · rw [if_pos hname] at hs
    obtain rfl := Checked.ok.inj hs
    exact hname
  · rw [if_neg hname] at hs
    exact absurd hs (by simp [Checked.problem])

theorem Definition.isName_of_read {d : Document} {definition : Definition}
    (h : Definition.read d = .ok definition) : isName definition.name = true := by
  obtain ⟨fields, -, hfields⟩ := of_record h
  obtain ⟨afterDescription, detection, hdescription, -, hdefinition⟩ :=
    (Checked.seq_eq_ok_iff _ _ _).1 hfields
  obtain ⟨afterCategory, description, hcategory, -, rfl⟩ :=
    (Checked.seq_eq_ok_iff _ _ _).1 hdescription
  obtain ⟨afterName, category, hname, -, rfl⟩ := (Checked.seq_eq_ok_iff _ _ _).1 hcategory
  obtain ⟨name, hfield, rfl⟩ := (Checked.map_eq_ok_iff _ _ _).1 hname
  obtain ⟨d, -, hname⟩ := of_required hfield
  rw [← hdefinition]
  exact isName_of_nameOf hname

theorem CompoundDefinition.isName_of_read {d : Document} {definition : CompoundDefinition}
    (h : CompoundDefinition.read d = .ok definition) : isName definition.name = true := by
  obtain ⟨fields, -, hfields⟩ := of_record h
  obtain ⟨afterSeverity, description, hseverity, -, hdefinition⟩ :=
    (Checked.seq_eq_ok_iff _ _ _).1 hfields
  obtain ⟨afterExpression, severity, hexpression, -, rfl⟩ :=
    (Checked.seq_eq_ok_iff _ _ _).1 hseverity
  obtain ⟨afterName, expression, hname, -, rfl⟩ := (Checked.seq_eq_ok_iff _ _ _).1 hexpression
  obtain ⟨name, hfield, rfl⟩ := (Checked.map_eq_ok_iff _ _ _).1 hname
  obtain ⟨d, -, hname⟩ := of_required hfield
  rw [← hdefinition]
  exact isName_of_nameOf hname

theorem read_of_readBodies {α : Type} {read : Document → Checked α}
    {entries : List (String × Document.Fields)} {l : List α} (h : readBodies read entries = .ok l)
    {a : α} (ha : a ∈ l) : ∃ d, read d = .ok a := by
  obtain ⟨entry, -, hread⟩ := mem_of_forall₂ ((mapM_ok_iff _ _).1 h) ha
  exact ⟨namedBody entry,
    (Checked.toExcept_eq_ok_iff _ _).1 ((mapError_eq_ok_iff _ _ _).1 hread)⟩

theorem Registry.isName_of_ofDocument {document : Document} {r : Registry}
    (h : Registry.ofDocument document = .ok r) {name : String}
    (hname : name ∈ r.tagNames ++ r.compoundNames) : isName name = true := by
  obtain ⟨table, -, h⟩ := (bind_eq_ok_iff _ _ _).1 h
  obtain ⟨tags, htags, h⟩ := (bind_eq_ok_iff _ _ _).1 h
  obtain ⟨compounds, hcompounds, hbuild⟩ := (bind_eq_ok_iff _ _ _).1 h
  rcases List.mem_append.1 hname with hname | hname
  · obtain ⟨e, he, rfl⟩ := List.mem_map.1 hname
    have hmem : e.definition ∈ tags := by
      rw [← (Registry.entries_of_build hbuild).1]
      exact List.mem_map_of_mem he
    obtain ⟨d, hd⟩ := read_of_readBodies htags hmem
    exact Definition.isName_of_read hd
  · obtain ⟨c, hc, rfl⟩ := List.mem_map.1 hname
    rw [(Registry.compounds_of_build hbuild).1] at hc
    obtain ⟨d, hd⟩ := read_of_readBodies hcompounds hc
    exact CompoundDefinition.isName_of_read hd

/-! ### Names as conditions -/

/-- A name that stands for itself in a condition: as a text it is one tag token of that name, and it
holds on the tags that have it among them. -/
def RefersToItself (name : String) : Prop :=
  lex name.toList = .ok [⟨.tag name, 0⟩] ∧ parse name = .ok (.atom name false) ∧
    ∀ tags, (evaluate name tags).map Outcome.result = .ok (decide (name ∈ tags))

theorem lex_tag_blank (text word : String) (hword : IsTagName word) (cs : List Char)
    (hcs : cs.all Text.isBlank = true) (htext : text.toList = word.toList ++ cs) :
    lex text.toList = .ok [⟨.tag word, 0⟩] := by
  have hblank := Expression.spells_of_blank cs hcs
  obtain ⟨lexemes, hlexemes, htokens⟩ := Expression.lexFrom_of_spells (0 + word.length) cs [] hblank
  obtain rfl := List.map_eq_nil_iff.1 htokens
  rw [htext, lex, Expression.lexFrom_tag 0 word cs hword (Expression.endsTag_of_blank cs hcs), hlexemes]
  rfl

theorem refersToItself_of_isTagName {name : String} (h : IsTagName name) : RefersToItself name := by
  have hparse := Expression.parse_tag name h
  refine ⟨lex_tag_blank name name h [] rfl (List.append_nil _).symm, hparse, ?_⟩
  intro tags
  rw [Expression.evaluate_of_parse hparse, Expression.outcome_tag]
  rfl

theorem isTagName_of_mentions {text name : String} {e : Expression} (h : parse text = .ok e)
    (hname : e.mentions name = true) : IsTagName name := by
  obtain ⟨a, ha, heq⟩ := List.any_eq_true.1 hname
  rw [← of_decide_eq_true heq]
  exact Expression.isTagName_of_atom h ha

theorem not_mem_of_isTagName {name : String} (h : IsTagName name) : '\n' ∉ name.toList := by
  intro hmem
  exact absurd (h.2 '\n' hmem) (by decide)

/-- As a text, each name of a registry is one tag, which is the name without the line break that it
may end with. A name without a line break stands for itself. A name with one does not, and no
condition refers to it. -/
theorem registered_name_refers_iff {document : Document} {r : Registry}
    (h : Registry.ofDocument document = .ok r) {name : String}
    (hname : name ∈ r.tagNames ++ r.compoundNames) :
    ∃ word, IsTagName word ∧ (name = word ∨ name = word ++ "\n") ∧
      lex name.toList = .ok [⟨.tag word, 0⟩] ∧ parse name = .ok (.atom word false) ∧
      (∀ tags, evaluate name tags =
        .ok ⟨decide (word ∈ tags), if word ∈ tags then [word] else []⟩) ∧
      (RefersToItself name ↔ '\n' ∉ name.toList) ∧
      ((∃ text e, parse text = .ok e ∧ e.mentions name = true) ↔ '\n' ∉ name.toList) := by
  obtain ⟨word, tail, hchars, hword, htail⟩ := word_of_isName (Registry.isName_of_ofDocument h hname)
  have hblank : tail.all Text.isBlank = true := by
    rcases htail with rfl | rfl
    · rfl
    · decide
  have hlex := lex_tag_blank name word hword tail hblank hchars
  have hparse := Expression.parse_tag_blank name word hword tail hblank hchars
  have heq : name = word ∨ name = word ++ "\n" := by
    rw [← String.toList_inj, ← String.toList_inj, String.toList_append, hchars]
    rcases htail with rfl | rfl
    · exact .inl (List.append_nil _)
    · exact .inr rfl
  have hself : IsTagName name ↔ '\n' ∉ name.toList := by
    refine ⟨not_mem_of_isTagName, ?_⟩
    intro hnot
    rcases heq with rfl | rfl
    · exact hword
    · exact absurd (by simp) hnot
  refine ⟨word, hword, heq, hlex, hparse, ?_, ?_, ?_⟩
  · intro tags
    rw [Expression.evaluate_of_parse hparse, Expression.outcome_tag]
  · rw [← hself]
    refine ⟨?_, refersToItself_of_isTagName⟩
    rintro ⟨-, hatom, -⟩
    rw [hparse] at hatom
    obtain ⟨rfl, -⟩ := Expression.atom.inj (Except.ok.inj hatom)
    exact hword
  · rw [← hself]
    constructor
    · rintro ⟨text, e, htext, hmentions⟩
      exact isTagName_of_mentions htext hmentions
    · intro htag
      refine ⟨name, .atom name false, Expression.parse_tag name htag, ?_⟩
      simp [Expression.mentions, Expression.atoms]

/-- A base tag whose name ends with a line break, and a compound tag. -/
def lineBreakDocument : Document :=
  .object [
    ("tags", .object [("LOOPS\n", .object [
      ("detection", .object [("type", .text "node"), ("feature", .text "loop")])])]),
    ("compound_tags", .object [("BUSY", .object [("expression", .text "LOOPS")])])]

def lineBreakRegistry : Registry :=
  ⟨"unknown", [⟨⟨"LOOPS\n", "general", "", .node .loop⟩, []⟩], [⟨"BUSY", "LOOPS", .medium, ""⟩]⟩

theorem busy_refers_to_itself :
    Registry.ofDocument lineBreakDocument = .ok lineBreakRegistry ∧
      "BUSY" ∈ lineBreakRegistry.tagNames ++ lineBreakRegistry.compoundNames ∧
      RefersToItself "BUSY" := by
  have hdocument : Registry.ofDocument lineBreakDocument = .ok lineBreakRegistry := rfl
  have hname : "BUSY" ∈ lineBreakRegistry.tagNames ++ lineBreakRegistry.compoundNames := by decide
  obtain ⟨word, -, -, -, -, -, hrefers, -⟩ := registered_name_refers_iff hdocument hname
  exact ⟨hdocument, hname, hrefers.2 (by decide)⟩

/-- A name with a line break is accepted and found, and the condition that it writes is about another
tag. -/
theorem line_break_name_refers_to_other :
    Registry.ofDocument lineBreakDocument = .ok lineBreakRegistry ∧
    "LOOPS\n" ∈ lineBreakRegistry.tagNames ∧
    (lineBreakRegistry.extract [] (some { hasLoop := true })).tags = ["LOOPS\n"] ∧
    lex "LOOPS\n".toList = .ok [⟨.tag "LOOPS", 0⟩] ∧
    parse "LOOPS\n" = .ok (.atom "LOOPS" false) ∧
    evaluate "LOOPS\n" ["LOOPS\n"] = .ok ⟨false, []⟩ := by
  refine ⟨rfl, by decide, ?_, rfl, rfl, rfl⟩
  decide +kernel

end TagAudit.Tag
