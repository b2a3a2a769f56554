import Mathlib.Data.List.Basic
import TagAudit.Proofs.Source.Nesting
import TagAudit.Proofs.Source.Occurrence
import TagAudit.Proofs.Tag.Extraction

/-!
# Measures of a growing text (`count_method_signatures`, `estimate_complexity`, `count_lines`)

No measure of the bare text falls when text is added. For the counts of phrases this rests on the
words of each phrase: a word that starts inside another one never ends before it. Most words end
with a mark that they hold only once; a method signature holds one closing parenthesis, and what
follows that is decided by its first characters.
-/

namespace TagAudit.Source

/-! ### The parts of phrases as readers -/

theorem literally_mark (mark : Char) (text : List Char) (n : Nat) :
    (literally [mark] text).map (n + ·) =
      if text.head? = some mark then some (n + 1) else none := by
  cases text with
  | nil => rfl
  | cons c rest =>
    by_cases hc : c = mark
    · simp [literally, hc]
    · simp [literally, hc, Ne.symm hc]

theorem blanksThen_eq (mark : Char) :
    blanksThen mark = afterSpan Text.isBlank (literally [mark]) := by
  funext text
  exact (literally_mark mark _ _).symm

theorem parameterList_eq : parameterList = afterSpan (· ≠ ')') (literally [')']) := by
  funext text
  exact (literally_mark ')' _ _).symm

theorem steady_blanksThen (mark : Char) : Steady (blanksThen mark) := by
  rw [blanksThen_eq]
  exact (steady_literally (by simp)).afterSpan _

theorem steady_someBlanks : Steady someBlanks := steady_someOf Text.isBlank

/-! ### Words that end with their only mark -/

def EndsAt (mark : Char) (w : List Char) : Prop := ∃ p, w = p ++ [mark] ∧ mark ∉ p

theorem EndsAt.append {mark : Char} {u w : List Char} (hu : mark ∉ u) (hw : EndsAt mark w) :
    EndsAt mark (u ++ w) := by
  obtain ⟨p, rfl, hp⟩ := hw
  exact ⟨u ++ p, (List.append_assoc u p [mark]).symm, by simp [hu, hp]⟩

theorem EndsAt.inner {mark : Char} {x w y : List Char} (hlong : EndsAt mark (x ++ w ++ y))
    (hw : EndsAt mark w) : y = [] := by
  obtain ⟨p, hp, hmark⟩ := hlong
  obtain ⟨q, rfl, -⟩ := hw
  have heq : p ++ mark :: [] = (x ++ q) ++ mark :: y := by
    rw [← hp]
    simp
  exact ((List.append_cons_inj_of_notMem hmark (by simp)).1 heq).2.2.symm

theorem reads_markAfterSpan {p : Char → Bool} {mark : Char} (h : p mark = false) :
    Reads (afterSpan p (literally [mark])) (EndsAt mark) := by
  refine (reads_literally [mark]).afterSpan p ?_
  intro u v hu hv
  refine ⟨u, by rw [hv], ?_⟩
  intro hm
  rw [hu mark hm] at h
  contradiction

theorem avoids_afterSpan {p : Char → Bool} {word : List Char} {c : Char} (hp : p c = false)
    (hword : c ∉ word) : Reads (afterSpan p (literally word)) (c ∉ ·) := by
  refine (reads_literally word).afterSpan p ?_
  rintro u v hu rfl hm
  rcases List.mem_append.1 hm with hm | hm
  · rw [hu c hm] at hp
    contradiction
  · exact hword hm

theorem avoids_blanksThen {mark c : Char} (hblank : Text.isBlank c = false) (hne : c ≠ mark) :
    Reads (blanksThen mark) (c ∉ ·) := by
  rw [blanksThen_eq]
  exact avoids_afterSpan hblank (by simpa using hne)

theorem reads_blanksThen {mark : Char} (h : Text.isBlank mark = false) :
    Reads (blanksThen mark) (EndsAt mark) := by
  rw [blanksThen_eq]
  exact reads_markAfterSpan h

theorem reads_parameterList : Reads parameterList (EndsAt ')') := by
  rw [parameterList_eq]
  exact reads_markAfterSpan (by decide)

/-! ### Decisions -/

theorem growing_keywordThen {keyword : List Char} {mark : Char} (hne : keyword ≠ [])
    (hmark : mark ∉ keyword) (hblank : Text.isBlank mark = false) :
    Growing (keywordThen keyword mark) (EndsAt mark) := by
  have hsteady := (steady_literally hne).inRow (steady_blanksThen mark)
  have hreads := (avoids_literally hmark).inRow (reads_blanksThen hblank)
    fun _ _ hu hv => hv.append hu
  exact Growing.ofWordStart hsteady hreads fun hlong hw _ => hlong.inner hw

theorem growing_elseIf : Growing elseIf (EndsAt '(') := by
  have hsteady := (((steady_literally (by decide : "else".toList ≠ [])).inRow
    steady_someBlanks).inRow (steady_literally (by decide : "if".toList ≠ []))).inRow
    (steady_blanksThen '(')
  have helse : Reads (inRow (literally "else".toList) someBlanks) ('(' ∉ ·) :=
    (avoids_literally (by decide)).avoiding (avoids_someOf (by decide))
  have hif : Reads (literally "if".toList) ('(' ∉ ·) := avoids_literally (by decide)
  have hopening : Reads (blanksThen '(') (EndsAt '(') := reads_blanksThen (by decide)
  have hreads := (helse.avoiding hif).inRow hopening fun _ _ hu hv => hv.append hu
  exact Growing.ofWordStart hsteady hreads fun hlong hw _ => hlong.inner hw

/-- The word `case` with blanks behind it. -/
def CaseWord (w : List Char) : Prop :=
  ∃ blanks, w = "case".toList ++ blanks ∧ ∀ c ∈ blanks, Text.isBlank c = true

theorem CaseWord.count {w : List Char} (h : CaseWord w) : w.count 'c' = 1 := by
  obtain ⟨blanks, rfl, hblank⟩ := h
  have hnone : blanks.count 'c' = 0 :=
    List.count_eq_zero.2 fun hm => absurd (hblank _ hm) (by decide)
  have hcase : "case".toList.count 'c' = 1 := by decide
  rw [List.count_append, hnone, hcase]

theorem CaseWord.head {w : List Char} (h : CaseWord w) : w.head? = some 'c' := by
  obtain ⟨blanks, rfl, -⟩ := h
  rfl

theorem CaseWord.inner {x w y : List Char} (hlong : CaseWord (x ++ w ++ y)) (hw : CaseWord w)
    (hx : x ≠ []) : y = [] := by
  -- The word inside would bring a second `c`, since what comes before it starts with the first.
  obtain ⟨d, x, rfl⟩ := List.exists_cons_of_ne_nil hx
  obtain rfl : d = 'c' := Option.some.inj hlong.head
  have hcount := hlong.count
  rw [List.count_append, List.count_append, List.count_cons_self, hw.count] at hcount
  omega

theorem growing_caseLabel : Growing caseLabel CaseWord := by
  have hsteady := (steady_literally (by decide : "case".toList ≠ [])).inRow steady_someBlanks
  have hreads : Reads (inRow (literally "case".toList) someBlanks) CaseWord :=
    (reads_literally _).inRow (reads_someOf Text.isBlank) fun _ v hu hv => ⟨v, by rw [hu], hv⟩
  exact Growing.ofWordStart hsteady hreads CaseWord.inner

theorem growing_literally {word : List Char} (h : word ≠ []) :
    Growing (fun _ => literally word) (· = word) := by
  refine Growing.ofReader (steady_literally h) (reads_literally word) ?_
  rintro x w y hlong rfl hx
  have hlength := congrArg List.length hlong
  have hpos := List.length_pos_iff.2 hx
  simp only [List.length_append] at hlength
  omega

theorem ternary_eq :
    ternary = fun _ => inRow (literally ['?']) (inRow (someOf (· ≠ ':')) (literally [':'])) := by
  funext before text
  cases text with
  | nil => rfl
  | cons c rest =>
    by_cases hc : c = '?'
    · subst hc
      have hmark : literally ['?'] ('?' :: rest) = some 1 := rfl
      have hrow : ∀ next, inRow (literally ['?']) next ('?' :: rest) = (next rest).map (1 + ·) := by
        intro next
        rw [inRow, hmark]
        rfl
      rw [hrow, ternary]
      cases hspan : spanLength (· ≠ ':') rest with
      | zero =>
        have hnone : someOf (· ≠ ':') rest = none := by
          rw [someOf, hspan]
        rw [inRow, hnone]
        rfl
      | succ n =>
        have hsome : someOf (· ≠ ':') rest = some (n + 1) := by
          rw [someOf, hspan]
        rw [inRow, hsome, followedBy, literally_mark, List.head?_drop]
        by_cases hcolon : rest[n + 1]? = some ':'
        · simp [hcolon, Nat.add_comm 1]
        · simp [hcolon]
    · have hmark : literally ['?'] (c :: rest) = none := by simp [literally, Ne.symm hc]
      rw [inRow, hmark]
      simp [ternary, followedBy, hc]

theorem growing_ternary : Growing ternary (EndsAt ':') := by
  have hmark : Steady (literally ['?']) := steady_literally (by decide)
  have hcolon : Steady (literally [':']) := steady_literally (by decide)
  have hsteady := hmark.inRow ((steady_someOf (· ≠ ':')).inRow hcolon)
  have hmiddle : Reads (someOf (· ≠ ':')) (':' ∉ ·) := avoids_someOf (by decide)
  have hend : Reads (inRow (someOf (· ≠ ':')) (literally [':'])) (EndsAt ':') :=
    hmiddle.inRow (reads_literally _) fun u _ hu hv => ⟨u, by rw [hv], hu⟩
  have hreads := (avoids_literally (by decide : ':' ∉ ['?'])).inRow hend
    fun _ _ hu hv => hv.append hu
  rw [ternary_eq]
  exact Growing.ofReader hsteady hreads fun hlong hw _ => hlong.inner hw

theorem decisionPoints_growing : ∀ decision ∈ decisionPoints, ∃ Word, Growing decision Word := by
  have hkeyword : ∀ keyword ∈ ["if".toList, "for".toList, "while".toList, "catch".toList],
      Growing (keywordThen keyword '(') (EndsAt '(') := by
    intro keyword hmem
    have hfit : keyword ≠ [] ∧ '(' ∉ keyword := by
      revert hmem keyword
      decide
    exact growing_keywordThen hfit.1 hfit.2 (by decide)
  unfold decisionPoints
  simp only [List.forall_mem_cons, List.not_mem_nil, false_implies, implies_true, and_true]
  exact ⟨⟨_, hkeyword _ (by decide)⟩, ⟨_, growing_elseIf⟩, ⟨_, hkeyword _ (by decide)⟩,
    ⟨_, hkeyword _ (by decide)⟩, ⟨_, growing_caseLabel⟩, ⟨_, hkeyword _ (by decide)⟩,
    ⟨_, growing_ternary⟩, ⟨_, growing_literally (by decide)⟩, ⟨_, growing_literally (by decide)⟩⟩

/-! ### Method signatures -/

/-- The words of method signatures, as far as their one closing parenthesis and what follows it. -/
def SignatureWord (w : List Char) : Prop :=
  ∃ header gap opening, w = header ++ ')' :: (gap ++ opening) ∧ ')' ∉ header ∧
    (∀ c ∈ gap, Text.isBlank c = true) ∧ (opening = ['\x7b'] ∨ opening = "throws".toList)

theorem takeWhile_gap {gap opening : List Char} (hgap : ∀ c ∈ gap, Text.isBlank c = true)
    (hopening : opening = ['\x7b'] ∨ opening = "throws".toList) (rest : List Char) :
    (gap ++ (opening ++ rest)).takeWhile Text.isBlank = gap := by
  rw [List.takeWhile_append_of_pos hgap]
  have hnone : (opening ++ rest).takeWhile Text.isBlank = [] := by
    rcases hopening with rfl | rfl
    · exact List.takeWhile_cons_of_neg (by decide)
    · exact List.takeWhile_cons_of_neg (by decide)
  rw [hnone, List.append_nil]

theorem SignatureWord.inner {x w y : List Char} (hlong : SignatureWord (x ++ w ++ y))
    (hw : SignatureWord w) : y = [] := by
  obtain ⟨header, gap, opening, heq, hheader, hgap, hopening⟩ := hlong
  obtain ⟨header', gap', opening', rfl, -, hgap', hopening'⟩ := hw
  have hclear : ')' ∉ gap ++ opening := by
    intro hm
    rcases List.mem_append.1 hm with hm | hm
    · exact absurd (hgap _ hm) (by decide)
    · rcases hopening with rfl | rfl
      · exact absurd hm (by decide)
      · exact absurd hm (by decide)
  have hsplit : header ++ ')' :: (gap ++ opening) =
      (x ++ header') ++ ')' :: (gap' ++ (opening' ++ y)) := by
    rw [← heq]
    simp
  obtain ⟨-, -, hrest⟩ := (List.append_cons_inj_of_notMem hheader hclear).1 hsplit
  have hsame : gap = gap' := by
    have htake := takeWhile_gap hgap hopening []
    rw [List.append_nil, hrest, takeWhile_gap hgap' hopening' y] at htake
    exact htake.symm
  rw [hsame] at hrest
  have htail := List.append_cancel_left hrest
  -- Neither opening is a part of the other one.
  rcases hopening with rfl | rfl
  · rcases hopening' with rfl | rfl
    · simpa using htail
    · have hhead : some '\x7b' = some 't' := congrArg List.head? htail
      exact absurd hhead (by decide)
  · rcases hopening' with rfl | rfl
    · have hhead : some 't' = some '\x7b' := congrArg List.head? htail
      exact absurd hhead (by decide)
    · simpa using htail

theorem steady_accessModifier : Steady accessModifier := by
  have hpublic : Steady (literally "public".toList) := steady_literally (by decide)
  have hprivate : Steady (literally "private".toList) := steady_literally (by decide)
  have hprotected : Steady (literally "protected".toList) := steady_literally (by decide)
  refine hpublic.or (hprivate.or hprotected (literally_apart (by decide) (by decide))) ?_
  intro s
  rcases literally_apart (by decide : ¬ "public".toList <+: "private".toList) (by decide) s with
    h | h
  · exact .inl h
  · rcases literally_apart (by decide : ¬ "public".toList <+: "protected".toList) (by decide) s with
      h' | h'
    · exact .inl h'
    · exact .inr (by rw [h, h']; rfl)

theorem steady_bodyOrThrows : Steady bodyOrThrows := by
  have hbrace : Steady (literally ['\x7b']) := steady_literally (by decide)
  have hthrows : Steady (literally "throws".toList) := steady_literally (by decide)
  exact (hbrace.or hthrows (literally_apart (by decide) (by decide))).afterSpan Text.isBlank

theorem reads_bodyOrThrows :
    Reads bodyOrThrows fun w => ∃ gap opening, w = gap ++ opening ∧
      (∀ c ∈ gap, Text.isBlank c = true) ∧ (opening = ['\x7b'] ∨ opening = "throws".toList) := by
  have hopening := (reads_literally ['\x7b']).or (reads_literally "throws".toList)
  exact hopening.afterSpan Text.isBlank fun u v hu hv => ⟨u, v, rfl, hu, hv⟩

def signatureStart : List Char → Option Nat :=
  inRow (inRow (inRow (inRow (inRow accessModifier someBlanks) (someOf isTypeChar)) someBlanks)
    (someOf Text.isWordChar)) (blanksThen '(')

theorem steady_signatureStart : Steady signatureStart :=
  ((((steady_accessModifier.inRow steady_someBlanks).inRow (steady_someOf _)).inRow
    steady_someBlanks).inRow (steady_someOf _)).inRow (steady_blanksThen '(')

theorem avoids_signatureStart : Reads signatureStart (')' ∉ ·) := by
  have hmodifier : Reads accessModifier (')' ∉ ·) := by
    refine ((reads_literally _).or ((reads_literally _).or (reads_literally _))).imp ?_
    rintro w (rfl | rfl | rfl)
    · decide
    · decide
    · decide
  have hblanks : Reads someBlanks (')' ∉ ·) := avoids_someOf (by decide)
  have htype : Reads (someOf isTypeChar) (')' ∉ ·) := avoids_someOf (by decide)
  have hname : Reads (someOf Text.isWordChar) (')' ∉ ·) := avoids_someOf (by decide)
  have hopening : Reads (blanksThen '(') (')' ∉ ·) := avoids_blanksThen (by decide) (by decide)
  exact ((((hmodifier.avoiding hblanks).avoiding htype).avoiding hblanks).avoiding hname).avoiding
    hopening

theorem growing_methodSignature : Growing methodSignature SignatureWord := by
  have hparameters : Steady parameterList := by
    rw [parameterList_eq]
    exact (steady_literally (by simp)).afterSpan _
  have hsteady := (steady_signatureStart.inRow hparameters).inRow steady_bodyOrThrows
  have hheader := avoids_signatureStart.inRow reads_parameterList fun _ _ hu hv => hv.append hu
  have hreads : Reads (inRow (inRow signatureStart parameterList) bodyOrThrows) SignatureWord := by
    refine hheader.inRow reads_bodyOrThrows ?_
    rintro u v ⟨header, rfl, hclear⟩ ⟨gap, opening, rfl, hgap, hopening⟩
    exact ⟨header, gap, opening, by simp, hclear, hgap, hopening⟩
  exact Growing.ofWordStart hsteady hreads fun hlong hw _ => hlong.inner hw

/-! ### Measures -/

theorem lineCount_le_append (s t : List Char) : lineCount s ≤ lineCount (s ++ t) := by
  rw [lineCount, lineCount, List.count_append]
  omega

theorem methodCount_le_append (s t : List Char) : methodCount s ≤ methodCount (s ++ t) :=
  growing_methodSignature.occurrences_le s t

theorem foldl_occurrences_le {decisions : List Recognizer} {s t : List Char}
    (h : ∀ decision ∈ decisions, occurrences decision s ≤ occurrences decision (s ++ t))
    {total total' : Nat} (htotal : total ≤ total') :
    decisions.foldl (fun total decision => total + occurrences decision s) total ≤
      decisions.foldl (fun total decision => total + occurrences decision (s ++ t)) total' := by
  induction decisions generalizing total total' with
  | nil => exact htotal
  | cons decision decisions ih =>
    have hfirst := h decision List.mem_cons_self
    exact ih (fun d hd => h d (List.mem_cons_of_mem _ hd)) (Nat.add_le_add htotal hfirst)

theorem complexity_le_append (s t : List Char) : complexity s ≤ complexity (s ++ t) := by
  refine foldl_occurrences_le ?_ (Nat.le_refl 1)
  intro decision hdecision
  obtain ⟨Word, hgrowing⟩ := decisionPoints_growing decision hdecision
  exact hgrowing.occurrences_le s t

end TagAudit.Source

namespace TagAudit.Tag

open Source

theorem measure_le_append (s t : List Char) :
    ∀ m ∈ textMeasures, m.measure s ≤ m.measure (s ++ t) := by
  unfold textMeasures
  simp only [List.forall_mem_cons, List.not_mem_nil, false_implies, implies_true, and_true]
  exact ⟨lineCount_le_append s t, methodCount_le_append s t, complexity_le_append s t,
    nesting_le_append s t⟩

theorem findingNames_sublist {measures : List TextMeasure} {s t : List Char}
    (h : ∀ m ∈ measures, m.measure s ≤ m.measure (s ++ t)) :
    ((measures.filterMap (·.finding? s)).map Prod.fst).Sublist
      ((measures.filterMap (·.finding? (s ++ t))).map Prod.fst) := by
  induction measures with
  | nil => exact List.Sublist.refl _
  | cons m measures ih =>
    have hrest := ih fun m' hm' => h m' (List.mem_cons_of_mem m hm')
    cases hfound : m.finding? s with
    | none =>
      rw [List.filterMap_cons_none hfound]
      exact hrest.trans (((List.sublist_cons_self m measures).filterMap _).map _)
    | some entry =>
      obtain ⟨hname, hthreshold, -⟩ := (m.finding?_eq_some_iff s entry.1 entry.2).1 hfound
      have hlarger := Nat.le_trans hthreshold (h m List.mem_cons_self)
      have hfound' := (m.finding?_eq_some_iff (s ++ t) entry.1 _).2 ⟨hname, hlarger, rfl⟩
      rw [List.filterMap_cons_some hfound, List.filterMap_cons_some hfound', List.map_cons,
        List.map_cons]
      exact hrest.cons_cons entry.1

/-- No measure of the bare text falls when text is added, so every tag that the measures give to a
text they also give to the text with anything behind it. -/
theorem text_measures_never_shrink (s t : List Char) :
    lineCount s ≤ lineCount (s ++ t) ∧ methodCount s ≤ methodCount (s ++ t) ∧
    complexity s ≤ complexity (s ++ t) ∧ nesting s ≤ nesting (s ++ t) ∧
    ((textMeasures.filterMap (·.finding? s)).map Prod.fst).Sublist
      ((textMeasures.filterMap (·.finding? (s ++ t))).map Prod.fst) := by
  refine ⟨lineCount_le_append s t, methodCount_le_append s t, complexity_le_append s t,
    nesting_le_append s t, ?_⟩
  exact findingNames_sublist (measure_le_append s t)

end TagAudit.Tag
