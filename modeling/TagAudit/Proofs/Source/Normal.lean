import TagAudit.Proofs.Source.Segment

/-!
# Normalized texts (`strip_comments_and_strings`)

Normalizing a second time changes nothing. A replacement could matter to a character before it in
two ways only: by a `*/` that was not there, or by a quote that closes a literal which was open to
the end. Replacements are not empty and hold no `*`, so the first cannot happen. For the second, a
reader that looks for the closing quote stands behind a replacement as it stands behind what is
replaced: no backslash is pending there.
-/

namespace TagAudit.Source

/-! ### Where a construct starts -/

/-- Whether a quote that no backslash takes stands in a text; `escaped` tells whether a backslash
takes the first character. -/
def HasQuote (quote : Char) : Bool → List Char → Prop
  | _, [] => False
  | true, _ :: rest => HasQuote quote false rest
  | false, c :: rest => c = quote ∨ HasQuote quote (c = '\\') rest

theorem isSome_literalEnd? (quote : Char) (escaped : Bool) (length : Nat) (text : List Char) :
    (literalEnd? quote escaped length text).isSome = true ↔ HasQuote quote escaped text := by
  fun_induction literalEnd? quote escaped length text with
  | case1 => simp [HasQuote]
  | case2 length c rest ih => exact ih
  | case3 escaped length rest hescaped =>
    cases escaped with
    | true => exact absurd rfl hescaped
    | false => simp [HasQuote]
  | case4 escaped length c rest hescaped hc ih =>
    cases escaped with
    | true => exact absurd rfl hescaped
    | false =>
      rw [ih, HasQuote]
      simp [hc]

theorem isSome_commentEnd? (length : Nat) (text : List Char) :
    (commentEnd? length text).isSome = true ↔ ['*', '/'] <:+: text := by
  fun_induction commentEnd? length text with
  | case1 => simp
  | case2 length rest => simp only [Option.isSome_some, true_iff]; exact ⟨[], rest, rfl⟩
  | case3 length c rest hhead ih =>
    rw [ih, infix_cons_of_not]
    rintro tail rfl rfl
    exact hhead tail rfl rfl

theorem starts_iff_isSome (text : List Char) : Starts text ↔ (construct? text).isSome = true := by
  rw [Option.isSome_iff_ne_none, ne_eq, construct?_eq_none_iff, Classical.not_not]

/-- The places where a construct starts. -/
theorem starts_cons_iff (c : Char) (rest : List Char) :
    Starts (c :: rest) ↔
      (c = '/' ∧
        ((∃ tail, rest = '*' :: tail ∧ ['*', '/'] <:+: tail) ∨ ∃ tail, rest = '/' :: tail)) ∨
      ((c = '"' ∨ c = '\'') ∧ HasQuote c false rest) := by
  rw [starts_iff_isSome]
  unfold construct?
  split
  · rename_i tail heq
    obtain ⟨rfl, rfl⟩ := List.cons.inj heq
    rw [Option.isSome_map, isSome_commentEnd?]
    simp
  · rename_i tail heq
    obtain ⟨rfl, rfl⟩ := List.cons.inj heq
    simp
  · rename_i tail heq
    obtain ⟨rfl, rfl⟩ := List.cons.inj heq
    rw [Option.isSome_map, isSome_literalEnd?]
    simp
  · rename_i tail heq
    obtain ⟨rfl, rfl⟩ := List.cons.inj heq
    rw [Option.isSome_map, isSome_literalEnd?]
    simp
  · rename_i hblock hline hstring hchar
    simp only [Option.isSome_none, Bool.false_eq_true, false_iff, not_or, not_and, not_exists]
    refine ⟨?_, ?_⟩
    · rintro rfl
      exact ⟨fun tail heq _ => hblock tail (heq ▸ rfl), fun tail heq => hline tail (heq ▸ rfl)⟩
    · rintro (rfl | rfl)
      · exact absurd rfl (hstring rest)
      · exact absurd rfl (hchar rest)

/-! ### What comes before a replacement -/

/-- A normalized text that starts with `*` or `/` comes from a text that starts so. -/
theorem Scan.of_replaced_cons {text : List Char} {l : List Segment} (h : Scan text l) {c : Char}
    {tail : List Char} (hc : c = '*' ∨ c = '/')
    (htext : l.flatMap Segment.replacement = c :: tail) :
    ∃ rest l', text = c :: rest ∧ Scan rest l' ∧ l'.flatMap Segment.replacement = tail := by
  cases h with
  | nil => simp at htext
  | @construct kind interior rest l' hfits _ hrest =>
    -- A replacement starts with a blank or a quote.
    have hhead : (Segment.replacement ⟨kind, kind.enclose interior⟩).head? = some c := by
      cases kind with
      | code => exact hfits.elim
      | _ => exact congrArg List.head? htext
    cases kind with
    | code => exact hfits.elim
    | _ =>
      obtain rfl := Option.some.inj hhead
      exact absurd hc (by decide)
  | @code d rest l' _ hrest =>
    obtain ⟨rfl, htail⟩ := List.cons.inj htext
    exact ⟨rest, l', rfl, hrest, htail⟩

theorem Scan.infix_of_replaced {text : List Char} {l : List Segment} (h : Scan text l)
    (hcloses : ['*', '/'] <:+: l.flatMap Segment.replacement) : ['*', '/'] <:+: text := by
  have hcons : ∀ (c : Char) (rest : List Char), c ≠ '*' → ['*', '/'] <:+: c :: rest →
      ['*', '/'] <:+: rest := by
    intro c rest hc hin
    exact (infix_cons_of_not fun _ hstar _ => hc hstar).1 hin
  induction h with
  | nil => exact hcloses
  | @construct kind interior rest l hfits _ _ ih =>
    have hrest : ['*', '/'] <:+: l.flatMap Segment.replacement := by
      cases kind with
      | code => exact hfits.elim
      | blockComment | lineComment => exact hcons _ _ (by decide) hcloses
      | stringLiteral | charLiteral =>
        exact hcons _ _ (by decide) (hcons _ _ (by decide) hcloses)
    exact (ih hrest).trans (List.suffix_append _ _).isInfix
  | @code c rest l _ hscan ih =>
    rcases List.infix_cons_iff.1 hcloses with ⟨tail, htail⟩ | hin
    · obtain ⟨rfl, hslash⟩ := List.cons.inj htail
      obtain ⟨rest, -, rfl, -, -⟩ := hscan.of_replaced_cons (.inr rfl) hslash.symm
      exact ⟨[], rest, rfl⟩
    · exact List.infix_cons (ih hin)

/-- Behind a character that is no backslash none is pending, whatever stands before. -/
theorem HasQuote.append {quote c : Char} {rest : List Char} (hc : c ≠ '\\')
    (h : HasQuote quote false rest) (escaped : Bool) (before : List Char) :
    HasQuote quote escaped (before ++ c :: rest) := by
  induction before generalizing escaped with
  | nil =>
    cases escaped with
    | true => exact h
    | false =>
      refine .inr ?_
      simpa [hc] using h
  | cons d before ih =>
    cases escaped with
    | true => exact ih false
    | false => exact .inr (ih _)

theorem HasQuote.of_body {quote : Char} {body : List Char} (h : LiteralBody quote body)
    (rest : List Char) : HasQuote quote false (body ++ quote :: rest) := by
  induction h with
  | nil => exact .inl rfl
  | @plain c body _ hslash _ ih =>
    refine .inr ?_
    simpa [hslash] using ih
  | @escape c body _ ih =>
    refine .inr ?_
    simpa [HasQuote] using ih

theorem HasQuote.tail {quote c : Char} {escaped : Bool} {rest : List Char}
    (h : HasQuote quote escaped (c :: rest)) (hquote : c ≠ quote) (hslash : c ≠ '\\') :
    HasQuote quote false rest := by
  cases escaped with
  | true => exact h
  | false =>
    have hrest := h.resolve_left hquote
    simpa [hslash] using hrest

/-- An empty literal in the place of a literal closes nothing more. -/
theorem HasQuote.of_emptied {quote q : Char} {escaped : Bool} {body rest rest' : List Char}
    (hslash : q ≠ '\\') (hbody : LiteralBody q body)
    (hrest : HasQuote quote false rest' → HasQuote quote false rest)
    (h : HasQuote quote escaped (q :: q :: rest')) :
    HasQuote quote escaped (q :: (body ++ q :: rest)) := by
  by_cases hq : q = quote
  · subst hq
    cases escaped with
    | true => exact .of_body hbody rest
    | false => exact .inl rfl
  · have hbehind := hrest ((h.tail hq hslash).tail hq hslash)
    exact hbehind.append hslash escaped (q :: body)

/-- A quote that closes in the normalized text closes in the text, too. -/
theorem Scan.hasQuote_of_replaced {text : List Char} {l : List Segment} (h : Scan text l)
    {quote : Char} (hquote : quote = '"' ∨ quote = '\'') {escaped : Bool}
    (hclosed : HasQuote quote escaped (l.flatMap Segment.replacement)) :
    HasQuote quote escaped text := by
  have hne : ∀ c, c ≠ '"' → c ≠ '\'' → c ≠ quote := by
    rintro c hstring hchar rfl
    exact hquote.elim hstring hchar
  induction h generalizing escaped with
  | nil => exact hclosed
  | @construct kind interior rest l hfits hends _ ih =>
    rw [SegmentKind.enclose_append]
    cases kind with
    | code => exact hfits.elim
    | blockComment =>
      have hrest := ih (hclosed.tail (hne ' ' (by decide) (by decide)) (by decide))
      have hbehind :=
        hrest.append (by decide : '/' ≠ '\\') escaped ('/' :: '*' :: (interior ++ ['*']))
      simpa [SegmentKind.opening, SegmentKind.closing] using hbehind
    | lineComment =>
      have hrest := ih (hclosed.tail (hne ' ' (by decide) (by decide)) (by decide))
      -- A backslash at the end of the comment takes the line break and nothing else.
      cases rest with
      | nil => exact hrest.elim
      | cons c rest =>
        obtain rfl : c = '\n' := hends c rfl
        have hline := hrest.tail (hne '\n' (by decide) (by decide)) (by decide)
        exact hline.append (by decide) escaped ('/' :: '/' :: interior)
    | stringLiteral => exact .of_emptied (by decide) hfits ih hclosed
    | charLiteral => exact .of_emptied (by decide) hfits ih hclosed
  | @code c rest l _ _ ih =>
    cases escaped with
    | true => exact ih hclosed
    | false => exact hclosed.imp_right ih

/-- No construct starts in the normalized text where none starts in the text. -/
theorem Scan.starts_of_replaced {text : List Char} {l : List Segment} (h : Scan text l) {c : Char}
    (hstarts : Starts (c :: l.flatMap Segment.replacement)) : Starts (c :: text) := by
  rcases (starts_cons_iff _ _).1 hstarts with
    ⟨rfl, ⟨tail, htail, hcloses⟩ | ⟨tail, htail⟩⟩ | ⟨hc, hclosed⟩
  · obtain ⟨rest, l', rfl, hrest, rfl⟩ := h.of_replaced_cons (.inl rfl) htail
    exact (starts_cons_iff _ _).2 (.inl ⟨rfl, .inl ⟨rest, rfl, hrest.infix_of_replaced hcloses⟩⟩)
  · obtain ⟨rest, l', rfl, -, -⟩ := h.of_replaced_cons (.inr rfl) htail
    exact (starts_cons_iff _ _).2 (.inl ⟨rfl, .inr ⟨rest, rfl⟩⟩)
  · exact (starts_cons_iff _ _).2 (.inr ⟨hc, h.hasQuote_of_replaced hc hclosed⟩)

/-! ### The division of the normalized text -/

/-- What a segment becomes: a comment is a blank of code, and a literal is one without a body. -/
def Segment.normalized (s : Segment) : Segment :=
  ⟨if s.kind = .blockComment ∨ s.kind = .lineComment then .code else s.kind, s.replacement⟩

theorem Segment.replacement_normalized (s : Segment) :
    s.normalized.replacement = s.replacement := by
  obtain ⟨kind, text⟩ := s
  cases kind <;> rfl

theorem flatMap_normalized (l : List Segment) :
    (l.map Segment.normalized).flatMap Segment.replacement = l.flatMap Segment.replacement := by
  rw [List.flatMap_map]
  simp only [Segment.replacement_normalized]

/-- The normalized text divides as the text does, segment by segment. -/
theorem Scan.normalized {text : List Char} {l : List Segment} (h : Scan text l) :
    Scan (l.flatMap Segment.replacement) (l.map Segment.normalized) := by
  have hblank : ∀ rest, ¬ Starts (' ' :: rest) := by
    intro rest hstarts
    have hcases := (starts_cons_iff _ _).1 hstarts
    simp at hcases
  induction h with
  | nil => exact .nil
  | @construct kind interior rest l hfits hends _ ih =>
    cases kind with
    | code => exact hfits.elim
    | blockComment | lineComment => exact .code (hblank _) ih
    | stringLiteral => exact @Scan.construct .stringLiteral [] _ _ .nil trivial ih
    | charLiteral => exact @Scan.construct .charLiteral [] _ _ .nil trivial ih
  | @code c rest l hstarts hscan ih =>
    refine .code (fun hnew => hstarts ?_) ih
    exact hscan.starts_of_replaced hnew

/-! ### Texts that are normal already -/

/-- Whether a segment has something that normalizing takes away: a comment, or a literal with a
body. -/
def Segment.Hides (s : Segment) : Prop :=
  s.kind = .blockComment ∨ s.kind = .lineComment ∨
    (s.kind = .stringLiteral ∨ s.kind = .charLiteral) ∧
      ∃ body, body ≠ [] ∧ s.text = s.kind.enclose body

theorem Segment.replacement_of_literal {s : Segment}
    (h : s.kind = .stringLiteral ∨ s.kind = .charLiteral) : s.replacement = s.kind.enclose [] := by
  rcases h with hs | hs
  · simp only [replacement, hs]
    rfl
  · simp only [replacement, hs]
    rfl

theorem Segment.Hides.normalized_ne {s : Segment} (h : s.Hides) : s.normalized ≠ s := by
  intro heq
  have hkind : s.normalized.kind = s.kind := congrArg Segment.kind heq
  have htext : s.replacement = s.text := congrArg Segment.text heq
  rcases h with hblock | hline | ⟨hliteral, body, hbody, henclosed⟩
  · simp [normalized, hblock] at hkind
  · simp [normalized, hline] at hkind
  · rw [replacement_of_literal hliteral, henclosed] at htext
    have hlength : (s.kind.enclose []).length = (s.kind.enclose body).length := by rw [htext]
    have hpos : 0 < body.length := List.length_pos_iff.2 hbody
    rw [SegmentKind.length_enclose, SegmentKind.length_enclose, List.length_nil] at hlength
    omega

theorem Scan.replacement_eq_text {text : List Char} {l : List Segment} (h : Scan text l)
    {s : Segment} (hs : s ∈ l) (hclean : ¬ s.Hides) : s.replacement = s.text := by
  have hliteral : s.kind = .stringLiteral ∨ s.kind = .charLiteral → s.replacement = s.text := by
    intro hkind
    have hcode : s.kind ≠ .code := by
      intro hcode
      simp [hcode] at hkind
    obtain ⟨body, -, htext⟩ := h.enclosed hs hcode
    have hempty : body = [] := by
      by_cases hbody : body = []
      · exact hbody
      · exact absurd (.inr (.inr ⟨hkind, body, hbody, htext⟩)) hclean
    rw [Segment.replacement_of_literal hkind, htext, hempty]
  cases hkind : s.kind with
  | blockComment => exact absurd (.inl hkind) hclean
  | lineComment => exact absurd (.inr (.inl hkind)) hclean
  | stringLiteral => exact hliteral (.inl hkind)
  | charLiteral => exact hliteral (.inr hkind)
  | code => simp only [Segment.replacement, hkind]

theorem normalize_eq (text : List Char) :
    normalize text = (segments text).flatMap Segment.replacement := rfl

/-- Normalizing a normalized text changes nothing, and a text is normal exactly when its division
has no comment and no literal with a body. -/
theorem normalize_normalize_and_fixed_iff (text : List Char) :
    normalize (normalize text) = normalize text ∧
      (normalize text = text ↔ ∃ l, Scan text l ∧ ∀ s ∈ l, ¬ s.Hides) := by
  have hscan := scan_segments text
  have hnew : (segments text).map Segment.normalized = segments (normalize text) :=
    hscan.normalized.eq_segments
  refine ⟨?_, ?_, ?_⟩
  · rw [normalize_eq (normalize text), ← hnew, flatMap_normalized, normalize_eq]
  · intro hfixed
    rw [hfixed] at hnew
    refine ⟨segments text, hscan, fun s hs hhides => hhides.normalized_ne ?_⟩
    have hsame : (segments text).map Segment.normalized = (segments text).map id := by
      rw [hnew, List.map_id]
    exact List.map_inj_left.1 hsame s hs
  · rintro ⟨l, hl, hclean⟩
    have hreplaced : l.flatMap Segment.replacement = joined l := by
      rw [joined, List.flatMap_def, List.flatMap_def,
        List.map_congr_left fun s hs => hl.replacement_eq_text hs (hclean s hs)]
    rw [normalize_eq, ← hl.eq_segments, hreplaced, hl.joined_eq]

end TagAudit.Source
