import TagAudit.Expression.Token
import TagAudit.Proofs.Basic

/-!
# Spelling of tokens

Characters spell a list of tokens when they are the texts of the tokens in order, with blanks put
anywhere between them, and every tag is as long as it can be. The lexer finds the tokens that a text
spells: it succeeds exactly on the texts that spell something, and no text spells two lists.
-/

namespace TagAudit.Expression

/-! ### Tags and the characters after them -/

def IsTagName (name : String) : Prop :=
  name.toList ≠ [] ∧ ∀ c ∈ name.toList, isTagChar c = true

/-- Characters before which a tag ends: none, or a first one that no tag has. -/
def EndsTag (cs : List Char) : Prop :=
  ∀ c ∈ cs.head?, isTagChar c = false

theorem endsTag_nil : EndsTag [] := by
  intro c hc
  simp at hc

theorem endsTag_cons (c : Char) (cs : List Char) (hc : isTagChar c = false) : EndsTag (c :: cs) := by
  intro d hd
  simp only [List.head?_cons, Option.mem_def, Option.some.injEq] at hd
  rw [← hd]
  exact hc

theorem endsTag_append (cs rest : List Char) (hcs : EndsTag cs) (hrest : EndsTag rest) :
    EndsTag (cs ++ rest) := by
  cases cs with
  | nil => exact hrest
  | cons c cs => exact hcs

theorem endsTag_dropWhile (cs : List Char) : EndsTag (cs.dropWhile isTagChar) := by
  intro c hc
  have h := List.head?_dropWhile_not isTagChar cs
  rw [Option.mem_def.1 hc] at h
  exact h

theorem isTagChar_range (c : Char) (hc : isTagChar c = true) : 48 ≤ c.toNat ∧ c.toNat ≤ 95 := by
  simp only [isTagChar, Bool.or_eq_true, Bool.and_eq_true, decide_eq_true_eq, beq_iff_eq,
    Char.le_def, UInt32.le_iff_toNat_le] at hc
  rcases hc with (⟨hlow, hhigh⟩ | ⟨hlow, hhigh⟩) | rfl
  · change 65 ≤ c.toNat at hlow
    change c.toNat ≤ 90 at hhigh
    omega
  · change 48 ≤ c.toNat at hlow
    change c.toNat ≤ 57 at hhigh
    omega
  · decide

theorem isBlank_of_isTagChar (c : Char) (hc : isTagChar c = true) : Text.isBlank c = false := by
  have hr := isTagChar_range c hc
  simp only [Text.isBlank, Bool.or_eq_false_iff, Bool.and_eq_false_iff, decide_eq_false_iff_not,
    beq_eq_false_iff_ne]
  omega

theorem IsTagName.length_pos {name : String} (hn : IsTagName name) : 0 < name.length := by
  rw [← String.length_toList]
  exact List.length_pos_iff.2 hn.1

theorem isTagName_of_char {c : Char} (hc : isTagChar c = true) : IsTagName (String.ofList [c]) := by
  refine ⟨by simp, fun d hd => ?_⟩
  obtain rfl : d = c := by simpa using hd
  exact hc

/-- A text that starts with a character of tags starts with a whole tag. -/
theorem tag_run (c : Char) (cs : List Char) (hc : isTagChar c = true) :
    ∃ name rest, IsTagName name ∧ EndsTag rest ∧ c :: cs = name.toList ++ rest := by
  refine ⟨String.ofList (c :: cs.takeWhile isTagChar), cs.dropWhile isTagChar, ⟨?_, ?_⟩,
    endsTag_dropWhile cs, ?_⟩
  · simp
  · intro d hd
    rw [String.toList_ofList, List.mem_cons] at hd
    rcases hd with rfl | hd
    · exact hc
    · exact List.all_eq_true.1 List.all_takeWhile d hd
  · rw [String.toList_ofList, List.cons_append, List.takeWhile_append_dropWhile]

/-! ### The spelling relation -/

/-- A token that can be written before the characters `cs`. A tag is a maximal run of its
characters; the other tokens can stand anywhere. -/
def Token.Fits : Token → List Char → Prop
  | .tag name, cs => IsTagName name ∧ EndsTag cs
  | _, _ => True

theorem Token.fits_of_ne_tag {t : Token} (ht : ∀ name, t ≠ .tag name) (cs : List Char) :
    t.Fits cs := by
  cases t with
  | tag name => exact absurd rfl (ht name)
  | and | or | not | opening | closing => trivial

theorem Token.Fits.text_length_pos {t : Token} {cs : List Char} (ht : t.Fits cs) :
    0 < t.text.length := by
  cases t with
  | tag name => exact ht.1.length_pos
  | and | or | not | opening | closing => decide

theorem Token.Fits.append {t : Token} {cs rest : List Char} (ht : t.Fits cs)
    (hrest : EndsTag rest) : t.Fits (cs ++ rest) := by
  cases t with
  | tag name => exact ⟨ht.1, endsTag_append cs rest ht.2 hrest⟩
  | and | or | not | opening | closing => trivial

/-- The characters that spell a list of tokens: the texts of the tokens, with blanks wherever a
token may start and at the end. -/
inductive Spells : List Char → List Token → Prop where
  | nil : Spells [] []
  | blank {c : Char} {cs : List Char} {ts : List Token} (hc : Text.isBlank c = true)
      (h : Spells cs ts) : Spells (c :: cs) ts
  | token {t : Token} {cs : List Char} {ts : List Token} (ht : t.Fits cs)
      (h : Spells cs ts) : Spells (t.text.toList ++ cs) (t :: ts)

/-- Two spellings in a row spell the tokens of both, unless a tag would run on. -/
theorem Spells.append {us vs : List Char} {ts rs : List Token} (hu : Spells us ts)
    (hv : Spells vs rs) (hcut : EndsTag vs) : Spells (us ++ vs) (ts ++ rs) := by
  induction hu with
  | nil => exact hv
  | blank hc _ ih => exact .blank hc ih
  | token ht _ ih =>
    rw [List.append_assoc]
    exact .token (ht.append hcut) ih

/-! ### One token of the lexer -/

theorem lexFrom_nil (position : Nat) : lexFrom position [] = .ok [] := rfl

/-- A character that is not the first of two that make an operator. -/
theorem lexFrom_cons (position : Nat) (c : Char) (cs : List Char)
    (hand : ∀ rest, c = '&' → cs = '&' :: rest → False)
    (hor : ∀ rest, c = '|' → cs = '|' :: rest → False) :
    lexFrom position (c :: cs) =
      if Text.isBlank c then lexFrom (position + 1) cs
      else if c = '(' then (lexFrom (position + 1) cs).map (⟨.opening, position⟩ :: ·)
      else if c = ')' then (lexFrom (position + 1) cs).map (⟨.closing, position⟩ :: ·)
      else if c = '!' then (lexFrom (position + 1) cs).map (⟨.not, position⟩ :: ·)
      else if isTagChar c then (lexFrom (position + 1) cs).map (consTagChar c position)
      else .error ⟨c, position⟩ := by
  rw [lexFrom.eq_def]
  split
  · exact absurd ‹_› (by simp)
  · rename_i h
    injection h with hc hcs
    exact (hand _ hc hcs).elim
  · rename_i h
    injection h with hc hcs
    exact (hor _ hc hcs).elim
  · rename_i h
    injection h with hc hcs
    rw [hc, hcs]

theorem lexFrom_blank (position : Nat) (c : Char) (cs : List Char) (hc : Text.isBlank c = true) :
    lexFrom position (c :: cs) = lexFrom (position + 1) cs := by
  have hand : ∀ rest, c = '&' → cs = '&' :: rest → False := by
    rintro rest rfl -
    exact absurd hc (by decide)
  have hor : ∀ rest, c = '|' → cs = '|' :: rest → False := by
    rintro rest rfl -
    exact absurd hc (by decide)
  rw [lexFrom_cons position c cs hand hor, if_pos hc]

theorem lexFrom_symbol (position : Nat) (t : Token) (cs : List Char)
    (ht : ∀ name, t ≠ .tag name) :
    lexFrom position (t.text.toList ++ cs) =
      (lexFrom (position + t.text.length) cs).map (⟨t, position⟩ :: ·) := by
  cases t with
  | tag name => exact absurd rfl (ht name)
  | and | or | not | opening | closing => rfl

theorem lexFrom_tagChar (position : Nat) (c : Char) (cs : List Char) (hc : isTagChar c = true) :
    lexFrom position (c :: cs) = (lexFrom (position + 1) cs).map (consTagChar c position) := by
  have hr := isTagChar_range c hc
  have hne : ∀ d : Char, d.toNat < 48 ∨ 95 < d.toNat → c ≠ d := by
    rintro d hd rfl
    omega
  have hand : ∀ rest, c = '&' → cs = '&' :: rest → False :=
    fun rest h _ => hne '&' (by decide) h
  have hor : ∀ rest, c = '|' → cs = '|' :: rest → False :=
    fun rest h _ => hne '|' (by decide) h
  rw [lexFrom_cons position c cs hand hor, if_neg (by simp [isBlank_of_isTagChar c hc]),
    if_neg (hne '(' (by decide)), if_neg (hne ')' (by decide)), if_neg (hne '!' (by decide)),
    if_pos hc]

/-- A text starts with a blank, with a token of fixed text, with a character of tags, or with one at
which the lexer stops. -/
theorem lexFrom_cases (position : Nat) (c : Char) (cs : List Char) :
    Text.isBlank c = true ∨
    (∃ t rest, (∀ name, t ≠ Token.tag name) ∧ c :: cs = t.text.toList ++ rest) ∨
    isTagChar c = true ∨
    lexFrom position (c :: cs) = .error ⟨c, position⟩ := by
  by_cases hand : ∃ rest, c = '&' ∧ cs = '&' :: rest
  · obtain ⟨rest, rfl, rfl⟩ := hand
    exact .inr (.inl ⟨.and, rest, by simp, rfl⟩)
  by_cases hor : ∃ rest, c = '|' ∧ cs = '|' :: rest
  · obtain ⟨rest, rfl, rfl⟩ := hor
    exact .inr (.inl ⟨.or, rest, by simp, rfl⟩)
  have heq := lexFrom_cons position c cs (fun rest hc hr => hand ⟨rest, hc, hr⟩)
    (fun rest hc hr => hor ⟨rest, hc, hr⟩)
  by_cases hblank : Text.isBlank c = true
  · exact .inl hblank
  by_cases hopen : c = '('
  · subst hopen
    exact .inr (.inl ⟨.opening, cs, by simp, rfl⟩)
  by_cases hclose : c = ')'
  · subst hclose
    exact .inr (.inl ⟨.closing, cs, by simp, rfl⟩)
  by_cases hnot : c = '!'
  · subst hnot
    exact .inr (.inl ⟨.not, cs, by simp, rfl⟩)
  by_cases htag : isTagChar c = true
  · exact .inr (.inr (.inl htag))
  rw [if_neg hblank, if_neg hopen, if_neg hclose, if_neg hnot, if_neg htag] at heq
  exact .inr (.inr (.inr heq))

/-! ### A whole tag of the lexer -/

theorem consTagChar_head (c : Char) (position : Nat) (lexemes : List Lexeme) :
    ∃ name rest, consTagChar c position lexemes = ⟨.tag name, position⟩ :: rest := by
  fun_cases consTagChar c position lexemes with
  | case1 name rest => exact ⟨_, _, rfl⟩
  | case2 name p rest hp => exact ⟨_, _, rfl⟩
  | case3 lexemes hne => exact ⟨_, _, rfl⟩

theorem lexFrom_head_position (position : Nat) (cs : List Char) (l : Lexeme) (rest : List Lexeme)
    (h : lexFrom position cs = .ok (l :: rest)) : position ≤ l.position := by
  induction cs generalizing position with
  | nil => simp [lexFrom_nil] at h
  | cons c cs ih =>
    rcases lexFrom_cases position c cs with hblank | ⟨t, tail, ht, heq⟩ | htag | hstray
    · rw [lexFrom_blank position c cs hblank] at h
      have hle := ih (position + 1) h
      omega
    · rw [heq, lexFrom_symbol position t tail ht] at h
      obtain ⟨found, -, hl⟩ := (map_eq_ok_iff _ _ _).1 h
      injection hl with hl _
      subst hl
      exact Nat.le_refl position
    · rw [lexFrom_tagChar position c cs htag] at h
      obtain ⟨found, -, hl⟩ := (map_eq_ok_iff _ _ _).1 h
      obtain ⟨name, others, hcons⟩ := consTagChar_head c position found
      rw [hcons] at hl
      injection hl with hl _
      subst hl
      exact Nat.le_refl position
    · rw [hstray] at h
      exact absurd h (by simp)

/-- A text that ends a tag has no tag at its own start. -/
theorem lexFrom_endsTag (position : Nat) (cs : List Char) (name : String) (p : Nat)
    (rest : List Lexeme) (hcs : EndsTag cs)
    (h : lexFrom position cs = .ok (⟨.tag name, p⟩ :: rest)) : p ≠ position := by
  cases cs with
  | nil => simp [lexFrom_nil] at h
  | cons c cs =>
    rcases lexFrom_cases position c cs with hblank | ⟨t, tail, ht, heq⟩ | htag | hstray
    · rw [lexFrom_blank position c cs hblank] at h
      have hle := lexFrom_head_position (position + 1) cs _ rest h
      simp only at hle
      omega
    · rw [heq, lexFrom_symbol position t tail ht] at h
      obtain ⟨found, -, hl⟩ := (map_eq_ok_iff _ _ _).1 h
      injection hl with hl _
      injection hl with hl _
      exact absurd hl (ht name)
    · have hc := hcs c (by simp)
      rw [hc] at htag
      exact absurd htag (by simp)
    · rw [hstray] at h
      exact absurd h (by simp)

theorem consTagChar_separate (c : Char) (position : Nat) (lexemes : List Lexeme)
    (h : ∀ name p rest, lexemes = ⟨.tag name, p⟩ :: rest → p ≠ position + 1) :
    consTagChar c position lexemes = ⟨.tag (String.ofList [c]), position⟩ :: lexemes := by
  fun_cases consTagChar c position lexemes with
  | case1 name rest => exact absurd rfl (h name (position + 1) rest rfl)
  | case2 name p rest hp => rfl
  | case3 lexemes hne => rfl

theorem lexFrom_tagChars (position : Nat) (c : Char) (cs rest : List Char)
    (hcs : ∀ d ∈ c :: cs, isTagChar d = true) (hrest : EndsTag rest) :
    lexFrom position (c :: cs ++ rest) =
      (lexFrom (position + (cs.length + 1)) rest).map
        (⟨.tag (String.ofList (c :: cs)), position⟩ :: ·) := by
  induction cs generalizing position c with
  | nil =>
    -- The last character of the tag: nothing after it may be joined to it.
    have hc : isTagChar c = true := hcs c (by simp)
    show lexFrom position (c :: rest) = _
    rw [lexFrom_tagChar position c rest hc]
    cases hl : lexFrom (position + 1) rest with
    | error stray => simp [Except.map]
    | ok lexemes =>
      have hsep : ∀ name p others, lexemes = ⟨.tag name, p⟩ :: others → p ≠ position + 1 := by
        rintro name p others rfl
        exact lexFrom_endsTag (position + 1) rest name p others hrest hl
      simp [Except.map, consTagChar_separate c position lexemes hsep]
  | cons d ds ih =>
    -- The tag of the later characters starts at the next position, so `c` is joined to it.
    have hc : isTagChar c = true := hcs c (by simp)
    have hds : ∀ x ∈ d :: ds, isTagChar x = true := fun x hx => hcs x (List.mem_cons_of_mem c hx)
    show lexFrom position (c :: (d :: ds ++ rest)) = _
    have hpos : position + 1 + (ds.length + 1) = position + ((d :: ds).length + 1) := by
      simp only [List.length_cons]
      omega
    rw [lexFrom_tagChar position c _ hc, ih (position + 1) d hds, hpos]
    cases lexFrom (position + ((d :: ds).length + 1)) rest with
    | error stray => rfl
    | ok lexemes => simp [Except.map, consTagChar]

theorem lexFrom_tag (position : Nat) (name : String) (cs : List Char) (hn : IsTagName name)
    (hcs : EndsTag cs) :
    lexFrom position (name.toList ++ cs) =
      (lexFrom (position + name.length) cs).map (⟨.tag name, position⟩ :: ·) := by
  obtain ⟨hne, hall⟩ := hn
  cases hl : name.toList with
  | nil => exact absurd hl hne
  | cons c rest =>
    have hname : String.ofList (c :: rest) = name := by rw [← hl, String.ofList_toList]
    have hlen : name.length = rest.length + 1 := by rw [← String.length_toList, hl, List.length_cons]
    rw [hl] at hall
    rw [lexFrom_tagChars position c rest cs hall hcs, hname, hlen]

theorem lexFrom_token (position : Nat) (t : Token) (cs : List Char) (ht : t.Fits cs) :
    lexFrom position (t.text.toList ++ cs) =
      (lexFrom (position + t.text.length) cs).map (⟨t, position⟩ :: ·) := by
  cases t with
  | tag name => exact lexFrom_tag position name cs ht.1 ht.2
  | and | or | not | opening | closing => exact lexFrom_symbol position _ cs (by simp)

/-! ### Texts as the lexer reads them -/

/-- Induction along the lexer: over the blanks and the whole tokens of a text, up to its end or to
a character at which the lexer stops. -/
theorem lexFrom_induction {motive : Nat → List Char → Prop}
    (nil : ∀ position, motive position [])
    (blank : ∀ position c cs, Text.isBlank c = true → motive (position + 1) cs →
      motive position (c :: cs))
    (token : ∀ position t cs, Token.Fits t cs → motive (position + t.text.length) cs →
      motive position (t.text.toList ++ cs))
    (stray : ∀ position c cs, lexFrom position (c :: cs) = .error ⟨c, position⟩ →
      motive position (c :: cs))
    (position : Nat) (cs : List Char) : motive position cs := by
  induction hlen : cs.length using Nat.strongRecOn generalizing position cs with
  | ind n ih =>
    subst hlen
    -- A token makes progress, so what is after it is a shorter text.
    have htoken : ∀ t rest, Token.Fits t rest → cs = t.text.toList ++ rest → motive position cs := by
      rintro t rest ht rfl
      refine token position t rest ht (ih rest.length ?_ _ rest rfl)
      have hpos := ht.text_length_pos
      rw [List.length_append, String.length_toList]
      omega
    cases cs with
    | nil => exact nil position
    | cons c cs =>
      rcases lexFrom_cases position c cs with hblank | ⟨t, rest, ht, heq⟩ | htag | hstray
      · exact blank position c cs hblank (ih cs.length (by simp) (position + 1) cs rfl)
      · exact htoken t rest (Token.fits_of_ne_tag ht rest) heq
      · obtain ⟨name, rest, hn, hrest, heq⟩ := tag_run c cs htag
        exact htoken (.tag name) rest ⟨hn, hrest⟩ heq
      · exact stray position c cs hstray

theorem lexFrom_bounds (position : Nat) (cs : List Char) (lexemes : List Lexeme)
    (h : lexFrom position cs = .ok lexemes) :
    ∀ l ∈ lexemes, position ≤ l.position ∧ l.position < position + cs.length := by
  induction position, cs using lexFrom_induction generalizing lexemes with
  | nil position =>
    simp only [lexFrom_nil, Except.ok.injEq] at h
    subst h
    simp
  | blank position c cs hc ih =>
    rw [lexFrom_blank position c cs hc] at h
    intro l hl
    have hb := ih lexemes h l hl
    rw [List.length_cons]
    omega
  | token position t cs ht ih =>
    rw [lexFrom_token position t cs ht] at h
    obtain ⟨found, hfound, rfl⟩ := (map_eq_ok_iff _ _ _).1 h
    have hpos := ht.text_length_pos
    intro l hl
    rw [List.length_append, String.length_toList]
    rcases List.mem_cons.1 hl with rfl | hl
    · simp only
      omega
    · have hb := ih found hfound l hl
      omega
  | stray position c cs hstray =>
    rw [hstray] at h
    exact absurd h (by simp)

theorem lexFrom_stray_bounds (position : Nat) (cs : List Char) (s : StrayCharacter)
    (h : lexFrom position cs = .error s) :
    position ≤ s.position ∧ s.position < position + cs.length := by
  induction position, cs using lexFrom_induction with
  | nil position => simp [lexFrom_nil] at h
  | blank position c cs hc ih =>
    rw [lexFrom_blank position c cs hc] at h
    have hb := ih h
    rw [List.length_cons]
    omega
  | token position t cs ht ih =>
    rw [lexFrom_token position t cs ht, map_eq_error_iff] at h
    have hb := ih h
    rw [List.length_append, String.length_toList]
    omega
  | stray position c cs hstray =>
    rw [hstray] at h
    injection h with h
    rw [← h, List.length_cons]
    simp only
    omega

/-! ### The lexer finds what is spelled -/

theorem spells_of_lexFrom (position : Nat) (cs : List Char) (lexemes : List Lexeme)
    (h : lexFrom position cs = .ok lexemes) : Spells cs (lexemes.map Lexeme.token) := by
  induction position, cs using lexFrom_induction generalizing lexemes with
  | nil position =>
    simp only [lexFrom_nil, Except.ok.injEq] at h
    subst h
    exact .nil
  | blank position c cs hc ih =>
    rw [lexFrom_blank position c cs hc] at h
    exact .blank hc (ih lexemes h)
  | token position t cs ht ih =>
    rw [lexFrom_token position t cs ht] at h
    obtain ⟨found, hfound, rfl⟩ := (map_eq_ok_iff _ _ _).1 h
    exact .token ht (ih found hfound)
  | stray position c cs hstray =>
    rw [hstray] at h
    exact absurd h (by simp)

theorem lexFrom_of_spells (position : Nat) (cs : List Char) (ts : List Token) (h : Spells cs ts) :
    ∃ lexemes, lexFrom position cs = .ok lexemes ∧ lexemes.map Lexeme.token = ts := by
  induction h generalizing position with
  | nil => exact ⟨[], rfl, rfl⟩
  | @blank c cs ts hc _ ih =>
    obtain ⟨lexemes, hl, hts⟩ := ih (position + 1)
    exact ⟨lexemes, by rw [lexFrom_blank position c cs hc, hl], hts⟩
  | @token t cs ts ht _ ih =>
    obtain ⟨lexemes, hl, hts⟩ := ih (position + t.text.length)
    refine ⟨⟨t, position⟩ :: lexemes, ?_, by rw [List.map_cons, hts]⟩
    rw [lexFrom_token position t cs ht, hl]
    rfl

/-- The lexer succeeds exactly on the texts that spell tokens, and finds those tokens. -/
theorem lex_ok_iff_spells (cs : List Char) (ts : List Token) :
    (∃ lexemes, lex cs = .ok lexemes ∧ lexemes.map Lexeme.token = ts) ↔ Spells cs ts := by
  constructor
  · rintro ⟨lexemes, hl, rfl⟩
    exact spells_of_lexFrom 0 cs lexemes hl
  · exact lexFrom_of_spells 0 cs ts

/-- A text spells at most one list of tokens. -/
theorem Spells.unique {cs : List Char} {ts rs : List Token} (ht : Spells cs ts)
    (hr : Spells cs rs) : ts = rs := by
  obtain ⟨lexemes, hl, rfl⟩ := (lex_ok_iff_spells cs ts).2 ht
  obtain ⟨others, ho, rfl⟩ := (lex_ok_iff_spells cs rs).2 hr
  rw [hl] at ho
  injection ho with heq
  rw [heq]

end TagAudit.Expression
