import TagAudit.Proofs.Expression.Parsing

/-!
# Places of faults (`parse_expression`)

A fault of the parser stands at the first token that no condition can have in its place: every
state of the parser can be completed, by an operand where one is due and a closing parenthesis for
each open group, and a token that a state refuses is in no sentence of the grammar that starts
with the tokens before it. A fault of the lexer stands at the only place where a text stops being
spelled.
-/

namespace TagAudit.Expression

/-! ### Where the lexer stops -/

/-- Whether no blank and no token starts a text that goes on. -/
def NothingStarts (cs : List Char) : Prop :=
  ∃ c rest, cs = c :: rest ∧ Text.isBlank c = false ∧
    ∀ (t : Token) (tail : List Char), t.Fits tail → cs ≠ t.text.toList ++ tail

/-- Whether the text before a place is spelled and nothing starts there. -/
def StopsAt (cs : List Char) (n : Nat) : Prop :=
  (∃ tokens, Spells (cs.take n) tokens) ∧ NothingStarts (cs.drop n)

theorem take_token (t : Token) (cs : List Char) (n : Nat) :
    (t.text.toList ++ cs).take (t.text.length + n) = t.text.toList ++ cs.take n := by
  rw [← String.length_toList, List.take_length_add_append]

theorem drop_token (t : Token) (cs : List Char) (n : Nat) :
    (t.text.toList ++ cs).drop (t.text.length + n) = cs.drop n := by
  rw [← String.length_toList, List.drop_length_add_append]

theorem EndsTag.take {cs : List Char} (h : EndsTag cs) (n : Nat) : EndsTag (cs.take n) := by
  cases n with
  | zero => exact endsTag_nil
  | succ n =>
    cases cs with
    | nil => exact endsTag_nil
    | cons c cs => exact endsTag_cons c _ (h c rfl)

theorem Token.Fits.take {t : Token} {cs : List Char} (h : t.Fits cs) (n : Nat) :
    t.Fits (cs.take n) := by
  cases t with
  | tag name => exact ⟨h.1, h.2.take n⟩
  | and | or | not | opening | closing => trivial

theorem NothingStarts.endsTag {cs : List Char} (h : NothingStarts cs) : EndsTag cs := by
  obtain ⟨c, rest, rfl, -, htoken⟩ := h
  cases hc : isTagChar c with
  | false => exact endsTag_cons c rest hc
  | true =>
    obtain ⟨name, tail, hname, htail, heq⟩ := tag_run c rest hc
    exact absurd heq (htoken (.tag name) tail ⟨hname, htail⟩)

theorem nothingStarts_of_stray {position : Nat} {c : Char} {cs : List Char}
    (h : lexFrom position (c :: cs) = .error ⟨c, position⟩) : NothingStarts (c :: cs) := by
  refine ⟨c, cs, rfl, ?_, ?_⟩
  · cases hc : Text.isBlank c with
    | false => rfl
    | true =>
      rw [lexFrom_blank position c cs hc] at h
      have hb := (lexFrom_stray_bounds _ _ _ h).1
      dsimp only at hb
      omega
  · intro t tail ht heq
    rw [heq, lexFrom_token position t tail ht, map_eq_error_iff] at h
    have hb := (lexFrom_stray_bounds _ _ _ h).1
    have hpos := ht.text_length_pos
    dsimp only at hb
    omega

theorem lexFrom_of_nothingStarts {c : Char} {cs : List Char} (h : NothingStarts (c :: cs))
    (position : Nat) : lexFrom position (c :: cs) = .error ⟨c, position⟩ := by
  obtain ⟨d, rest, heq, hblank, htoken⟩ := h
  obtain ⟨rfl, rfl⟩ := List.cons.inj heq
  rcases lexFrom_cases position c cs with hc | ⟨t, tail, ht, heq⟩ | hc | hstray
  · rw [hblank] at hc
    exact absurd hc (by simp)
  · exact absurd heq (htoken t tail (Token.fits_of_ne_tag ht tail))
  · obtain ⟨name, tail, hname, htail, heq⟩ := tag_run c cs hc
    exact absurd heq (htoken (.tag name) tail ⟨hname, htail⟩)
  · exact hstray

theorem stopsAt_of_lexFrom (position : Nat) (cs : List Char) (s : StrayCharacter)
    (h : lexFrom position cs = .error s) : ∃ n, s.position = position + n ∧ StopsAt cs n := by
  induction position, cs using lexFrom_induction with
  | nil position => simp [lexFrom_nil] at h
  | blank position c cs hc ih =>
    rw [lexFrom_blank position c cs hc] at h
    obtain ⟨n, hn, ⟨tokens, hspell⟩, hstop⟩ := ih h
    exact ⟨n + 1, by omega, ⟨tokens, .blank hc hspell⟩, hstop⟩
  | token position t cs ht ih =>
    rw [lexFrom_token position t cs ht, map_eq_error_iff] at h
    obtain ⟨n, hn, ⟨tokens, hspell⟩, hstop⟩ := ih h
    refine ⟨t.text.length + n, by omega, ⟨t :: tokens, ?_⟩, ?_⟩
    · rw [take_token]
      exact .token (ht.take n) hspell
    · rw [drop_token]
      exact hstop
  | stray position c cs hstray =>
    rw [hstray] at h
    obtain rfl := Except.error.inj h
    exact ⟨0, rfl, ⟨[], .nil⟩, nothingStarts_of_stray hstray⟩

theorem lexFrom_of_spells_append {us vs : List Char} {tokens : List Token} (hu : Spells us tokens)
    (hv : NothingStarts vs) (position : Nat) :
    ∃ c, lexFrom position (us ++ vs) = .error ⟨c, position + us.length⟩ := by
  induction hu generalizing position with
  | nil =>
    obtain ⟨c, rest, heq, -, -⟩ := id hv
    subst heq
    exact ⟨c, lexFrom_of_nothingStarts hv position⟩
  | @blank c cs ts hc _ ih =>
    obtain ⟨d, hd⟩ := ih (position + 1)
    refine ⟨d, ?_⟩
    rw [List.cons_append, lexFrom_blank position c _ hc, hd, List.length_cons, Nat.add_assoc,
      Nat.add_comm 1]
  | @token t cs ts ht _ ih =>
    obtain ⟨d, hd⟩ := ih (position + t.text.length)
    refine ⟨d, ?_⟩
    rw [List.append_assoc, lexFrom_token position t _ (ht.append hv.endsTag), hd,
      List.length_append, String.length_toList, Nat.add_assoc]
    rfl

/-- A text stops being spelled at one place at most, and the lexer finds it. -/
theorem StopsAt.position_eq {cs : List Char} {n position : Nat} {s : StrayCharacter}
    (h : StopsAt cs n) (hlex : lexFrom position cs = .error s) : s.position = position + n := by
  obtain ⟨⟨tokens, hspell⟩, hstop⟩ := h
  obtain ⟨c, hc⟩ := lexFrom_of_spells_append hspell hstop position
  have hn : (cs.take n).length = n := by
    obtain ⟨d, rest, hdrop, -, -⟩ := hstop
    have hlength := congrArg List.length hdrop
    rw [List.length_drop, List.length_cons] at hlength
    rw [List.length_take]
    omega
  rw [List.take_append_drop, hlex, hn] at hc
  rw [Except.error.inj hc]

/-! ### Where a token stands -/

/-- Whether the token with the given number stands at a place: the text before spells the tokens
before it, and the text goes on with the token. Behind all tokens is the end of the text. -/
def StandsAt (cs : List Char) (tokens : List Token) (k n : Nat) : Prop :=
  Spells (cs.take n) (tokens.take k) ∧
    ((∃ t rest, tokens[k]? = some t ∧ cs.drop n = t.text.toList ++ rest ∧ t.Fits rest) ∨
      k = tokens.length ∧ n = cs.length)

theorem lexFrom_stands (position : Nat) (cs : List Char) (lexemes : List Lexeme)
    (h : lexFrom position cs = .ok lexemes) (k : Nat) (l : Lexeme) (hl : lexemes[k]? = some l) :
    ∃ n rest, l.position = position + n ∧ Spells (cs.take n) ((lexemes.map Lexeme.token).take k) ∧
      cs.drop n = l.token.text.toList ++ rest ∧ l.token.Fits rest := by
  induction position, cs using lexFrom_induction generalizing lexemes k with
  | nil position =>
    obtain rfl := Except.ok.inj h
    exact absurd hl (by simp)
  | blank position c cs hc ih =>
    rw [lexFrom_blank position c cs hc] at h
    obtain ⟨n, rest, hn, hspell, hrest⟩ := ih lexemes h k hl
    exact ⟨n + 1, rest, by omega, .blank hc hspell, hrest⟩
  | token position t cs ht ih =>
    rw [lexFrom_token position t cs ht] at h
    obtain ⟨found, hfound, rfl⟩ := (map_eq_ok_iff _ _ _).1 h
    cases k with
    | zero =>
      obtain rfl := Option.some.inj hl
      exact ⟨0, cs, rfl, .nil, rfl, ht⟩
    | succ k =>
      obtain ⟨n, rest, hn, hspell, hrest⟩ := ih found hfound k hl
      refine ⟨t.text.length + n, rest, by omega, ?_, ?_⟩
      · rw [take_token]
        exact .token (ht.take n) hspell
      · rw [drop_token]
        exact hrest
  | stray position c cs hstray =>
    rw [hstray] at h
    exact absurd h (by simp)

theorem standsAt_of_lex {cs : List Char} {lexemes : List Lexeme} (h : lex cs = .ok lexemes)
    {k : Nat} {l : Lexeme} (hl : lexemes[k]? = some l) :
    StandsAt cs (lexemes.map Lexeme.token) k l.position := by
  obtain ⟨n, rest, hn, hspell, hdrop, hfits⟩ := lexFrom_stands 0 cs lexemes h k l hl
  rw [Nat.zero_add] at hn
  rw [hn]
  refine ⟨hspell, .inl ⟨l.token, rest, ?_, hdrop, hfits⟩⟩
  rw [List.getElem?_map, hl]
  rfl

theorem standsAt_end {cs : List Char} {lexemes : List Lexeme} (h : lex cs = .ok lexemes) :
    StandsAt cs (lexemes.map Lexeme.token) lexemes.length cs.length := by
  refine ⟨?_, .inr ⟨(List.length_map _).symm, rfl⟩⟩
  rw [List.take_length, ← List.length_map Lexeme.token, List.take_length]
  exact spells_of_lexFrom 0 cs lexemes h

/-! ### What can still become a condition -/

/-- Whether tokens can be continued to a sentence of the grammar. -/
def Completable (w : List Token) : Prop :=
  ∃ rest e, (∀ name, .tag name ∈ rest → IsTagName name) ∧ Derives .disjunction (w ++ rest) e

def Impossible (w : List Token) : Prop :=
  ∀ rest e, ¬ Derives .disjunction (w ++ rest) e

namespace State

/-- Each closing parenthesis closes the innermost group. -/
theorem advance?_closings (e : Expression) (level : Level) (outer : List Level) :
    ∃ last level', (operator e level outer).advance? (List.replicate outer.length .closing) =
      some (.operator last level' []) := by
  induction outer generalizing e level with
  | nil => exact ⟨e, level, rfl⟩
  | cons next outer ih => exact ih (negate next.negations (level.close e)) next

/-- Every state can be completed. -/
theorem advance?_completable (s : State) :
    ∃ rest last level, (∀ name, .tag name ∈ rest → IsTagName name) ∧
      s.advance? rest = some (.operator last level []) := by
  have hclosings : ∀ n name, .tag name ∉ List.replicate n Token.closing := by
    intro n name hmem
    exact absurd (List.eq_of_mem_replicate hmem) (by simp)
  cases s with
  | operator e level outer =>
    obtain ⟨last, level', h⟩ := advance?_closings e level outer
    exact ⟨_, last, level', fun name hmem => absurd hmem (hclosings _ name), h⟩
  | operand level outer =>
    obtain ⟨last, level', h⟩ := advance?_closings (negateTag level.negations "A") level outer
    refine ⟨.tag "A" :: List.replicate outer.length .closing, last, level', ?_, h⟩
    intro name hmem
    rcases List.mem_cons.1 hmem with heq | hmem
    · obtain rfl := Token.tag.inj heq
      exact @isTagName_of_char 'A' (by decide)
    · exact absurd hmem (hclosings _ name)

theorem completable_of_advance? {w : List Token} {s : State} (h : start.advance? w = some s) :
    Completable w := by
  obtain ⟨rest, last, level, hnames, hrest⟩ := s.advance?_completable
  refine ⟨rest, level.close last, hnames, derives_of_advance? ?_⟩
  rw [advance?_append, h]
  exact hrest

theorem impossible_of_advance? {w : List Token} (h : start.advance? w = none) : Impossible w := by
  intro rest e hderives
  obtain ⟨last, level, hadvance, -⟩ := hderives.drives []
  have hnone : start.advance? (w ++ rest) = none := by
    rw [advance?_append, h]
    rfl
  exact absurd (hnone.symm.trans hadvance) (by simp)

theorem next?_of_step_error {s : State} {l : Lexeme} {fault : SyntaxFault}
    (h : s.step l = .error fault) : s.next? l.token = none := by
  cases hnext : s.next? l.token with
  | none => rfl
  | some s' =>
    rw [(step_ok_iff s s' l).2 hnext] at h
    exact absurd h (by simp)

/-- A run breaks off at the first token that a state refuses, or at the end. -/
theorem run_error_cases (length : Nat) (s : State) (lexemes : List Lexeme) (fault : SyntaxFault)
    (h : s.run length lexemes = .error fault) :
    ∃ k, (∃ s', s.advance? ((lexemes.map Lexeme.token).take k) = some s') ∧
      ((∃ l, lexemes[k]? = some l ∧ fault.position? = some l.position ∧
        s.advance? ((lexemes.map Lexeme.token).take (k + 1)) = none) ∨
      k = lexemes.length ∧ fault.position? = some length) := by
  induction lexemes generalizing s with
  | nil => exact ⟨0, ⟨s, rfl⟩, .inr ⟨rfl, finish_error_position length s fault h⟩⟩
  | cons l rest ih =>
    cases hstep : s.step l with
    | error fault' =>
      simp only [run, hstep, bind, Except.bind, Except.error.injEq] at h
      subst h
      have hrefused : s.advance? [l.token] = none := by
        rw [advance?, next?_of_step_error hstep]
        rfl
      exact ⟨0, ⟨s, rfl⟩, .inl ⟨l, rfl, step_error_position s l fault' hstep, hrefused⟩⟩
    | ok s' =>
      simp only [run, hstep, bind, Except.bind] at h
      have hcons : ∀ ts, s.advance? (l.token :: ts) = s'.advance? ts := by
        intro ts
        rw [advance?, (step_ok_iff s s' l).1 hstep]
        rfl
      obtain ⟨k, ⟨s'', hread⟩, hcases⟩ := ih s' h
      refine ⟨k + 1, ⟨s'', (hcons _).trans hread⟩, ?_⟩
      rcases hcases with ⟨l', hl', hposition, hrefused⟩ | ⟨hk, hposition⟩
      · exact .inl ⟨l', hl', hposition, (hcons _).trans hrefused⟩
      · exact .inr ⟨congrArg (· + 1) hk, hposition⟩

end State

/-! ### Faults of a text -/

theorem parse_of_blank {text : String} (h : text.toList.all Text.isBlank = true) :
    parse text = .error .blank := by
  rw [parse, ofChars, if_pos h]

theorem parse_of_stray {text : String} {s : StrayCharacter} (h : lex text.toList = .error s) :
    parse text = .error (.stray s.character s.position) := by
  have hblank : ¬ text.toList.all Text.isBlank = true := by
    intro hall
    obtain ⟨lexemes, hl, -⟩ := (lex_ok_iff_spells _ _).2 (spells_of_blank _ hall)
    rw [h] at hl
    exact absurd hl (by simp)
  rw [parse, ofChars, if_neg hblank, h]

theorem parse_of_lex {text : String} {lexemes : List Lexeme} (h : lex text.toList = .ok lexemes)
    (hblank : ¬ text.toList.all Text.isBlank = true) :
    parse text = ofLexemes text.length lexemes := by
  rw [parse, ofChars, if_neg hblank, h, String.length_toList]

/-- A blank text has a fault without a place. In another text that consists of tokens but is no
condition, the fault stands at a token, or behind all tokens at the end: the tokens before it can be
continued to a condition, but not together with it, and at the end the tokens are no condition. In a
text that does not consist of tokens, the fault stands at the first place where the text before is
spelled and nothing starts. -/
theorem fault_at_first_impossible_token (text : String) :
    (text.toList.all Text.isBlank = true →
      ∃ fault, parse text = .error fault ∧ fault.position? = none) ∧
    (∀ lexemes, lex text.toList = .ok lexemes → ¬ text.toList.all Text.isBlank = true →
      (∀ e, parse text ≠ .ok e) →
      let tokens := lexemes.map Lexeme.token
      ∃ fault k p, parse text = .error fault ∧ fault.position? = some p ∧
        (lexemes.map Lexeme.position ++ [text.length])[k]? = some p ∧
        StandsAt text.toList tokens k p ∧
        Completable (tokens.take k) ∧
        (k < tokens.length → Impossible (tokens.take (k + 1))) ∧
        (k = tokens.length → ∀ e, ¬ Derives .disjunction tokens e)) ∧
    ∀ s, lex text.toList = .error s →
      ∃ fault p, parse text = .error fault ∧ fault.position? = some p ∧
        StopsAt text.toList p ∧ ∀ q, StopsAt text.toList q → p ≤ q := by
  refine ⟨fun hblank => ⟨.blank, parse_of_blank hblank, rfl⟩, ?_, ?_⟩
  · intro lexemes hlex hblank hno tokens
    have hparse := parse_of_lex hlex hblank
    have hlength : tokens.length = lexemes.length := List.length_map _
    have hderives : ∀ e, ¬ Derives .disjunction tokens e := by
      intro e he
      exact hno e (hparse.trans ((ofLexemes_ok_iff _ _ _).2 he))
    cases hfault : parse text with
    | ok e => exact absurd hfault (hno e)
    | error fault =>
      rw [hparse] at hfault
      obtain ⟨k, ⟨s, hread⟩, hcases⟩ := State.run_error_cases _ _ _ _ hfault
      have hcompletable := State.completable_of_advance? hread
      rcases hcases with ⟨l, hl, hposition, hrefused⟩ | ⟨rfl, hposition⟩
      · have hk : k < lexemes.length := (List.getElem?_eq_some_iff.1 hl).1
        refine ⟨fault, k, l.position, rfl, hposition, ?_, standsAt_of_lex hlex hl, hcompletable,
          fun _ => State.impossible_of_advance? hrefused, fun _ => hderives⟩
        rw [List.getElem?_append_left (by rw [List.length_map]; exact hk), List.getElem?_map, hl]
        rfl
      · refine ⟨fault, lexemes.length, text.length, rfl, hposition, ?_, ?_, hcompletable, ?_,
          fun _ => hderives⟩
        · rw [List.getElem?_append_right (Nat.le_of_eq (List.length_map _)), List.length_map,
            Nat.sub_self]
          rfl
        · rw [← String.length_toList]
          exact standsAt_end hlex
        · intro hlt
          omega
  · intro s hlex
    obtain ⟨n, hn, hstops⟩ := stopsAt_of_lexFrom 0 _ s hlex
    refine ⟨_, s.position, parse_of_stray hlex, rfl, ?_, ?_⟩
    · rw [hn, Nat.zero_add]
      exact hstops
    · intro q hq
      have hsame := hq.position_eq hlex
      omega

end TagAudit.Expression
