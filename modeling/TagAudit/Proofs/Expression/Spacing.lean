import TagAudit.Proofs.Compound.Expansion
import TagAudit.Proofs.Expression.Faults
import TagAudit.Proofs.Expression.Required
import TagAudit.Rule.Basic

/-!
# Blanks between tokens

Blanks that are put into a text between its tokens change nothing but places: the lexer finds the
same tokens or stops at the same character, and the parser, which looks at places only to report
them, ends in the same condition or the same fault.
-/

namespace TagAudit

namespace Expression

/-! ### Moved places -/

/-- Where the place `p` of a text is once `k` characters are put in at the place `n`. -/
def movedPast (n k p : Nat) : Nat :=
  if n ≤ p then p + k else p

theorem movedPast_of_le {n p : Nat} (h : n ≤ p) (k : Nat) : movedPast n k p = p + k := if_pos h

theorem movedPast_of_lt {n p : Nat} (h : p < n) (k : Nat) : movedPast n k p = p :=
  if_neg (Nat.not_le.2 h)

def Lexeme.moved (f : Nat → Nat) (l : Lexeme) : Lexeme :=
  ⟨l.token, f l.position⟩

/-- What the lexer finds, with all places moved. -/
def movedLexemes (f : Nat → Nat) :
    Except StrayCharacter (List Lexeme) → Except StrayCharacter (List Lexeme)
  | .ok lexemes => .ok (lexemes.map (Lexeme.moved f))
  | .error stray => .error ⟨stray.character, f stray.position⟩

def SyntaxFault.moved (f : Nat → Nat) : SyntaxFault → SyntaxFault
  | .blank => .blank
  | .stray c p => .stray c (f p)
  | .trailing t p => .trailing t (f p)
  | .unclosed p => .unclosed (f p)
  | .incomplete p => .incomplete (f p)
  | .misplaced t p => .misplaced t (f p)

theorem SyntaxFault.position?_moved (f : Nat → Nat) (fault : SyntaxFault) :
    (fault.moved f).position? = fault.position?.map f := by
  cases fault <;> rfl

theorem mapError_moved_moved (f g : Nat → Nat) (parsed : Except SyntaxFault Expression) :
    (parsed.mapError (SyntaxFault.moved f)).mapError (SyntaxFault.moved g) =
      parsed.mapError (SyntaxFault.moved fun p => g (f p)) := by
  cases parsed with
  | ok e => rfl
  | error fault => cases fault <;> rfl

theorem movedLexemes_map_cons (f : Nat → Nat) (l : Lexeme)
    (found : Except StrayCharacter (List Lexeme)) :
    movedLexemes f (found.map (l :: ·)) = (movedLexemes f found).map (l.moved f :: ·) := by
  cases found with
  | ok lexemes => rfl
  | error stray => rfl

/-! ### The parser reports places and does nothing else with them -/

namespace State

theorem step_moved (f : Nat → Nat) (s : State) (l : Lexeme) :
    s.step (l.moved f) = (s.step l).mapError (SyntaxFault.moved f) := by
  obtain ⟨t, p⟩ := l
  cases s with
  | operand level outer => cases t <;> rfl
  | operator e level outer => cases t <;> cases outer <;> rfl

theorem finish_moved (f : Nat → Nat) (length : Nat) (s : State) :
    s.finish (f length) = (s.finish length).mapError (SyntaxFault.moved f) := by
  cases s with
  | operand level outer => rfl
  | operator e level outer => cases outer <;> rfl

theorem run_moved (f : Nat → Nat) (length : Nat) (s : State) (lexemes : List Lexeme) :
    s.run (f length) (lexemes.map (Lexeme.moved f)) =
      (s.run length lexemes).mapError (SyntaxFault.moved f) := by
  induction lexemes generalizing s with
  | nil => exact finish_moved f length s
  | cons l rest ih =>
    have hmoved := step_moved f s l
    cases hstep : s.step l with
    | error fault =>
      have hfault : s.step (l.moved f) = .error (fault.moved f) := by
        rw [hmoved, hstep]
        rfl
      simp only [List.map_cons, run, hfault, hstep, bind, Except.bind]
      rfl
    | ok s' =>
      have hnext : s.step (l.moved f) = .ok s' := by
        rw [hmoved, hstep]
        rfl
      simp only [List.map_cons, run, hnext, hstep, bind, Except.bind]
      exact ih s'

end State

/-! ### The lexer at another place -/

theorem lexFrom_moved (n k position : Nat) (cs : List Char) (h : n ≤ position) :
    lexFrom (position + k) cs = movedLexemes (movedPast n k) (lexFrom position cs) := by
  induction position, cs using lexFrom_induction with
  | nil position => rfl
  | blank position c cs hc ih =>
    have hrest := ih (by omega)
    have hplace : position + k + 1 = position + 1 + k := by omega
    rw [lexFrom_blank _ c cs hc, lexFrom_blank _ c cs hc, hplace, hrest]
  | token position t cs ht ih =>
    have hrest := ih (by omega)
    have hplace : position + k + t.text.length = position + t.text.length + k := by omega
    rw [lexFrom_token _ t cs ht, lexFrom_token _ t cs ht, hplace, hrest, movedLexemes_map_cons,
      Lexeme.moved, movedPast_of_le h]
  | stray position c cs hstray =>
    have hstart := nothingStarts_of_stray hstray
    rw [lexFrom_of_nothingStarts hstart, hstray, movedLexemes, movedPast_of_le h]

theorem lexFrom_blanks (w cs : List Char) (hw : w.all Text.isBlank = true) (position : Nat) :
    lexFrom position (w ++ cs) = lexFrom (position + w.length) cs := by
  induction w generalizing position with
  | nil => rfl
  | cons c w ih =>
    rw [List.all_cons, Bool.and_eq_true] at hw
    have hplace : position + 1 + w.length = position + (c :: w).length := by
      rw [List.length_cons]
      omega
    rw [List.cons_append, lexFrom_blank _ c _ hw.1, ih hw.2, hplace]

/-! ### Where blanks may be put -/

/-- Whether a token of the text `u ++ v` starts before the end of `u` and ends after it. The lexer
comes to the token, because all of the text before it is spelled. -/
def InsideToken (t : Token) (u v : List Char) : Prop :=
  ∃ before after tokens, Spells before tokens ∧ t.Fits after ∧
    u ++ v = before ++ (t.text.toList ++ after) ∧
    before.length < u.length ∧ u.length < before.length + t.text.length

def BetweenTagChars (u v : List Char) : Prop :=
  ∃ c d, u.getLast? = some c ∧ v.head? = some d ∧ isTagChar c = true ∧ isTagChar d = true

theorem InsideToken.cons_blank {t : Token} {u v : List Char} {c : Char} (h : InsideToken t u v)
    (hc : Text.isBlank c = true) : InsideToken t (c :: u) v := by
  obtain ⟨before, after, tokens, hspell, hfits, heq, hstart, hend⟩ := h
  refine ⟨c :: before, after, tokens, .blank hc hspell, hfits, ?_, ?_, ?_⟩
  · rw [List.cons_append, heq, List.cons_append]
  · simp only [List.length_cons]
    omega
  · simp only [List.length_cons]
    omega

theorem InsideToken.token_append {t t' : Token} {u v : List Char} (h : InsideToken t u v)
    (ht' : t'.Fits (u ++ v)) : InsideToken t (t'.text.toList ++ u) v := by
  obtain ⟨before, after, tokens, hspell, hfits, heq, hstart, hend⟩ := h
  have hbefore : t'.Fits before := by
    rw [heq] at ht'
    have htake := ht'.take before.length
    rwa [List.take_left] at htake
  refine ⟨t'.text.toList ++ before, after, t' :: tokens, .token hbefore hspell, hfits, ?_, ?_, ?_⟩
  · rw [List.append_assoc, heq, List.append_assoc]
  · simp only [List.length_append]
    omega
  · simp only [List.length_append]
    omega

/-- A token that a text starts with ends before the place or at it. -/
theorem split_of_not_insideToken {t : Token} {u v rest : List Char} (hu : u ≠ [])
    (ht : t.Fits rest) (heq : u ++ v = t.text.toList ++ rest) (h : ¬ InsideToken t u v) :
    ∃ u', u = t.text.toList ++ u' ∧ rest = u' ++ v := by
  have hpos : 0 < u.length := List.length_pos_iff.2 hu
  have hlength : t.text.length ≤ u.length := by
    by_cases hle : t.text.length ≤ u.length
    · exact hle
    · exact absurd ⟨[], rest, [], .nil, ht, heq, hpos, by rw [List.length_nil]; omega⟩ h
  rcases List.append_eq_append_iff.1 heq with ⟨s, htext, hv⟩ | ⟨s, hu', hrest⟩
  · -- The text of the token is not longer than `u`, so nothing of it is left.
    have hs : s = [] := by
      have hlen := congrArg List.length htext
      rw [List.length_append, String.length_toList] at hlen
      exact List.length_eq_zero_iff.1 (by omega)
    subst hs
    exact ⟨[], by rw [htext, List.append_nil, List.append_nil], hv.symm⟩
  · exact ⟨s, hu', hrest⟩

/-- On both sides of a place inside a token are characters of the token. -/
theorem InsideToken.between {t : Token} {u v : List Char} (h : InsideToken t u v) :
    ∃ c d, u.getLast? = some c ∧ v.head? = some d ∧ c ∈ t.text.toList ∧ d ∈ t.text.toList := by
  obtain ⟨before, after, tokens, -, -, heq, hstart, hend⟩ := h
  obtain ⟨left, rfl, hleft⟩ : ∃ left, u = before ++ left ∧ left ++ v = t.text.toList ++ after := by
    rcases List.append_eq_append_iff.1 heq with ⟨s, hbefore, -⟩ | ⟨s, hu, hrest⟩
    · have hlen := congrArg List.length hbefore
      rw [List.length_append] at hlen
      omega
    · exact ⟨s, hu, hrest.symm⟩
  rw [List.length_append] at hstart hend
  obtain ⟨right, htext, rfl⟩ : ∃ right, t.text.toList = left ++ right ∧ v = right ++ after := by
    rcases List.append_eq_append_iff.1 hleft with ⟨s, htext, hv⟩ | ⟨s, hl, -⟩
    · exact ⟨s, htext, hv⟩
    · have hlen := congrArg List.length hl
      rw [List.length_append, String.length_toList] at hlen
      omega
  have hlen := congrArg List.length htext
  rw [List.length_append, String.length_toList] at hlen
  have hne : left ≠ [] := List.length_pos_iff.1 (by omega)
  have hne' : right ≠ [] := List.length_pos_iff.1 (by omega)
  refine ⟨left.getLast hne, right.head hne', ?_, ?_, ?_, ?_⟩
  · rw [List.getLast?_append, List.getLast?_eq_some_getLast hne]
    rfl
  · rw [List.head?_append, List.head?_eq_some_head hne']
    rfl
  · rw [htext]
    exact List.mem_append_left _ (List.getLast_mem hne)
  · rw [htext]
    exact List.mem_append_right _ (List.head_mem hne')

/-- Only a tag and the operators of two characters have places inside. -/
theorem not_insideToken {u v : List Char} (htags : ¬ BetweenTagChars u v)
    (hand : ¬ InsideToken .and u v) (hor : ¬ InsideToken .or u v) (t : Token) :
    ¬ InsideToken t u v := by
  cases t with
  | and => exact hand
  | or => exact hor
  | not | opening | closing =>
    rintro ⟨before, after, tokens, -, -, -, hstart, hend⟩
    have hone : u.length < before.length + 1 := hend
    omega
  | tag name =>
    intro h
    obtain ⟨c, d, hlast, hhead, hc, hd⟩ := h.between
    obtain ⟨before, after, tokens, -, hfits, -, -, -⟩ := h
    exact htags ⟨c, d, hlast, hhead, hfits.1.2 c hc, hfits.1.2 d hd⟩

theorem not_insideToken_start (t : Token) (v : List Char) : ¬ InsideToken t [] v := by
  rintro ⟨before, after, tokens, -, -, -, hstart, -⟩
  exact absurd hstart (Nat.not_lt_zero _)

theorem not_insideToken_end (t : Token) (u : List Char) : ¬ InsideToken t u [] := by
  intro h
  obtain ⟨c, d, -, hhead, -, -⟩ := h.between
  exact absurd hhead (by simp)

/-! ### The lexer across blanks -/

theorem endsTag_insert {u w v : List Char} (hw : w.all Text.isBlank = true)
    (h : EndsTag (u ++ v)) : EndsTag (u ++ (w ++ v)) := by
  cases u with
  | cons c u => exact h
  | nil => exact endsTag_append w v (endsTag_of_blank w hw) h

theorem Token.Fits.insert {t : Token} {u w v : List Char} (h : t.Fits (u ++ v))
    (hw : w.all Text.isBlank = true) : t.Fits (u ++ (w ++ v)) := by
  cases t with
  | tag name => exact ⟨h.1, endsTag_insert hw h.2⟩
  | and | or | not | opening | closing => trivial

theorem head_of_insert {u w v tail : List Char} {c : Char} (hw : w.all Text.isBlank = true)
    (hc : Text.isBlank c = false) (h : u ++ (w ++ v) = c :: tail) : ∃ rest, u ++ v = c :: rest := by
  cases u with
  | cons d u =>
    obtain ⟨rfl, -⟩ := List.cons.inj h
    exact ⟨u ++ v, rfl⟩
  | nil =>
    cases w with
    | nil => exact ⟨tail, h⟩
    | cons d w =>
      obtain ⟨rfl, -⟩ := List.cons.inj h
      rw [List.all_cons, hc] at hw
      exact absurd hw (by simp)

theorem nothingStarts_insert {c : Char} {u w v : List Char} (hw : w.all Text.isBlank = true)
    (h : NothingStarts (c :: (u ++ v))) : NothingStarts (c :: (u ++ (w ++ v))) := by
  obtain ⟨d, rest, heq, hblank, htoken⟩ := h
  obtain ⟨rfl, rfl⟩ := List.cons.inj heq
  refine ⟨c, _, rfl, hblank, ?_⟩
  intro t tail ht heq
  cases t with
  | tag name =>
    -- The first character is one of tags, and so a tag starts the text without the blanks.
    have hc : isTagChar c = true := by
      cases hname : name.toList with
      | nil => exact absurd hname ht.1.1
      | cons x xs =>
        have hx : c = x := by
          change c :: (u ++ (w ++ v)) = name.toList ++ tail at heq
          rw [hname] at heq
          exact (List.cons.inj heq).1
        rw [hx]
        exact ht.1.2 x (by rw [hname]; exact List.mem_cons_self)
    obtain ⟨name', tail', hname', htail', heq'⟩ := tag_run c (u ++ v) hc
    exact htoken (.tag name') tail' ⟨hname', htail'⟩ heq'
  | and =>
    obtain ⟨rfl, hrest⟩ := List.cons.inj heq
    obtain ⟨rest, hfirst⟩ := head_of_insert hw (by decide) hrest
    exact htoken .and rest trivial (by rw [hfirst]; rfl)
  | or =>
    obtain ⟨rfl, hrest⟩ := List.cons.inj heq
    obtain ⟨rest, hfirst⟩ := head_of_insert hw (by decide) hrest
    exact htoken .or rest trivial (by rw [hfirst]; rfl)
  | not =>
    obtain ⟨rfl, -⟩ := List.cons.inj heq
    exact htoken .not (u ++ v) trivial rfl
  | opening =>
    obtain ⟨rfl, -⟩ := List.cons.inj heq
    exact htoken .opening (u ++ v) trivial rfl
  | closing =>
    obtain ⟨rfl, -⟩ := List.cons.inj heq
    exact htoken .closing (u ++ v) trivial rfl

theorem lexFrom_insert_start {w : List Char} (hw : w.all Text.isBlank = true) (position : Nat)
    (v : List Char) : lexFrom position (w ++ v) =
      movedLexemes (movedPast position w.length) (lexFrom position v) := by
  rw [lexFrom_blanks w v hw]
  exact lexFrom_moved position w.length position v (Nat.le_refl _)

theorem lexFrom_insert {w : List Char} (hw : w.all Text.isBlank = true) (position : Nat)
    (cs : List Char) : ∀ u v, cs = u ++ v → (∀ t, ¬ InsideToken t u v) →
      lexFrom position (u ++ (w ++ v)) =
        movedLexemes (movedPast (position + u.length) w.length) (lexFrom position cs) := by
  -- Along the tokens of the text; once `u` is used up, all that follows is moved.
  induction position, cs using lexFrom_induction with
  | nil position =>
    intro u v heq _
    obtain ⟨rfl, rfl⟩ := List.append_eq_nil_iff.1 heq.symm
    exact lexFrom_insert_start hw position []
  | blank position c cs hc ih =>
    intro u v heq hcut
    cases u with
    | nil =>
      rw [heq]
      exact lexFrom_insert_start hw position v
    | cons d u =>
      obtain ⟨rfl, rfl⟩ := List.cons.inj heq
      have hrest := ih u v rfl fun t ht => hcut t (ht.cons_blank hc)
      have hplace : position + 1 + u.length = position + (c :: u).length := by
        rw [List.length_cons]
        omega
      rw [List.cons_append, lexFrom_blank _ c _ hc, lexFrom_blank _ c _ hc, hrest, hplace]
  | token position t cs ht ih =>
    intro u v heq hcut
    by_cases hu : u = []
    · subst hu
      rw [heq]
      exact lexFrom_insert_start hw position v
    · obtain ⟨u', rfl, rfl⟩ := split_of_not_insideToken hu ht heq.symm (hcut t)
      have hrest := ih u' v rfl fun t' ht' => hcut t' (ht'.token_append ht)
      have hplace : position + t.text.length + u'.length =
          position + (t.text.toList ++ u').length := by
        rw [List.length_append, String.length_toList]
        omega
      have hlt : position < position + (t.text.toList ++ u').length := by
        have hpos := ht.text_length_pos
        omega
      rw [List.append_assoc, lexFrom_token _ t _ (ht.insert hw), lexFrom_token _ t _ ht, hrest,
        movedLexemes_map_cons, hplace, Lexeme.moved, movedPast_of_lt hlt]
  | stray position c cs hstray =>
    intro u v heq hcut
    cases u with
    | nil =>
      rw [heq]
      exact lexFrom_insert_start hw position v
    | cons d u =>
      obtain ⟨rfl, rfl⟩ := List.cons.inj heq
      have hstarts := nothingStarts_insert hw (nothingStarts_of_stray hstray)
      have hlt : position < position + (c :: u).length := by
        rw [List.length_cons]
        omega
      rw [List.cons_append, lexFrom_of_nothingStarts hstarts, hstray, movedLexemes,
        movedPast_of_lt hlt]

/-! ### Texts with blanks put in -/

theorem all_blank_insert {u w v : List Char} (hw : w.all Text.isBlank = true) :
    (u ++ (w ++ v)).all Text.isBlank = (u ++ v).all Text.isBlank := by
  rw [List.all_append, List.all_append, List.all_append, hw, Bool.true_and]

theorem ofChars_insert {u w v : List Char} (hw : w.all Text.isBlank = true)
    (hcut : ∀ t, ¬ InsideToken t u v) :
    ofChars (u ++ (w ++ v)) =
      (ofChars (u ++ v)).mapError (SyntaxFault.moved (movedPast u.length w.length)) := by
  by_cases hblank : (u ++ v).all Text.isBlank = true
  · have hblank' : (u ++ (w ++ v)).all Text.isBlank = true := by rw [all_blank_insert hw, hblank]
    rw [ofChars, ofChars, if_pos hblank, if_pos hblank']
    rfl
  · have hblank' : ¬ (u ++ (w ++ v)).all Text.isBlank = true := by
      rw [all_blank_insert hw]
      exact hblank
    have hlex := lexFrom_insert hw 0 (u ++ v) u v rfl hcut
    rw [Nat.zero_add] at hlex
    have hlength : (u ++ (w ++ v)).length = movedPast u.length w.length (u ++ v).length := by
      rw [movedPast_of_le (by rw [List.length_append]; omega)]
      simp only [List.length_append]
      omega
    rw [ofChars, ofChars, if_neg hblank, if_neg hblank', lex, lex, hlex]
    cases lexFrom 0 (u ++ v) with
    | error stray => rfl
    | ok lexemes =>
      change ofLexemes _ (lexemes.map (Lexeme.moved _)) = (ofLexemes _ lexemes).mapError _
      rw [hlength]
      exact State.run_moved _ _ _ lexemes

/-- Two readings of a text: the same condition, or faults of the same kind, the second one at the
moved place of the first. -/
def SameUpToPlace (f : Nat → Nat) (a b : Except SyntaxFault Expression) : Prop :=
  (∃ e, a = .ok e ∧ b = .ok e) ∨
    ∃ fault, a = .error fault ∧ b = .error (fault.moved f) ∧
      (fault.moved f).position? = fault.position?.map f

theorem sameUpToPlace_of_mapError {f : Nat → Nat} {a b : Except SyntaxFault Expression}
    (h : b = a.mapError (SyntaxFault.moved f)) : SameUpToPlace f a b := by
  cases a with
  | ok e => exact .inl ⟨e, rfl, h⟩
  | error fault => exact .inr ⟨fault, rfl, h, fault.position?_moved f⟩

theorem SameUpToPlace.ok_iff {f : Nat → Nat} {a b : Except SyntaxFault Expression}
    (h : SameUpToPlace f a b) (e : Expression) : a = .ok e ↔ b = .ok e := by
  rcases h with ⟨e', rfl, rfl⟩ | ⟨fault, rfl, rfl, -⟩
  · exact Iff.rfl
  · simp

end Expression

theorem Text.exists_trim (cs : List Char) :
    ∃ lead trail, lead.all Text.isBlank = true ∧ trail.all Text.isBlank = true ∧
      cs = lead ++ (Text.trim cs ++ trail) := by
  refine ⟨cs.takeWhile Text.isBlank, ((Text.trimStart cs).reverse.takeWhile Text.isBlank).reverse,
    List.all_takeWhile, ?_, ?_⟩
  · rw [List.all_reverse]
    exact List.all_takeWhile
  · have hlead : cs.takeWhile Text.isBlank ++ Text.trimStart cs = cs :=
      List.takeWhile_append_dropWhile
    have htrail : Text.trim cs ++ ((Text.trimStart cs).reverse.takeWhile Text.isBlank).reverse =
        Text.trimStart cs := by
      rw [Text.trim, ← List.reverse_append, Text.trimStart, Text.trimStart,
        List.takeWhile_append_dropWhile, List.reverse_reverse]
    rw [htrail, hlead]

namespace Expression

/-- A text is read as it is without the blanks around it. -/
theorem parse_trimmed (text : String) :
    ∃ lead trail, lead + (Text.trimmed text).length + trail = text.length ∧
      SameUpToPlace (fun p => movedPast 0 lead (movedPast (Text.trimmed text).length trail p))
        (parse (Text.trimmed text)) (parse text) := by
  obtain ⟨lead, trail, hlead, htrail, htext⟩ := Text.exists_trim text.toList
  have hcore : (Text.trimmed text).toList = Text.trim text.toList := String.toList_ofList
  rw [← hcore] at htext
  have hlength := congrArg List.length htext
  simp only [List.length_append, String.length_toList] at hlength
  refine ⟨lead.length, trail.length, by omega, sameUpToPlace_of_mapError ?_⟩
  have hbefore := @ofChars_insert [] lead ((Text.trimmed text).toList ++ trail) hlead
    fun t => not_insideToken_start t _
  have hafter := @ofChars_insert (Text.trimmed text).toList trail [] htrail
    fun t => not_insideToken_end t _
  rw [List.append_nil, List.append_nil] at hafter
  rw [List.nil_append, List.nil_append, ← htext, hafter, String.length_toList, List.length_nil,
    mapError_moved_moved] at hbefore
  rw [parse, parse, hbefore]

/-- Blanks put into a text at a place that is neither between two characters of tags nor inside an
operator leave its condition as it is, or its fault, whose place moves with the text behind the
blanks. So a rule and a compound tag with the same text, which the rule reads without the blanks
around it, have the same condition or the same kind of fault, and one outcome on all tags. -/
theorem blanks_between_tokens :
    (∀ u w v : String, w.toList.all Text.isBlank = true → ¬ BetweenTagChars u.toList v.toList →
      ¬ InsideToken .and u.toList v.toList → ¬ InsideToken .or u.toList v.toList →
      SameUpToPlace (movedPast u.length w.length) (parse (u ++ v)) (parse (u ++ w ++ v))) ∧
    ∀ (r : Rule) (d : Tag.CompoundDefinition), r.tagCondition = some d.expression →
      (∃ lead trail, lead + r.condition.length + trail = d.expression.length ∧
        SameUpToPlace (fun p => movedPast 0 lead (movedPast r.condition.length trail p))
          (parse r.condition) (parse d.expression)) ∧
      ∀ tags, (∀ o, evaluate r.condition tags = .ok o ↔ evaluate d.expression tags = .ok o) ∧
        ((Compound.Result.ofDefinition tags d).matched = true ↔ IsTrueOn r.condition tags) := by
  constructor
  · intro u w v hw htags hand hor
    have hinsert := ofChars_insert hw (not_insideToken htags hand hor)
    rw [String.length_toList, String.length_toList] at hinsert
    refine sameUpToPlace_of_mapError ?_
    rw [parse, parse, String.toList_append, String.toList_append, String.toList_append,
      List.append_assoc]
    exact hinsert
  · intro r d hcondition
    have htrimmed : r.condition = Text.trimmed d.expression := by
      rw [Rule.condition, hcondition, Option.getD_some]
    obtain ⟨lead, trail, hlength, hsame⟩ := parse_trimmed d.expression
    rw [← htrimmed] at hlength hsame
    have hevaluate : ∀ tags o,
        evaluate r.condition tags = .ok o ↔ evaluate d.expression tags = .ok o := by
      intro tags o
      rw [evaluate, evaluate, map_eq_ok_iff, map_eq_ok_iff]
      simp only [hsame.ok_iff]
    refine ⟨⟨lead, trail, hlength, hsame⟩, fun tags => ⟨hevaluate tags, ?_⟩⟩
    unfold IsTrueOn
    simp only [hevaluate]
    rw [Compound.matched_ofDefinition, Compound.meaning]
    cases hparse : parse d.expression with
    | ok e => exact (isTrueOn_iff hparse tags).symm
    | error fault => simp [evaluate, hparse, Except.map]

/-- A place between two `&` that belong to no common token: the first is the end of an operator, at
the second the lexer stops. -/
theorem blanks_before_stray_character :
    ¬ BetweenTagChars "A &&".toList "&B".toList ∧
    ¬ InsideToken .and "A &&".toList "&B".toList ∧ ¬ InsideToken .or "A &&".toList "&B".toList ∧
    parse ("A &&" ++ "&B") = .error (.stray '&' 4) ∧
    parse ("A &&" ++ "\t\u3000" ++ "&B") = .error (.stray '&' 6) := by
  have htags : ¬ BetweenTagChars "A &&".toList "&B".toList := by
    rintro ⟨c, d, hlast, -, hc, -⟩
    obtain rfl : '&' = c := Option.some.inj hlast
    exact absurd hc (by decide)
  have hand : ¬ InsideToken .and "A &&".toList "&B".toList := by
    rintro ⟨before, after, tokens, hspell, -, heq, hstart, hend⟩
    -- The token would start at the second `&`, behind a single one.
    change before.length < 4 at hstart
    change 4 < before.length + 2 at hend
    have hthree : before.length = 3 := by omega
    have htake := congrArg (List.take 3) heq
    rw [← hthree, List.take_left, hthree] at htake
    obtain ⟨lexemes, hlex, -⟩ := (lex_ok_iff_spells before tokens).2 hspell
    have hstray : lex (("A &&".toList ++ "&B".toList).take 3) = .error ⟨'&', 2⟩ := rfl
    rw [← htake, hstray] at hlex
    exact absurd hlex (by simp)
  have hor : ¬ InsideToken .or "A &&".toList "&B".toList := by
    intro h
    obtain ⟨c, d, hlast, -, hc, -⟩ := h.between
    obtain rfl : '&' = c := Option.some.inj hlast
    exact absurd hc (by decide)
  have hfault : parse ("A &&" ++ "&B") = .error (.stray '&' 4) := rfl
  refine ⟨htags, hand, hor, hfault, ?_⟩
  rcases blanks_between_tokens.1 "A &&" "\t\u3000" "&B" (by decide) htags hand hor with
    ⟨e, hok, -⟩ | ⟨fault, hsame, hmoved, -⟩
  · rw [hfault] at hok
    exact absurd hok (by simp)
  · rw [hfault] at hsame
    obtain rfl := Except.error.inj hsame
    exact hmoved

end Expression

end TagAudit
