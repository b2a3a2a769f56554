import TagAudit.Proofs.Expression.Grammar
import TagAudit.Proofs.Expression.Spelling

/-!
# The parser and the grammar (`parse_expression`)

The parser accepts exactly the sentences of the grammar and builds their trees. One way, what has
been read so far is described by the state: each open group is a pending part of a derivation
(`State.Reads`), and every step keeps this. The other way, a derivation drives the parser from an
operand that is due to the end of what it derives (`Derives.drives`).
-/

namespace TagAudit.Expression

/-! ### The parser without places -/

namespace State

/-- The state after one more token, unless the token is refused. -/
def next? (s : State) (t : Token) : Option State :=
  (s.step ⟨t, 0⟩).toOption

/-- Where a token stands decides only where a fault is reported. -/
theorem step_ok_iff (s s' : State) (l : Lexeme) : s.step l = .ok s' ↔ s.next? l.token = some s' := by
  obtain ⟨t, p⟩ := l
  cases s with
  | operand level outer => cases t <;> simp [step, next?, Except.toOption]
  | operator e level outer => cases t <;> cases outer <;> simp [step, next?, Except.toOption]

/-- All the steps of the parser. -/
theorem next?_cases {s s' : State} {t : Token} (h : s.next? t = some s') :
    (∃ level outer name, s = .operand level outer ∧ t = .tag name ∧
      s' = .operator (negateTag level.negations name) level outer) ∨
    (∃ level outer, s = .operand level outer ∧ t = .not ∧
      s' = .operand { level with negations := level.negations + 1 } outer) ∨
    (∃ level outer, s = .operand level outer ∧ t = .opening ∧
      s' = .operand .empty (level :: outer)) ∨
    (∃ e level outer, s = .operator e level outer ∧ t = .and ∧
      s' = .operand (level.afterAnd e) outer) ∨
    (∃ e level outer, s = .operator e level outer ∧ t = .or ∧
      s' = .operand (level.afterOr e) outer) ∨
    (∃ e level next outer, s = .operator e level (next :: outer) ∧ t = .closing ∧
      s' = .operator (negate next.negations (level.close e)) next outer) := by
  cases s with
  | operand level outer =>
    cases t with
    | tag name => exact .inl ⟨level, outer, name, rfl, rfl, (Option.some.inj h).symm⟩
    | not => exact .inr (.inl ⟨level, outer, rfl, rfl, (Option.some.inj h).symm⟩)
    | opening => exact .inr (.inr (.inl ⟨level, outer, rfl, rfl, (Option.some.inj h).symm⟩))
    | and | or | closing => exact absurd h (by simp [next?, step, Except.toOption])
  | operator e level outer =>
    cases t with
    | and =>
      exact .inr (.inr (.inr (.inl ⟨e, level, outer, rfl, rfl, (Option.some.inj h).symm⟩)))
    | or =>
      exact .inr (.inr (.inr (.inr (.inl ⟨e, level, outer, rfl, rfl, (Option.some.inj h).symm⟩))))
    | closing =>
      cases outer with
      | nil => exact absurd h (by simp [next?, step, Except.toOption])
      | cons next outer =>
        exact .inr (.inr (.inr (.inr (.inr
          ⟨e, level, next, outer, rfl, rfl, (Option.some.inj h).symm⟩))))
    | tag name | not | opening =>
      cases outer with
      | nil => exact absurd h (by simp [next?, step, Except.toOption])
      | cons next outer => exact absurd h (by simp [next?, step, Except.toOption])

/-- The state after several tokens, unless one is refused. -/
def advance? (s : State) : List Token → Option State
  | [] => some s
  | t :: ts => (s.next? t).bind (·.advance? ts)

theorem advance?_append (s : State) (u v : List Token) :
    s.advance? (u ++ v) = (s.advance? u).bind (·.advance? v) := by
  induction u generalizing s with
  | nil => rfl
  | cons t u ih =>
    simp only [List.cons_append, advance?, Option.bind_assoc]
    congr 1
    funext s'
    exact ih s'

theorem finish_ok_iff (length : Nat) (s : State) (e : Expression) :
    s.finish length = .ok e ↔ ∃ last level, s = .operator last level [] ∧ level.close last = e := by
  fun_cases finish length s with
  | case1 level outer => simp
  | case2 last level =>
    constructor
    · intro h
      exact ⟨last, level, rfl, Except.ok.inj h⟩
    · rintro ⟨last', level', hs, rfl⟩
      injection hs with hlast hlevel
      rw [hlast, hlevel]
  | case3 last level next outer => simp

theorem run_ok_iff (length : Nat) (s : State) (lexemes : List Lexeme) (e : Expression) :
    s.run length lexemes = .ok e ↔
      ∃ s', s.advance? (lexemes.map Lexeme.token) = some s' ∧ s'.finish length = .ok e := by
  induction lexemes generalizing s with
  | nil => simp [run, advance?]
  | cons l rest ih =>
    simp only [run, List.map_cons, advance?]
    cases hstep : s.step l with
    | error fault =>
      have hnext : s.next? l.token = none := by
        cases hn : s.next? l.token with
        | none => rfl
        | some s' =>
          rw [← step_ok_iff, hstep] at hn
          exact absurd hn (by simp)
      simp [hnext, bind, Except.bind]
    | ok s' =>
      have hnext := (step_ok_iff s s' l).1 hstep
      simp only [hnext, bind, Except.bind, Option.bind_some]
      exact ih s'

end State

/-! ### What a state has read -/

/-- The tokens of a left side with the operator after it; none when no left side waits. -/
def SideReads (n : Nonterminal) (operator : Token) : Option Expression → List Token → Prop
  | none, w => w = []
  | some l, w => ∃ u, w = u ++ [operator] ∧ Derives n u l

namespace Level

/-- The tokens of a group before the operand that is due and its negations. -/
def Reads (level : Level) (w : List Token) : Prop :=
  ∃ u v, w = u ++ v ∧ SideReads .disjunction .or level.disjunct u ∧
    SideReads .conjunction .and level.conjunct v

theorem empty_reads : empty.Reads [] :=
  ⟨[], [], rfl, rfl, rfl⟩

theorem joinAnd_derives (level : Level) (v x : List Token) (e : Expression)
    (hv : SideReads .conjunction .and level.conjunct v) (hx : Derives .negation x e) :
    Derives .conjunction (v ++ x) (level.joinAnd e) := by
  fun_cases joinAnd level e with
  | case1 hc =>
    rw [hc] at hv
    rw [show v = [] from hv]
    exact .negation hx
  | case2 l hc =>
    rw [hc] at hv
    obtain ⟨u, rfl, hu⟩ := hv
    rw [List.append_assoc]
    exact .and hu hx

theorem close_derives (level : Level) (w x : List Token) (e : Expression) (hw : level.Reads w)
    (hx : Derives .negation x e) : Derives .disjunction (w ++ x) (level.close e) := by
  obtain ⟨u, v, rfl, hu, hv⟩ := hw
  have hright := joinAnd_derives level v x e hv hx
  fun_cases close level e with
  | case1 hd =>
    rw [hd] at hu
    rw [show u = [] from hu]
    exact .conjunction hright
  | case2 l hd =>
    rw [hd] at hu
    obtain ⟨t, rfl, ht⟩ := hu
    rw [List.append_assoc, List.append_assoc]
    exact .or ht hright

theorem afterAnd_reads (level : Level) (w x : List Token) (e : Expression) (hw : level.Reads w)
    (hx : Derives .negation x e) : (level.afterAnd e).Reads (w ++ x ++ [.and]) := by
  obtain ⟨u, v, rfl, hu, hv⟩ := hw
  refine ⟨u, v ++ x ++ [.and], by simp only [List.append_assoc], hu, v ++ x, rfl, ?_⟩
  exact joinAnd_derives level v x e hv hx

theorem afterOr_reads (level : Level) (w x : List Token) (e : Expression) (hw : level.Reads w)
    (hx : Derives .negation x e) : (level.afterOr e).Reads (w ++ x ++ [.or]) :=
  ⟨w ++ x ++ [.or], [], (List.append_nil _).symm, ⟨w ++ x, rfl, close_derives level w x e hw hx⟩,
    rfl⟩

end Level

namespace State

/-- The tokens of the groups that are open around the innermost one. -/
def OuterReads : List Level → List Token → Prop
  | [], w => w = []
  | level :: outer, w => ∃ u v, w = u ++ v ++ List.replicate level.negations .not ++ [.opening] ∧
      OuterReads outer u ∧ level.Reads v

/-- The tokens that a state has read. -/
def Reads : State → List Token → Prop
  | .operand level outer, w => ∃ u v, w = u ++ v ++ List.replicate level.negations .not ∧
      OuterReads outer u ∧ level.Reads v
  | .operator e level outer, w => ∃ u v x, w = u ++ v ++ x ∧
      OuterReads outer u ∧ level.Reads v ∧ Derives .negation x e

theorem start_reads : start.Reads [] :=
  ⟨[], [], rfl, rfl, Level.empty_reads⟩

/-- A closing parenthesis makes the group an operand of the group around it. -/
theorem closing_reads (e : Expression) (level next : Level) (outer : List Level) (w : List Token)
    (hw : (operator e level (next :: outer)).Reads w) :
    (operator (negate next.negations (level.close e)) next outer).Reads (w ++ [.closing]) := by
  obtain ⟨u, v, x, rfl, ⟨u', v', rfl, houter, hnext⟩, hlevel, hx⟩ := hw
  have hgroup : Derives .primary (.opening :: (v ++ x) ++ [.closing]) (level.close e) :=
    .group (level.close_derives v x e hlevel hx)
  refine ⟨u', v', List.replicate next.negations .not ++ (.opening :: (v ++ x) ++ [.closing]), ?_,
    houter, hnext, derives_negate next.negations _ _ (.primary hgroup) (by simp)⟩
  simp only [List.append_assoc, List.cons_append, List.nil_append]

/-- Each step adds its token to what has been read. -/
theorem next?_reads {s s' : State} {t : Token} {w : List Token} (hw : s.Reads w)
    (h : s.next? t = some s') : s'.Reads (w ++ [t]) := by
  rcases next?_cases h with ⟨level, outer, name, rfl, rfl, rfl⟩ | ⟨level, outer, rfl, rfl, rfl⟩ |
    ⟨level, outer, rfl, rfl, rfl⟩ | ⟨e, level, outer, rfl, rfl, rfl⟩ |
    ⟨e, level, outer, rfl, rfl, rfl⟩ | ⟨e, level, next, outer, rfl, rfl, rfl⟩
  · -- A tag is an operand together with the negations that wait for it.
    obtain ⟨u, v, rfl, houter, hlevel⟩ := hw
    refine ⟨u, v, List.replicate level.negations .not ++ [.tag name], ?_, houter, hlevel,
      derives_negateTag level.negations name⟩
    simp only [List.append_assoc]
  · obtain ⟨u, v, rfl, houter, hlevel⟩ := hw
    refine ⟨u, v, ?_, houter, hlevel⟩
    simp only [List.append_assoc, List.replicate_succ']
  · -- All that has been read is now outside the new group.
    obtain ⟨u, v, rfl, houter, hlevel⟩ := hw
    exact ⟨u ++ v ++ List.replicate level.negations .not ++ [.opening], [], by simp [Level.empty],
      ⟨u, v, rfl, houter, hlevel⟩, Level.empty_reads⟩
  · obtain ⟨u, v, x, rfl, houter, hlevel, hx⟩ := hw
    refine ⟨u, v ++ x ++ [.and], ?_, houter, level.afterAnd_reads v x e hlevel hx⟩
    simp [Level.afterAnd]
  · obtain ⟨u, v, x, rfl, houter, hlevel, hx⟩ := hw
    refine ⟨u, v ++ x ++ [.or], ?_, houter, level.afterOr_reads v x e hlevel hx⟩
    simp [Level.afterOr]
  · exact closing_reads e level next outer w hw

theorem advance?_reads {s s' : State} {w ts : List Token} (hw : s.Reads w)
    (h : s.advance? ts = some s') : s'.Reads (w ++ ts) := by
  induction ts generalizing s w with
  | nil =>
    rw [List.append_nil, ← Option.some.inj h]
    exact hw
  | cons t ts ih =>
    obtain ⟨mid, hnext, hrest⟩ := Option.bind_eq_some_iff.1 h
    have hmid := ih (next?_reads hw hnext) hrest
    rwa [List.append_assoc] at hmid

theorem derives_of_advance? {w : List Token} {last : Expression} {level : Level}
    (h : start.advance? w = some (.operator last level [])) :
    Derives .disjunction w (level.close last) := by
  have hreads := advance?_reads start_reads h
  rw [List.nil_append] at hreads
  obtain ⟨u, v, x, rfl, houter, hlevel, hx⟩ := hreads
  rw [show u = [] from houter]
  exact level.close_derives v x last hlevel hx

end State

/-! ### What a derivation does to the parser -/

/-- The tree of an operand with `n` more negations before its tokens. -/
def negatedOperand (n : Nat) : List Token → Expression → Expression
  | .tag name :: _, _ => negateTag n name
  | _, e => negate n e

theorem negatedOperand_of_ne_tag (n : Nat) (w : List Token) (e : Expression)
    (hw : ∀ name rest, w ≠ .tag name :: rest) : negatedOperand n w e = negate n e := by
  fun_cases negatedOperand n w e with
  | case1 name rest => exact absurd rfl (hw name rest)
  | case2 => rfl

theorem negate_not (n : Nat) (e : Expression) : negate n (.not e) = negate (n + 1) e := by
  induction n with
  | zero => rfl
  | succ n ih =>
    show Expression.not (negate n (.not e)) = .not (negate (n + 1) e)
    rw [ih]

theorem negatedOperand_not (n : Nat) (w : List Token) (e : Expression) :
    negatedOperand n (.not :: w) (negationTree w e) = negatedOperand (n + 1) w e := by
  show negate n (negationTree w e) = _
  fun_cases negationTree w e with
  | case1 name rest => rfl
  | case2 =>
    rename_i hw
    rw [negate_not, negatedOperand_of_ne_tag (n + 1) w e hw]

/-- What the tokens of a nonterminal do to the parser where they may stand: from the operand that is
due they lead to the end of the part that they derive. -/
def Drives : Nonterminal → List Token → Expression → Prop
  | .disjunction, w, e => ∀ outer, ∃ last level,
      (State.operand .empty outer).advance? w = some (.operator last level outer) ∧
      level.close last = e
  | .conjunction, w, e => ∀ disjunct outer, ∃ last level,
      (State.operand ⟨disjunct, none, 0⟩ outer).advance? w = some (.operator last level outer) ∧
      level.disjunct = disjunct ∧ level.joinAnd last = e
  | .negation, w, e | .primary, w, e =>
      (∀ name rest, w = .tag name :: rest → e = .atom name false) ∧
      ∀ level outer, ∃ n, (State.operand level outer).advance? w =
        some (.operator (negatedOperand level.negations w e) { level with negations := n } outer)

theorem negatedOperand_zero (w : List Token) (e : Expression)
    (htag : ∀ name rest, w = .tag name :: rest → e = .atom name false) :
    negatedOperand 0 w e = e := by
  fun_cases negatedOperand 0 w e with
  | case1 name rest => exact (htag name rest rfl).symm
  | case2 => rfl

theorem Derives.drives {n : Nonterminal} {w : List Token} {e : Expression} (h : Derives n w e) :
    Drives n w e := by
  induction h with
  | conjunction _ ih =>
    intro outer
    obtain ⟨last, level, hadv, hd, hjoin⟩ := ih none outer
    refine ⟨last, level, hadv, ?_⟩
    simp only [Level.close, hd, hjoin]
  | @or u v l r _ _ ihl ihr =>
    intro outer
    obtain ⟨left, level, hleft, hclose⟩ := ihl outer
    obtain ⟨last, level', hright, hd, hjoin⟩ := ihr (some l) outer
    -- `||` closes the left side into the level, where the right side finds it.
    have hstep : (State.operator left level outer).advance? (.or :: v) =
        some (.operator last level' outer) := by
      rw [← hright, ← hclose]
      rfl
    refine ⟨last, level', ?_, ?_⟩
    · rw [State.advance?_append, hleft]
      exact hstep
    · simp only [Level.close, hd, hjoin]
  | negation _ ih =>
    intro disjunct outer
    obtain ⟨n, hadv⟩ := ih.2 ⟨disjunct, none, 0⟩ outer
    exact ⟨_, _, hadv, rfl, negatedOperand_zero _ _ ih.1⟩
  | @and u v l r _ _ ihl ihr =>
    intro disjunct outer
    obtain ⟨left, level, hleft, hd, hjoin⟩ := ihl disjunct outer
    obtain ⟨n, hright⟩ := ihr.2 ⟨disjunct, some l, 0⟩ outer
    have hstep : (State.operator left level outer).advance? (.and :: v) =
        some (.operator (negatedOperand 0 v r) ⟨disjunct, some l, n⟩ outer) := by
      rw [← hright, ← hjoin, ← hd]
      rfl
    refine ⟨negatedOperand 0 v r, ⟨disjunct, some l, n⟩, ?_, rfl, ?_⟩
    · rw [State.advance?_append, hleft]
      exact hstep
    · rw [negatedOperand_zero v r ihr.1]
      rfl
  | @not w e _ ih =>
    -- The parser counts a `!` and decides at the operand what the count means.
    refine ⟨by simp, fun level outer => ?_⟩
    obtain ⟨n, hadv⟩ := ih.2 { level with negations := level.negations + 1 } outer
    refine ⟨n, ?_⟩
    rw [negatedOperand_not]
    exact hadv
  | primary _ ih => exact ih
  | tag name =>
    refine ⟨?_, fun level outer => ⟨level.negations, rfl⟩⟩
    rintro name' rest h
    injection h with h _
    injection h with h
    rw [h]
  | @group w e _ ih =>
    refine ⟨by simp, fun level outer => ⟨level.negations, ?_⟩⟩
    obtain ⟨last, inner, hadv, hclose⟩ := ih (level :: outer)
    have hopen : (State.operand level outer).advance? (.opening :: w ++ [.closing]) =
        ((State.operand .empty (level :: outer)).advance? w).bind (·.advance? [.closing]) := by
      rw [← State.advance?_append]
      rfl
    rw [hopen, hadv, ← hclose]
    rfl

/-- A sentence of the grammar has one tree. -/
theorem Derives.unique {w : List Token} {e e' : Expression} (h : Derives .disjunction w e)
    (h' : Derives .disjunction w e') : e = e' := by
  obtain ⟨last, level, hadv, rfl⟩ := h.drives []
  obtain ⟨last', level', hadv', rfl⟩ := h'.drives []
  rw [hadv] at hadv'
  injection hadv' with hs
  injection hs with hlast hlevel
  rw [hlast, hlevel]

/-! ### The parser and the grammar -/

theorem ofLexemes_ok_iff (length : Nat) (lexemes : List Lexeme) (e : Expression) :
    ofLexemes length lexemes = .ok e ↔ Derives .disjunction (lexemes.map Lexeme.token) e := by
  rw [ofLexemes, State.run_ok_iff]
  constructor
  · rintro ⟨s, hadv, hfinish⟩
    obtain ⟨last, level, rfl, rfl⟩ := (State.finish_ok_iff length s e).1 hfinish
    exact State.derives_of_advance? hadv
  · intro h
    obtain ⟨last, level, hadv, hclose⟩ := h.drives []
    exact ⟨_, hadv, (State.finish_ok_iff length _ e).2 ⟨last, level, rfl, hclose⟩⟩

theorem spells_of_blank (cs : List Char) (h : cs.all Text.isBlank = true) : Spells cs [] := by
  induction cs with
  | nil => exact .nil
  | cons c cs ih =>
    rw [List.all_cons, Bool.and_eq_true] at h
    exact .blank h.1 (ih h.2)

theorem ofChars_ok_iff (cs : List Char) (e : Expression) :
    ofChars cs = .ok e ↔ ∃ tokens, Spells cs tokens ∧ Derives .disjunction tokens e := by
  by_cases hblank : cs.all Text.isBlank = true
  · -- Blanks spell no token, and no condition is without tokens.
    rw [ofChars, if_pos hblank]
    constructor
    · intro h
      exact absurd h (by simp)
    · rintro ⟨tokens, hspell, hderive⟩
      exact absurd (hspell.unique (spells_of_blank cs hblank)) hderive.ne_nil
  · rw [ofChars, if_neg hblank]
    cases hlex : lex cs with
    | error stray =>
      constructor
      · intro h
        exact absurd h (by simp)
      · rintro ⟨tokens, hspell, -⟩
        obtain ⟨lexemes, hl, -⟩ := (lex_ok_iff_spells cs tokens).2 hspell
        rw [hlex] at hl
        exact absurd hl (by simp)
    | ok lexemes =>
      have hspell := (lex_ok_iff_spells cs _).1 ⟨lexemes, hlex, rfl⟩
      simp only [ofLexemes_ok_iff]
      constructor
      · intro h
        exact ⟨_, hspell, h⟩
      · rintro ⟨tokens, hspell', hderive⟩
        rwa [hspell'.unique hspell] at hderive

theorem parse_ok_iff (text : String) (e : Expression) :
    parse text = .ok e ↔ ∃ tokens, Spells text.toList tokens ∧ Derives .disjunction tokens e :=
  ofChars_ok_iff text.toList e

/-! ### Names in a condition -/

theorem Spells.isTagName {cs : List Char} {ts : List Token} (h : Spells cs ts) {name : String}
    (hname : .tag name ∈ ts) : IsTagName name := by
  induction h with
  | nil => exact absurd hname (by simp)
  | blank _ _ ih => exact ih hname
  | @token t cs ts ht _ ih =>
    rcases List.mem_cons.1 hname with heq | hmem
    · subst heq
      exact ht.1
    · exact ih hmem

/-- Every reference of a tree is a tag of the tokens that derive it. -/
theorem Derives.tag_of_atom {n : Nonterminal} {w : List Token} {e : Expression} (h : Derives n w e)
    {a : String × Bool} (ha : a ∈ e.atoms) : .tag a.1 ∈ w := by
  induction h with
  | conjunction _ ih | negation _ ih | primary _ ih => exact ih ha
  | or _ _ ihl ihr | and _ _ ihl ihr =>
    rcases List.mem_append.1 ha with hl | hr
    · exact List.mem_append_left _ (ihl hl)
    · exact List.mem_append_right _ (List.mem_cons_of_mem _ (ihr hr))
  | @not w e _ ih =>
    -- The reference of a `!` before a tag is that tag, whatever the tree of the operand.
    by_cases hw : ∃ name rest, w = .tag name :: rest
    · obtain ⟨name, rest, rfl⟩ := hw
      obtain rfl : a = (name, true) := by simpa [negationTree, atoms] using ha
      simp
    · have hne : ∀ name rest, w ≠ .tag name :: rest := fun name rest heq => hw ⟨name, rest, heq⟩
      rw [negationTree_of_ne_tag w e hne] at ha
      exact List.mem_cons_of_mem _ (ih ha)
  | tag name =>
    obtain rfl : a = (name, false) := by simpa [atoms] using ha
    simp
  | group _ ih => exact List.mem_append_left _ (List.mem_cons_of_mem _ (ih ha))

/-- A condition refers to nothing but names that a tag token can have. -/
theorem isTagName_of_atom {text : String} {e : Expression} (h : parse text = .ok e)
    {a : String × Bool} (ha : a ∈ e.atoms) : IsTagName a.1 := by
  obtain ⟨tokens, hspell, hderive⟩ := (parse_ok_iff text e).1 h
  exact hspell.isTagName (hderive.tag_of_atom ha)

/-! ### Places of faults -/

namespace State

theorem step_error_position (s : State) (l : Lexeme) (fault : SyntaxFault)
    (h : s.step l = .error fault) : fault.position? = some l.position := by
  obtain ⟨t, p⟩ := l
  cases s with
  | operand level outer =>
    cases t <;> simp [step] at h <;> subst h <;> rfl
  | operator e level outer =>
    cases t <;> cases outer <;> simp [step] at h <;> subst h <;> rfl

theorem finish_error_position (length : Nat) (s : State) (fault : SyntaxFault)
    (h : s.finish length = .error fault) : fault.position? = some length := by
  fun_cases finish length s with
  | case1 level outer => cases h; rfl
  | case2 last level => cases h
  | case3 last level next outer => cases h; rfl

theorem run_error_position (length : Nat) (s : State) (lexemes : List Lexeme) (fault : SyntaxFault)
    (h : s.run length lexemes = .error fault) :
    fault.position? = some length ∨ ∃ l ∈ lexemes, fault.position? = some l.position := by
  induction lexemes generalizing s with
  | nil => exact .inl (finish_error_position length s fault h)
  | cons l rest ih =>
    cases hstep : s.step l with
    | error fault' =>
      simp only [run, hstep, bind, Except.bind, Except.error.injEq] at h
      subst h
      exact .inr ⟨l, List.mem_cons_self, step_error_position s l fault' hstep⟩
    | ok s' =>
      simp only [run, hstep, bind, Except.bind] at h
      rcases ih s' h with hend | ⟨l', hl', hpos⟩
      · exact .inl hend
      · exact .inr ⟨l', List.mem_cons_of_mem l hl', hpos⟩

end State

/-- A fault has its place in the text or at its end. -/
theorem ofChars_error_position (cs : List Char) (fault : SyntaxFault)
    (h : ofChars cs = .error fault) : ∀ p ∈ fault.position?, p ≤ cs.length := by
  intro p hp
  rw [Option.mem_def] at hp
  by_cases hblank : cs.all Text.isBlank = true
  · rw [ofChars, if_pos hblank] at h
    injection h with h
    rw [← h] at hp
    exact absurd hp (by simp [SyntaxFault.position?])
  · rw [ofChars, if_neg hblank] at h
    cases hlex : lex cs with
    | error stray =>
      have hb := lexFrom_stray_bounds 0 cs stray hlex
      simp only [hlex, Except.error.injEq] at h
      rw [← h, SyntaxFault.position?, Option.some.injEq] at hp
      omega
    | ok lexemes =>
      simp only [hlex, ofLexemes] at h
      rcases State.run_error_position cs.length State.start lexemes fault h with hend | ⟨l, hl, hpos⟩
      · rw [hend, Option.some.injEq] at hp
        omega
      · have hb := lexFrom_bounds 0 cs lexemes hlex l hl
        rw [hpos, Option.some.injEq] at hp
        omega

/-- The parser accepts exactly the texts that spell a sentence of the grammar and gives the tree of
the sentence. Every other text has a fault, in the text or at its end. A text spells at most one
list of tokens, and such a list has at most one tree. -/
theorem parse_iff_grammar (text : String) :
    (∀ e, parse text = .ok e ↔
      ∃ tokens, Spells text.toList tokens ∧ Derives .disjunction tokens e) ∧
    ((∃ fault, parse text = .error fault ∧ ∀ p ∈ fault.position?, p ≤ text.length) ↔
      ¬ ∃ e tokens, Spells text.toList tokens ∧ Derives .disjunction tokens e) ∧
    (∀ tokens tokens', Spells text.toList tokens → Spells text.toList tokens' →
      tokens = tokens') ∧
    ∀ tokens e e', Derives .disjunction tokens e → Derives .disjunction tokens e' → e = e' := by
  refine ⟨parse_ok_iff text, ?_, fun _ _ h h' => h.unique h', fun _ _ _ h h' => h.unique h'⟩
  constructor
  · rintro ⟨fault, hfault, -⟩ ⟨e, htree⟩
    rw [(parse_ok_iff text e).2 htree] at hfault
    exact absurd hfault (by simp)
  · intro hnone
    cases hparse : parse text with
    | ok e => exact absurd ⟨e, (parse_ok_iff text e).1 hparse⟩ hnone
    | error fault =>
      refine ⟨fault, rfl, ?_⟩
      rw [← String.length_toList]
      exact ofChars_error_position text.toList fault hparse

end TagAudit.Expression
