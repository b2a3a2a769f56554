import TagAudit.Proofs.Expression.Required

/-!
# Inspection and tokens (`depends_on_tags`, `depends_on`, `complexity`)

What is said of a condition without evaluating it is computed from its tree, where parentheses are
gone and a `!` is part of a reference or a negation of its own. It can be read off the tokens as
well: the parser drops no token, repeats none and keeps their order.
-/

namespace TagAudit.Expression

/-! ### Tokens -/

def Token.isTag : Token → Bool
  | .tag _ => true
  | _ => false

/-- The tags among tokens from left to right, each with whether the token right before it is a `!`.
The token before the first one is given. -/
def tagsAfter (before : Option Token) : List Token → List (String × Bool)
  | [] => []
  | .tag name :: rest => (name, before = some .not) :: tagsAfter (some (.tag name)) rest
  | t :: rest => tagsAfter (some t) rest

/-- The size of a condition by its tokens: parentheses count nothing. -/
def tokenWeight (w : List Token) : Nat :=
  w.countP Token.isTag + w.count .not + 2 * (w.count .and + w.count .or)

theorem tagsAfter_symbol (before : Option Token) {t : Token} (ht : t.isTag = false)
    (rest : List Token) : tagsAfter before (t :: rest) = tagsAfter (some t) rest := by
  cases t with
  | tag name => exact absurd ht (by simp [Token.isTag])
  | and | or | not | opening | closing => rfl

theorem tagsAfter_append_symbol (before : Option Token) (u : List Token) {t : Token}
    (ht : t.isTag = false) (rest : List Token) :
    tagsAfter before (u ++ t :: rest) = tagsAfter before u ++ tagsAfter (some t) rest := by
  induction u generalizing before with
  | nil => exact tagsAfter_symbol before ht rest
  | cons x u ih =>
    cases x with
    | tag name =>
      have hrest := ih (some (.tag name))
      rw [List.cons_append, tagsAfter, tagsAfter, hrest, List.cons_append]
    | and | or | not | opening | closing => exact ih _

theorem tokenWeight_append (u v : List Token) :
    tokenWeight (u ++ v) = tokenWeight u + tokenWeight v := by
  unfold tokenWeight
  rw [List.countP_append, List.count_append, List.count_append, List.count_append]
  omega

theorem tokenWeight_cons (t : Token) (w : List Token) :
    tokenWeight (t :: w) = tokenWeight [t] + tokenWeight w :=
  tokenWeight_append [t] w

/-! ### Derivations -/

/-- An operand that starts with a tag is that tag. -/
theorem Derives.eq_tag {name : String} {rest : List Token} {e : Expression}
    (h : Derives .negation (.tag name :: rest) e) : rest = [] ∧ e = .atom name false := by
  cases h with
  | primary h =>
    generalize hw : Token.tag name :: rest = w at h
    cases h with
    | tag name' =>
      obtain ⟨hname, hrest⟩ := List.cons.inj hw
      obtain rfl := Token.tag.inj hname
      exact ⟨hrest, rfl⟩
    | group _ => exact absurd hw (by simp)

/-- The `!` before an operand is that of a reference if the operand is a tag, and otherwise one that
negates the operand, which does not start with a tag. -/
theorem Derives.negation_cases {w : List Token} {e : Expression} (h : Derives .negation w e) :
    (∃ name, w = [.tag name] ∧ negationTree w e = .atom name true) ∨
    ((∀ name rest, w ≠ .tag name :: rest) ∧ negationTree w e = .not e) := by
  by_cases hw : ∃ name rest, w = .tag name :: rest
  · obtain ⟨name, rest, rfl⟩ := hw
    obtain ⟨rfl, rfl⟩ := h.eq_tag
    exact .inl ⟨name, rfl, rfl⟩
  · have hne : ∀ name rest, w ≠ .tag name :: rest := fun name rest heq => hw ⟨name, rest, heq⟩
    exact .inr ⟨hne, negationTree_of_ne_tag w e hne⟩

theorem tagsAfter_of_ne_tag {w : List Token} (hw : ∀ name rest, w ≠ .tag name :: rest)
    (before before' : Option Token) : tagsAfter before w = tagsAfter before' w := by
  cases w with
  | nil => rfl
  | cons t rest =>
    cases t with
    | tag name => exact absurd rfl (hw name rest)
    | and | or | not | opening | closing => rfl

theorem Derives.tagsAfter_eq {n : Nonterminal} {w : List Token} {e : Expression} (h : Derives n w e)
    (before : Option Token) (hbefore : before ≠ some .not) : tagsAfter before w = e.atoms := by
  induction h generalizing before with
  | conjunction _ ih | negation _ ih | primary _ ih => exact ih before hbefore
  | or _ _ ihl ihr =>
    have hl := ihl before hbefore
    have hr := ihr (some .or) (by simp)
    rw [tagsAfter_append_symbol before _ rfl, hl, hr, atoms]
  | and _ _ ihl ihr =>
    have hl := ihl before hbefore
    have hr := ihr (some .and) (by simp)
    rw [tagsAfter_append_symbol before _ rfl, hl, hr, atoms]
  | @not w e hoperand ih =>
    rw [tagsAfter_symbol before rfl]
    rcases hoperand.negation_cases with ⟨name, rfl, htree⟩ | ⟨hw, htree⟩
    · rw [htree]
      rfl
    · have hfree := tagsAfter_of_ne_tag hw (some .not) none
      have hinside := ih none (by simp)
      rw [htree, hfree, hinside, atoms]
  | tag name =>
    rw [tagsAfter, decide_eq_false hbefore]
    rfl
  | @group w e _ ih =>
    have hinside := ih (some .opening) (by simp)
    rw [List.cons_append, tagsAfter_symbol before rfl, tagsAfter_append_symbol _ w rfl, hinside]
    exact List.append_nil _

theorem Derives.tokenWeight_eq {n : Nonterminal} {w : List Token} {e : Expression}
    (h : Derives n w e) : tokenWeight w = e.complexity := by
  induction h with
  | conjunction _ ih | negation _ ih | primary _ ih => exact ih
  | or _ _ ihl ihr =>
    have hoperator : tokenWeight [.or] = 2 := rfl
    rw [tokenWeight_append, tokenWeight_cons, ihl, ihr, hoperator, complexity]
    omega
  | and _ _ ihl ihr =>
    have hoperator : tokenWeight [.and] = 2 := rfl
    rw [tokenWeight_append, tokenWeight_cons, ihl, ihr, hoperator, complexity]
    omega
  | @not w e hoperand ih =>
    rcases hoperand.negation_cases with ⟨name, rfl, htree⟩ | ⟨-, htree⟩
    · rw [htree]
      rfl
    · have hnot : tokenWeight [.not] = 1 := rfl
      rw [htree, tokenWeight_cons, ih, hnot, complexity]
  | tag name => rfl
  | group _ ih =>
    have hopening : tokenWeight [.opening] = 0 := rfl
    have hclosing : tokenWeight [.closing] = 0 := rfl
    rw [tokenWeight_append, tokenWeight_cons, ih, hopening, hclosing]
    omega

/-! ### References -/

theorem mentions_iff (tag : String) (e : Expression) :
    e.mentions tag = true ↔ ∃ negated, (tag, negated) ∈ e.atoms := by
  simp only [mentions, List.any_eq_true, decide_eq_true_eq]
  constructor
  · intro h
    obtain ⟨⟨name, negated⟩, hmem, hname⟩ := h
    exact ⟨negated, hname ▸ hmem⟩
  · intro h
    obtain ⟨negated, hmem⟩ := h
    exact ⟨(tag, negated), hmem, rfl⟩

theorem mem_references_iff (e : Expression) (s : String) :
    s ∈ e.references ↔ ∃ name, (name, false) ∈ e.atoms ∧ name = s ∨
      (name, true) ∈ e.atoms ∧ "!" ++ name = s := by
  rw [references, List.mem_eraseDups, List.mem_map]
  constructor
  · intro h
    obtain ⟨⟨name, negated⟩, hmem, rfl⟩ := h
    cases negated with
    | false => exact ⟨name, .inl ⟨hmem, rfl⟩⟩
    | true => exact ⟨name, .inr ⟨hmem, rfl⟩⟩
  · intro h
    obtain ⟨name, ⟨hmem, rfl⟩ | ⟨hmem, rfl⟩⟩ := h
    · exact ⟨(name, false), hmem, rfl⟩
    · exact ⟨(name, true), hmem, rfl⟩

/-- A text of tag characters has no `!` at its start. -/
theorem ne_not_append {s : String} (hs : ∀ c ∈ s.toList, isTagChar c = true) (t : String) :
    "!" ++ t ≠ s := by
  intro heq
  have hmem : '!' ∈ s.toList := by
    rw [← heq, String.toList_append]
    simp
  exact absurd (hs '!' hmem) (by decide)

theorem mentions_iff_references {e : Expression} (he : ∀ a ∈ e.atoms, IsTagName a.1) {t : String}
    (ht : ∀ c ∈ t.toList, isTagChar c = true) :
    e.mentions t = true ↔ t ∈ e.references ∨ "!" ++ t ∈ e.references := by
  rw [mentions_iff, mem_references_iff, mem_references_iff]
  constructor
  · intro h
    obtain ⟨negated, hmem⟩ := h
    cases negated with
    | false => exact .inl ⟨t, .inl ⟨hmem, rfl⟩⟩
    | true => exact .inr ⟨t, .inr ⟨hmem, rfl⟩⟩
  · intro h
    rcases h with ⟨name, ⟨hmem, rfl⟩ | ⟨-, heq⟩⟩ | ⟨name, ⟨hmem, heq⟩ | ⟨hmem, heq⟩⟩
    · exact ⟨false, hmem⟩
    · exact absurd heq (ne_not_append ht name)
    · -- No reference of a condition has a `!` in its name.
      exact absurd heq.symm (ne_not_append (he _ hmem).2 t)
    · obtain rfl : name = t := by
        have hlist := congrArg String.toList heq
        rw [String.toList_append, String.toList_append] at hlist
        exact String.toList_inj.1 (List.append_cancel_left hlist)
      exact ⟨true, hmem⟩

/-- The size of a condition, the list of its references and the tags that it mentions, by the tokens
of its text. The size counts the tags, the `!` and twice the binary operators. The references are the
tags in the order of their first occurrences, with a `!` exactly if the token before is one. -/
theorem inspection_of_tokens {text : String} {e : Expression} (h : parse text = .ok e) :
    ∃ lexemes, lex text.toList = .ok lexemes ∧
      let tokens := lexemes.map Lexeme.token
      let written := (tagsAfter none tokens).map referenceText
      e.complexity = tokens.countP Token.isTag + tokens.count .not +
        2 * (tokens.count .and + tokens.count .or) ∧
      e.references = written.eraseDups ∧
      (e.references.Pairwise fun s t => written.idxOf s < written.idxOf t) ∧
      ∀ t : String, (∀ c ∈ t.toList, isTagChar c = true) →
        (e.mentions t = true ↔ t ∈ e.references ∨ "!" ++ t ∈ e.references) := by
  obtain ⟨tokens, hspell, hderive⟩ := (parse_ok_iff text e).1 h
  obtain ⟨lexemes, hlex, rfl⟩ := (lex_ok_iff_spells _ _).2 hspell
  have hatoms : tagsAfter none (lexemes.map Lexeme.token) = e.atoms :=
    hderive.tagsAfter_eq none (by simp)
  refine ⟨lexemes, hlex, hderive.tokenWeight_eq.symm, ?_, ?_, ?_⟩
  · rw [hatoms, references]
  · rw [hatoms, references]
    exact pairwise_idxOf_eraseDups _
  · intro t ht
    exact mentions_iff_references (fun a ha => isTagName_of_atom h ha) ht

/-- Stacked `!`, a negated group and repeated references. -/
theorem inspection_of_nested_negations :
    ∃ e, parse "A || !(B && !C) && !!A || (A)" = .ok e ∧
      e.complexity = 5 + 4 + 2 * (2 + 2) ∧ e.references = ["A", "B", "!C", "!A"] ∧
      (e.mentions "C" = true ↔ "C" ∈ e.references ∨ "!" ++ "C" ∈ e.references) := by
  have hparse : parse "A || !(B && !C) && !!A || (A)" = .ok _ := rfl
  obtain ⟨lexemes, hlex, hsize, hreferences, -, hmentions⟩ := inspection_of_tokens hparse
  obtain rfl := Except.ok.inj hlex
  refine ⟨_, hparse, hsize, hreferences.trans (by decide), hmentions "C" ?_⟩
  intro c hc
  obtain rfl : c = 'C' := by simpa using hc
  decide

end TagAudit.Expression
