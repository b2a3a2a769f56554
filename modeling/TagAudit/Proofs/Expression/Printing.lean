import TagAudit.Proofs.Expression.Evaluation

/-!
# Printing

A condition is printed with parentheses only where the grammar needs them to give the same tree
back. The printed tokens derive the condition from the nonterminal of its outermost operator, so the
parser undoes the printing, however the tokens are spaced.
-/

namespace TagAudit.Expression

/-! ### Printed tokens -/

def isDisjunction : Expression → Bool
  | .or _ _ => true
  | _ => false

def isConjunction : Expression → Bool
  | .and _ _ => true
  | _ => false

/-- Whether the operand of a `!` has to be a group: a tag would take the `!` as its own. -/
def groupedUnderNot : Expression → Bool
  | .atom _ negated => !negated
  | .not _ => false
  | .and _ _ => true
  | .or _ _ => true

def parenthesized (needed : Bool) (w : List Token) : List Token :=
  if needed then .opening :: w ++ [.closing] else w

/-- The tokens of a condition, with parentheses around a disjunction in a conjunction, a conjunction
on the right of a conjunction, a disjunction on the right of a disjunction, and an operand of `!`
that is neither a negation nor a negated tag. -/
def printed : Expression → List Token
  | .atom name false => [.tag name]
  | .atom name true => [.not, .tag name]
  | .not e => .not :: parenthesized e.groupedUnderNot e.printed
  | .and l r => parenthesized l.isDisjunction l.printed ++
      .and :: parenthesized (r.isDisjunction || r.isConjunction) r.printed
  | .or l r => l.printed ++ .or :: parenthesized r.isDisjunction r.printed

/-- The text of a token in a line: a binary operator has a blank on each side. -/
def Token.spaced : Token → List Char
  | .and => " && ".toList
  | .or => " || ".toList
  | t => t.text.toList

def spacedText (w : List Token) : List Char :=
  w.flatMap Token.spaced

def written (e : Expression) : String :=
  String.ofList (spacedText e.printed)

/-! ### The grammar of what is printed -/

def nonterminal : Expression → Nonterminal
  | .atom _ _ => .negation
  | .not _ => .negation
  | .and _ _ => .conjunction
  | .or _ _ => .disjunction

theorem Derives.whole {w : List Token} {e : Expression} (h : Derives e.nonterminal w e) :
    Derives .disjunction w e := by
  cases e with
  | atom name negated => exact .conjunction (.negation h)
  | not e => exact .conjunction (.negation h)
  | and l r => exact .conjunction h
  | or l r => exact h

/-- A conjunction may stand as it is on the left of `&&` and on either side of `||`. -/
theorem Derives.parenthesized_conjunction {w : List Token} {e : Expression}
    (h : Derives e.nonterminal w e) : Derives .conjunction (parenthesized e.isDisjunction w) e := by
  have hgroup : Derives .negation (.opening :: w ++ [.closing]) e := h.whole.of_group
  cases e with
  | atom name negated => exact .negation h
  | not e => exact .negation h
  | and l r => exact h
  | or l r => exact .negation hgroup

theorem Derives.parenthesized_negation {w : List Token} {e : Expression}
    (h : Derives e.nonterminal w e) :
    Derives .negation (parenthesized (e.isDisjunction || e.isConjunction) w) e := by
  have hgroup : Derives .negation (.opening :: w ++ [.closing]) e := h.whole.of_group
  cases e with
  | atom name negated => exact h
  | not e => exact h
  | and l r => exact hgroup
  | or l r => exact hgroup

/-- The operand of a `!` that is not its own tag never starts with a tag. -/
theorem derives_not_printed {e : Expression} (h : Derives e.nonterminal e.printed e) :
    Derives .negation (.not :: parenthesized e.groupedUnderNot e.printed) e.not := by
  have hgroup : Derives .negation (.opening :: e.printed ++ [.closing]) e := h.whole.of_group
  have hoperand : Derives .negation (parenthesized e.groupedUnderNot e.printed) e ∧
      ∀ name rest, parenthesized e.groupedUnderNot e.printed ≠ .tag name :: rest := by
    cases e with
    | atom name negated =>
      cases negated with
      | false => exact ⟨hgroup, by simp [groupedUnderNot, parenthesized]⟩
      | true => exact ⟨h, by simp [groupedUnderNot, parenthesized, printed]⟩
    | not e => exact ⟨h, by simp [groupedUnderNot, parenthesized, printed]⟩
    | and l r => exact ⟨hgroup, by simp [groupedUnderNot, parenthesized]⟩
    | or l r => exact ⟨hgroup, by simp [groupedUnderNot, parenthesized]⟩
  have hnot := Derives.not hoperand.1
  rw [negationTree_of_ne_tag _ _ hoperand.2] at hnot
  exact hnot

theorem derives_printed (e : Expression) : Derives e.nonterminal e.printed e := by
  induction e with
  | atom name negated =>
    cases negated with
    | false => exact .primary (.tag name)
    | true => exact .not (.primary (.tag name))
  | not e ih => exact derives_not_printed ih
  | and l r ihl ihr => exact .and ihl.parenthesized_conjunction ihr.parenthesized_negation
  | or l r ihl ihr => exact .or ihl.whole ihr.parenthesized_conjunction

/-! ### The spelling of what is printed -/

theorem spacedText_append (u v : List Token) :
    spacedText (u ++ v) = spacedText u ++ spacedText v :=
  List.flatMap_append

theorem spells_spaced_symbol {t : Token} (ht : ∀ name, t ≠ .tag name) {cs : List Char}
    {ts : List Token} (h : Spells cs ts) :
    Spells (t.spaced ++ cs) (t :: ts) ∧ EndsTag (t.spaced ++ cs) := by
  have hblank : Text.isBlank ' ' = true := by decide
  cases t with
  | tag name => exact absurd rfl (ht name)
  | and =>
    have htoken := @Spells.token .and _ _ trivial (.blank hblank h)
    exact ⟨.blank hblank htoken, endsTag_cons ' ' _ (by decide)⟩
  | or =>
    have htoken := @Spells.token .or _ _ trivial (.blank hblank h)
    exact ⟨.blank hblank htoken, endsTag_cons ' ' _ (by decide)⟩
  | not => exact ⟨@Spells.token .not _ _ trivial h, endsTag_cons '!' _ (by decide)⟩
  | opening => exact ⟨@Spells.token .opening _ _ trivial h, endsTag_cons '(' _ (by decide)⟩
  | closing => exact ⟨@Spells.token .closing _ _ trivial h, endsTag_cons ')' _ (by decide)⟩

theorem spells_spacedText_cons {t : Token} (ht : ∀ name, t ≠ .tag name) {v : List Token}
    (hv : Spells (spacedText v) v) : Spells (spacedText (t :: v)) (t :: v) :=
  (spells_spaced_symbol ht hv).1

theorem spells_spacedText_join {u v : List Token} {t : Token} (ht : ∀ name, t ≠ .tag name)
    (hu : Spells (spacedText u) u) (hv : Spells (spacedText v) v) :
    Spells (spacedText (u ++ t :: v)) (u ++ t :: v) := by
  obtain ⟨hright, hends⟩ := spells_spaced_symbol ht hv
  rw [spacedText_append]
  exact hu.append hright hends

theorem spells_spacedText_parenthesized {w : List Token} (h : Spells (spacedText w) w)
    (needed : Bool) : Spells (spacedText (parenthesized needed w)) (parenthesized needed w) := by
  cases needed with
  | false => exact h
  | true =>
    have hinside : Spells (spacedText (w ++ [.closing])) (w ++ [.closing]) :=
      spells_spacedText_join (by simp) h .nil
    exact spells_spacedText_cons (by simp) hinside

theorem spells_spacedText_tag {name : String} (hn : IsTagName name) :
    Spells (spacedText [.tag name]) [.tag name] :=
  @Spells.token (.tag name) [] [] ⟨hn, endsTag_nil⟩ .nil

theorem spells_printed {e : Expression} (he : ∀ a ∈ e.atoms, IsTagName a.1) :
    Spells (spacedText e.printed) e.printed := by
  induction e with
  | atom name negated =>
    have htag := spells_spacedText_tag (he (name, negated) List.mem_cons_self)
    cases negated with
    | false => exact htag
    | true => exact spells_spacedText_cons (by simp) htag
  | not e ih =>
    have hoperand := spells_spacedText_parenthesized (ih he) e.groupedUnderNot
    exact spells_spacedText_cons (by simp) hoperand
  | and l r ihl ihr =>
    have hl := ihl fun a ha => he a (List.mem_append_left _ ha)
    have hr := ihr fun a ha => he a (List.mem_append_right _ ha)
    exact spells_spacedText_join (by simp) (spells_spacedText_parenthesized hl _)
      (spells_spacedText_parenthesized hr _)
  | or l r ihl ihr =>
    have hl := ihl fun a ha => he a (List.mem_append_left _ ha)
    have hr := ihr fun a ha => he a (List.mem_append_right _ ha)
    exact spells_spacedText_join (by simp) hl (spells_spacedText_parenthesized hr _)

/-! ### Parsing what is printed -/

theorem parse_of_printed {text : String} {e : Expression} (h : Spells text.toList e.printed) :
    parse text = .ok e :=
  (parse_ok_iff text e).2 ⟨e.printed, h, (derives_printed e).whole⟩

/-- A condition whose names are those of tags is read back from its text, and from every other
spacing of the same tokens. No other condition is the tree of any text. -/
theorem parse_undoes_printing (e : Expression) :
    ((∀ a ∈ e.atoms, IsTagName a.1) → parse e.written = .ok e) ∧
    (∀ text : String, Spells text.toList e.printed → parse text = .ok e) ∧
    ((∃ text, parse text = .ok e) ↔ ∀ a ∈ e.atoms, IsTagName a.1) := by
  have hwritten : (∀ a ∈ e.atoms, IsTagName a.1) → parse e.written = .ok e := by
    intro he
    refine parse_of_printed ?_
    rw [written, String.toList_ofList]
    exact spells_printed he
  refine ⟨hwritten, fun text => parse_of_printed, ?_, fun he => ⟨e.written, hwritten he⟩⟩
  intro h a ha
  obtain ⟨text, htext⟩ := h
  exact isTagName_of_atom htext ha

/-- Every kind of operand that takes parentheses, and the stacked `!` that do not. -/
def parenthesesSample : Expression :=
  let a : Expression := .atom "A" false
  let notB : Expression := .atom "B" true
  .or (.or (.and (.or a notB) (.and a notB)) (.not (.not notB))) (.or (.not a) (.not (.and notB a)))

theorem parse_parenthesesSample :
    parenthesesSample.written =
      "(A || !B) && (A && !B) || !!!B || (!(A) || !(!B && A))" ∧
    (∀ a ∈ parenthesesSample.atoms, IsTagName a.1) ∧
    parse parenthesesSample.written = .ok parenthesesSample := by
  have hnames : ∀ a ∈ parenthesesSample.atoms, IsTagName a.1 := by
    intro a ha
    have hname : ∀ a ∈ parenthesesSample.atoms, a.1 = "A" ∨ a.1 = "B" := by decide
    rcases hname a ha with heq | heq
    · rw [heq]
      exact @isTagName_of_char 'A' (by decide)
    · rw [heq]
      exact @isTagName_of_char 'B' (by decide)
  exact ⟨by decide, hnames, (parse_undoes_printing parenthesesSample).1 hnames⟩

end TagAudit.Expression
