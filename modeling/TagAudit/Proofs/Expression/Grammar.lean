import TagAudit.Expression.Parser

/-!
# The grammar of conditions

    disjunction → conjunction ( "||" conjunction )*
    conjunction → negation ( "&&" negation )*
    negation    → "!" negation | primary
    primary     → TAG | "(" disjunction ")"

Both repetitions associate to the left. A `!` directly before a tag belongs to the reference, any
other `!` negates what it stands before.
-/

namespace TagAudit.Expression

/-! ### Derivations -/

inductive Nonterminal where
  | disjunction
  | conjunction
  | negation
  | primary
  deriving DecidableEq, Repr

/-- The tree of a `!` before the tokens of an operand: the `!` belongs to a tag that comes next. -/
def negationTree : List Token → Expression → Expression
  | .tag name :: _, _ => .atom name true
  | _, e => .not e

/-- The tokens that a nonterminal derives, with the tree of the derivation. -/
inductive Derives : Nonterminal → List Token → Expression → Prop where
  | conjunction {w : List Token} {e : Expression} (h : Derives .conjunction w e) :
      Derives .disjunction w e
  /-- One more operand of a disjunction; all that is left of it is its left side. -/
  | or {u v : List Token} {l r : Expression} (hl : Derives .disjunction u l)
      (hr : Derives .conjunction v r) : Derives .disjunction (u ++ .or :: v) (.or l r)
  | negation {w : List Token} {e : Expression} (h : Derives .negation w e) :
      Derives .conjunction w e
  | and {u v : List Token} {l r : Expression} (hl : Derives .conjunction u l)
      (hr : Derives .negation v r) : Derives .conjunction (u ++ .and :: v) (.and l r)
  | not {w : List Token} {e : Expression} (h : Derives .negation w e) :
      Derives .negation (.not :: w) (negationTree w e)
  | primary {w : List Token} {e : Expression} (h : Derives .primary w e) :
      Derives .negation w e
  | tag (name : String) : Derives .primary [.tag name] (.atom name false)
  | group {w : List Token} {e : Expression} (h : Derives .disjunction w e) :
      Derives .primary (.opening :: w ++ [.closing]) e

theorem negationTree_of_ne_tag (w : List Token) (e : Expression)
    (hw : ∀ name rest, w ≠ .tag name :: rest) : negationTree w e = .not e := by
  fun_cases negationTree w e with
  | case1 name rest => exact absurd rfl (hw name rest)
  | case2 => rfl

theorem derives_negateTag (n : Nat) (name : String) :
    Derives .negation (List.replicate n .not ++ [.tag name]) (negateTag n name) := by
  induction n with
  | zero => exact .primary (.tag name)
  | succ n ih =>
    cases n with
    | zero => exact .not ih
    | succ n => exact .not ih

theorem derives_negate (n : Nat) (w : List Token) (e : Expression) (h : Derives .negation w e)
    (hw : ∀ name rest, w ≠ .tag name :: rest) :
    Derives .negation (List.replicate n .not ++ w) (negate n e) := by
  induction n with
  | zero => exact h
  | succ n ih =>
    have hhead : ∀ name rest, List.replicate n .not ++ w ≠ .tag name :: rest := by
      cases n with
      | zero => exact hw
      | succ n => simp [List.replicate_succ]
    have hnot := Derives.not ih
    rw [negationTree_of_ne_tag _ _ hhead] at hnot
    exact hnot

theorem Derives.ne_nil {n : Nonterminal} {w : List Token} {e : Expression} (h : Derives n w e) :
    w ≠ [] := by
  induction h with
  | conjunction _ ih | negation _ ih | primary _ ih => exact ih
  | or | and | not | tag | group => simp

end TagAudit.Expression
