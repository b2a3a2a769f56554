import TagAudit.Expression.Parser

/-!
What can be said of a condition without evaluating it: the tags that it mentions, the tags that it
requires, and its size.

`depends_on_tags`, `depends_on`, `required_tags` and `complexity` of tag expressions. The loop of
`required_tags` is kept, with its stack.
-/

namespace TagAudit.Expression

/-- A reference as it is listed: a negated one with a `!` before the name. -/
def referenceText : String × Bool → String
  | (name, false) => name
  | (name, true) => "!" ++ name

/-- Every reference from left to right, without repetition. -/
def references (e : Expression) : List String :=
  (e.atoms.map referenceText).eraseDups

/-- The names that are mentioned, negated or not, in the order of `references`. -/
def referencedNames (e : Expression) : List String :=
  (e.atoms.eraseDups).map Prod.fst

/-- Whether a tag is mentioned, negated or not. -/
def mentions (tag : String) (e : Expression) : Bool :=
  e.atoms.any fun a => a.1 = tag

def nodes : Expression → Nat
  | .atom _ _ => 1
  | .not e => e.nodes + 1
  | .and l r => l.nodes + r.nodes + 1
  | .or l r => l.nodes + r.nodes + 1

theorem nodes_pos (e : Expression) : 0 < e.nodes := by
  cases e <;> exact Nat.succ_pos _

/-- The search for required tags: the conditions that are still to be looked at, the next one first,
and the tags found so far. -/
structure Search where
  stack : List Expression
  found : List String

def Search.size (s : Search) : Nat := s.stack.foldr (fun e n => e.nodes + n) 0

/-- One step of the search. The parts of a conjunction are looked at next, the left one first; of all
other conditions only a plain reference counts. -/
def Search.step (s : Search) : Option Search :=
  match s.stack with
  | [] => none
  | .and l r :: rest => some ⟨l :: r :: rest, s.found⟩
  | .atom name false :: rest => some ⟨rest, s.found ++ [name]⟩
  | _ :: rest => some ⟨rest, s.found⟩

theorem Search.size_of_step {s s' : Search} (h : s.step = some s') : s'.size < s.size := by
  unfold Search.step at h
  split at h
  · exact absurd h (by simp)
  · next l r rest hstack =>
    obtain rfl := Option.some.inj h
    simp only [Search.size, hstack, List.foldr_cons, nodes]
    omega
  · next name rest hstack =>
    obtain rfl := Option.some.inj h
    simp only [Search.size, hstack, List.foldr_cons, nodes]
    omega
  · next e rest _ _ hstack =>
    obtain rfl := Option.some.inj h
    have hpos := e.nodes_pos
    simp only [Search.size, hstack, List.foldr_cons]
    omega

/-- What has been found once nothing is left to be looked at. -/
def Search.run (s : Search) : List String :=
  match _ : s.step with
  | none => s.found
  | some s' => s'.run
termination_by s.size
decreasing_by exact Search.size_of_step (by assumption)

/-- The tags without which the condition cannot hold. A disjunction anywhere leaves none certain. -/
def required (e : Expression) : List String :=
  if e.hasOr then [] else (Search.run ⟨[e], []⟩).eraseDups

/-- The weighted size: one for each tag, one for each `!`, two for each binary operator. -/
def complexity : Expression → Nat
  | .atom _ negated => if negated then 2 else 1
  | .not e => 1 + e.complexity
  | .and l r => 2 + l.complexity + r.complexity
  | .or l r => 2 + l.complexity + r.complexity

end TagAudit.Expression
