import TagAudit.Pattern.Search

/-!
# The matcher of patterns

One equation for each kind of part that the pattern of comments and literals is made of, and what a
text is with the matches of a pattern written anew.
-/

namespace TagAudit.Pattern

/-! ### Tests of single characters -/

def CharTest.char (c : Char) : CharTest := ⟨[.code c.toNat], false, .exact, false⟩

/-- The test of all characters but the given ones. -/
def CharTest.except (cs : List Char) : CharTest :=
  ⟨cs.map fun c => .code c.toNat, true, .exact, false⟩

theorem has_code (c d : Char) : (SetItem.code c.toNat).has .exact false d = (c == d) := by
  have hvalid : c.toNat.isValidChar := c.valid
  unfold SetItem.has
  dsimp only
  rw [dif_pos hvalid]
  rfl

theorem accepts_char (c d : Char) : (CharTest.char c).accepts d = (c == d) := by
  simp [CharTest.char, CharTest.accepts, has_code]

theorem accepts_except (cs : List Char) (d : Char) :
    (CharTest.except cs).accepts d = decide (d ∉ cs) := by
  have hany : ((cs.map fun c => SetItem.code c.toNat).any fun item => item.has .exact false d) =
      decide (d ∈ cs) := by
    simp [List.any_map, Function.comp_def, has_code, List.any_beq']
  simp only [CharTest.except, CharTest.accepts, hany]
  simp

/-! ### Places -/

namespace Cursor

def forward (n : Nat) (c : Cursor) : Cursor :=
  ⟨(c.after.take n).reverse ++ c.before, c.after.drop n, c.position + n⟩

theorem forward_zero (c : Cursor) : c.forward 0 = c := by
  simp [forward]

theorem forward_succ {c : Cursor} {n position : Nat} {before after : List Char} {d : Char}
    (h : c.forward n = ⟨before, d :: after, position⟩) :
    c.forward (n + 1) = ⟨d :: before, after, position + 1⟩ := by
  obtain ⟨hbefore, hafter, hposition⟩ := Cursor.mk.inj h
  have hhead : c.after[n]? = some d := by rw [← List.head?_drop, hafter, List.head?_cons]
  have htail : c.after.drop (n + 1) = after := by rw [← List.tail_drop, hafter, List.tail_cons]
  rw [forward, List.take_add_one, hhead, htail, ← hbefore, ← hposition]
  simp [Nat.add_assoc]

theorem forward_forward (c : Cursor) (m n : Nat) :
    (c.forward m).forward n = c.forward (m + n) := by
  simp [forward, List.take_add, Nat.add_assoc]

theorem forward_append (before text rest : List Char) (position : Nat) :
    (Cursor.mk before (text ++ rest) position).forward text.length =
      ⟨text.reverse ++ before, rest, position + text.length⟩ := by
  simp [forward]

theorem textTo_forward (c : Cursor) (n : Nat) : c.textTo (c.forward n) = c.after.take n := by
  simp [textTo, forward]

theorem advanceWhile_eq (p : Char → Bool) (origin : Cursor) (n position count : Nat)
    (before after : List Char) (horigin : origin.forward n = ⟨before, after, position⟩) :
    advanceWhile p none before after position count =
      (origin.forward (n + (after.takeWhile p).length), count + (after.takeWhile p).length) := by
  induction after generalizing before position n count with
  | nil => simp [advanceWhile, horigin]
  | cons d after ih =>
    by_cases hd : p d = true
    · have hrest := ih (n + 1) (position + 1) (count + 1) (d :: before) (forward_succ horigin)
      have hcount : ∀ m, m + 1 + (after.takeWhile p).length =
          m + ((after.takeWhile p).length + 1) := by
        intro m
        omega
      rw [hcount, hcount] at hrest
      rw [List.takeWhile_cons_of_pos hd, List.length_cons, ← hrest]
      simp [advanceWhile, hd]
    · rw [List.takeWhile_cons_of_neg hd]
      simp [advanceWhile, hd, horigin]

end Cursor

/-! ### Parts of a pattern -/

def always (f : Cursor → Captures → Reached) : Continuation :=
  fun c captures => some (f c captures)

section Parts

variable (size : Nat) (c : Cursor) (captures : Captures) (k : Continuation)

theorem matchAt_seq (a b : Node) :
    (Node.seq a b).matchAt size c captures k =
      a.matchAt size c captures fun c captures => b.matchAt size c captures k := rfl

theorem matchAt_alt (a b : Node) :
    (Node.alt a b).matchAt size c captures k =
      (a.matchAt size c captures k).or (b.matchAt size c captures k) := by
  rw [Node.matchAt]
  cases a.matchAt size c captures k <;> rfl

theorem matchAt_group (index : Nat) (body : Node) :
    (Node.group index body).matchAt size c captures done =
      body.matchAt size c captures
        (always fun d captures => ⟨d, (index, c.textTo d) :: captures⟩) := rfl

theorem matchAt_one_nil (test : CharTest) (before : List Char) (position : Nat) :
    (Node.one test).matchAt size ⟨before, [], position⟩ captures k = none := rfl

theorem matchAt_one_cons (test : CharTest) (before after : List Char) (position : Nat) (d : Char) :
    (Node.one test).matchAt size ⟨before, d :: after, position⟩ captures k =
      if test.accepts d then k ⟨d :: before, after, position + 1⟩ captures else none := rfl

theorem matchAt_char_self (d : Char) (before after : List Char) (position : Nat) :
    (Node.one (.char d)).matchAt size ⟨before, d :: after, position⟩ captures k =
      k ⟨d :: before, after, position + 1⟩ captures := by
  rw [matchAt_one_cons, accepts_char, beq_self_eq_true, if_pos rfl]

theorem matchAt_char_eq_none (d : Char)
    (h : ∀ rest, c.after = d :: rest → k ⟨d :: c.before, rest, c.position + 1⟩ captures = none) :
    (Node.one (.char d)).matchAt size c captures k = none := by
  obtain ⟨before, after, position⟩ := c
  cases after with
  | nil => rfl
  | cons e after =>
    by_cases he : d = e
    · subst he
      rw [matchAt_char_self]
      exact h after rfl
    · rw [matchAt_one_cons, accepts_char, if_neg]
      simp [he]

theorem matchAt_two_chars_eq_none (d e : Char) (h : ∀ rest, c.after ≠ d :: e :: rest) :
    (Node.one (.char d)).matchAt size c captures
      (fun c captures => (Node.one (.char e)).matchAt size c captures k) = none := by
  refine matchAt_char_eq_none size c captures _ d fun rest hrest => ?_
  refine matchAt_char_eq_none size _ captures _ e fun tail htail => ?_
  exact absurd (hrest.trans (congrArg (d :: ·) htail)) (h tail)

theorem matchAt_run_lazy (test : CharTest) :
    (Node.run test 0 none .lazy).matchAt size c captures k =
      tryForwards test.accepts captures k none c.before c.after c.position := by
  obtain ⟨before, after, position⟩ := c
  cases after <;> rfl

/-- As many characters as possible, with nothing behind that could fail. -/
theorem matchAt_run_greedy (test : CharTest) (f : Cursor → Captures → Reached) :
    (Node.run test 0 none .greedy).matchAt size c captures (always f) =
      some (f (c.forward (c.after.takeWhile test.accepts).length) captures) := by
  have hfar := Cursor.advanceWhile_eq test.accepts c 0 c.position 0 c.before c.after c.forward_zero
  have hfirst : ∀ steps far,
      tryBackwards captures (always f) steps far = some (f far captures) := by
    intro steps far
    cases steps <;> rfl
  rw [Node.matchAt, runFrom]
  simp only [hfar, Nat.zero_add, Nat.not_lt_zero, if_false, hfirst]

theorem matchAt_loop_greedy (body : Node) :
    (Node.loop body 0 none .greedy).matchAt size c captures k =
      loopFrom (body.matchAt size) true k (0 + size + 2) 0 none none c captures := rfl

theorem loopFrom_succ (body : Cursor → Captures → Continuation → Option Reached) (fuel : Nat)
    (last : Option Nat) (hlast : last ≠ some c.position) :
    loopFrom body true k (fuel + 1) 0 none last c captures =
      (body c captures fun d captures =>
        loopFrom body true k fuel 0 none (some c.position) d captures).or (k c captures) := by
  rw [loopFrom]
  simp only [reduceCtorEq, decide_false, hlast, Bool.or_self, Bool.false_eq_true, if_false, if_true,
    Option.map_none]
  cases body c captures fun d captures =>
    loopFrom body true k fuel 0 none (some c.position) d captures <;> rfl

end Parts

/-! ### Writing matches anew -/

/-- What follows a place, with each match of a pattern written anew, the leftmost match first. The
pattern matches no empty text, and `fuel` bounds the number of matches and of characters between. -/
def Node.replaceFrom (node : Node) (size : Nat) (write : Captures → List Char) :
    (fuel : Nat) → Cursor → List Char
  | 0, _ => []
  | fuel + 1, c =>
    match node.matchAt size c [] done with
    | some reached => write reached.captures ++ node.replaceFrom size write fuel reached.cursor
    | none =>
      match c.after with
      | [] => []
      | d :: after => d :: node.replaceFrom size write fuel ⟨d :: c.before, after, c.position + 1⟩

def replaceIn (pattern : Pattern) (write : Captures → List Char) (text : List Char) : List Char :=
  pattern.node.replaceFrom text.length write (text.length + 1) (Cursor.start text)

section Replace

variable (node : Node) (size : Nat) (write : Captures → List Char) (fuel : Nat)

theorem replaceFrom_of_match {c : Cursor} {reached : Reached}
    (h : node.matchAt size c [] done = some reached) :
    node.replaceFrom size write (fuel + 1) c =
      write reached.captures ++ node.replaceFrom size write fuel reached.cursor := by
  rw [Node.replaceFrom, h]

theorem replaceFrom_nil {before : List Char} {position : Nat}
    (h : node.matchAt size ⟨before, [], position⟩ [] done = none) :
    node.replaceFrom size write (fuel + 1) ⟨before, [], position⟩ = [] := by
  rw [Node.replaceFrom, h]

theorem replaceFrom_cons {before after : List Char} {position : Nat} {d : Char}
    (h : node.matchAt size ⟨before, d :: after, position⟩ [] done = none) :
    node.replaceFrom size write (fuel + 1) ⟨before, d :: after, position⟩ =
      d :: node.replaceFrom size write fuel ⟨d :: before, after, position + 1⟩ := by
  rw [Node.replaceFrom, h]

end Replace

end TagAudit.Pattern
