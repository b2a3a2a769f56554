import TagAudit.Pattern.Reader
import TagAudit.Proofs.Pattern.Search
import TagAudit.Proofs.Source.Normal

/-!
# Comments and literals as matches of a pattern (`strip_comments_and_strings`)

The constructs of a source text are the matches of one pattern, with an alternative for each kind,
and the normalized text is the text with each match written anew. The matcher of patterns goes
back where it failed, and the scan never does. They agree because no way back helps: the
alternatives exclude one another, a block comment takes as little as it can, a line comment ends
anywhere, and no part of a literal starts with its quote.
-/

namespace TagAudit.Source

open Pattern

/-! ### Repetitions in the pattern -/

/-- A part of the body of a literal: a character, or a backslash with the one that it takes. -/
def literalPart (quote : Char) : Node :=
  .alt (.one (.except [quote, '\\'])) (.seq (.one (.char '\\')) (.one (.except [])))

section Repetitions

variable (size : Nat) (captures : Captures) (f : Cursor → Captures → Reached)

/-- Taking as little as possible before `*/` stops at the first `*/`. -/
theorem tryForwards_comment (origin : Cursor) (n position : Nat) (before after : List Char)
    (horigin : origin.forward n = ⟨before, after, position⟩) :
    tryForwards (CharTest.except []).accepts captures
        (fun c captures => (Node.seq (.one (.char '*')) (.one (.char '/'))).matchAt size c captures
          (always f)) none before after position =
      (commentEnd? n after).map fun stop => f (origin.forward stop) captures := by
  fun_induction commentEnd? n after generalizing before position with
  | case1 n =>
    rfl
  | case2 n rest =>
    have hnext := Cursor.forward_succ horigin
    have hstop := Cursor.forward_succ hnext
    unfold tryForwards
    rw [matchAt_seq, matchAt_char_self, matchAt_char_self, always, ← hstop]
    rfl
  | case3 n d rest hhead ih =>
    have hclosing : ∀ tail, d :: rest ≠ '*' :: '/' :: tail := by
      intro tail heq
      exact hhead tail (List.cons.inj heq).1 (List.cons.inj heq).2
    have haccepts : (CharTest.except []).accepts d = true := by
      rw [accepts_except]
      simp
    unfold tryForwards
    rw [matchAt_seq, matchAt_two_chars_eq_none size _ captures _ '*' '/' hclosing]
    simp only [ne_eq, reduceCtorEq, not_false_eq_true, decide_true, haccepts, Bool.and_self,
      if_true, Option.map_none]
    exact ih _ _ (Cursor.forward_succ horigin)

section LiteralPart

variable (quote : Char) (before after : List Char) (position : Nat) (k : Continuation)

theorem matchAt_literalPart_plain {d : Char} (hquote : d ≠ quote) (hslash : d ≠ '\\') :
    (literalPart quote).matchAt size ⟨before, d :: after, position⟩ captures k =
      k ⟨d :: before, after, position + 1⟩ captures := by
  have hplain : (CharTest.except [quote, '\\']).accepts d = true := by
    rw [accepts_except]
    simp [hquote, hslash]
  have hescape : (CharTest.char '\\').accepts d = false := by
    rw [accepts_char]
    simp [Ne.symm hslash]
  rw [literalPart, matchAt_alt, matchAt_one_cons, hplain, if_pos rfl, matchAt_seq, matchAt_one_cons,
    hescape, if_neg (by simp), Option.or_none]

theorem matchAt_literalPart_quote (hslash : quote ≠ '\\') :
    (literalPart quote).matchAt size ⟨before, quote :: after, position⟩ captures k = none := by
  have hplain : (CharTest.except [quote, '\\']).accepts quote = false := by
    rw [accepts_except]
    simp
  have hescape : (CharTest.char '\\').accepts quote = false := by
    rw [accepts_char]
    simp [Ne.symm hslash]
  rw [literalPart, matchAt_alt, matchAt_one_cons, hplain, if_neg (by simp), matchAt_seq,
    matchAt_one_cons, hescape, if_neg (by simp), Option.or_none]

theorem matchAt_literalPart_escape :
    (literalPart quote).matchAt size ⟨before, '\\' :: after, position⟩ captures k =
      (Node.one (.except [])).matchAt size ⟨'\\' :: before, after, position + 1⟩ captures k := by
  have hplain : (CharTest.except [quote, '\\']).accepts '\\' = false := by
    rw [accepts_except]
    simp
  rw [literalPart, matchAt_alt, matchAt_one_cons, hplain, if_neg (by simp), Option.none_or,
    matchAt_seq, matchAt_char_self]

end LiteralPart

/-- Taking as many parts of a literal as possible before its quote stops at the quote that ends the
literal: where it fails, no fewer parts help, because none starts with the quote. -/
theorem loopFrom_literal {quote : Char} (hslash : quote ≠ '\\') (origin : Cursor)
    (fuel n position : Nat) (last : Option Nat) (before after : List Char)
    (horigin : origin.forward n = ⟨before, after, position⟩)
    (hlast : ∀ p, last = some p → p < position) (hfuel : after.length < fuel) :
    loopFrom ((literalPart quote).matchAt size) true
        (fun c captures => (Node.one (.char quote)).matchAt size c captures (always f))
        fuel 0 none last ⟨before, after, position⟩ captures =
      (literalEnd? quote false n after).map fun stop => f (origin.forward stop) captures := by
  induction fuel generalizing n position last before after with
  | zero => omega
  | succ fuel ih =>
    have hmoved : last ≠ some position := by
      intro heq
      have hlt := hlast position heq
      omega
    rw [loopFrom_succ _ _ _ _ _ _ hmoved]
    cases after with
    | nil => rfl
    | cons d after =>
      have hnext := Cursor.forward_succ horigin
      rw [List.length_cons] at hfuel
      by_cases hquote : d = quote
      · subst hquote
        rw [matchAt_literalPart_quote _ _ _ _ _ _ _ hslash, Option.none_or, matchAt_char_self,
          always, ← hnext]
        simp [literalEnd?]
      · have hend : (Node.one (.char quote)).matchAt size ⟨before, d :: after, position⟩ captures
            (always f) = none := by
          refine matchAt_char_eq_none size _ captures _ quote fun rest hrest => ?_
          exact absurd (List.cons.inj hrest).1 hquote
        rw [hend, Option.or_none]
        by_cases hd : d = '\\'
        · subst hd
          rw [matchAt_literalPart_escape]
          cases after with
          | nil => simp [literalEnd?, matchAt_one_nil, hquote]
          | cons e after =>
            rw [List.length_cons] at hfuel
            have hrest := ih (n + 2) (position + 2) (some position) _ after
              (Cursor.forward_succ hnext) (by intro p hp; injection hp with hp; omega) (by omega)
            rw [matchAt_one_cons, accepts_except]
            simp only [List.not_mem_nil, not_false_eq_true, decide_true, if_true]
            rw [hrest]
            simp [literalEnd?, hquote]
        · have hrest := ih (n + 1) (position + 1) (some position) _ after hnext
            (by intro p hp; injection hp with hp; omega) (by omega)
          rw [matchAt_literalPart_plain _ _ _ _ _ _ _ hquote hd, hrest]
          simp [literalEnd?, hquote, hd]

end Repetitions

/-! ### The pattern of constructs -/

/-- The group of the pattern that matches a construct of a kind. -/
def SegmentKind.group : SegmentKind → Nat
  | .blockComment => 1
  | .lineComment => 2
  | .stringLiteral => 3
  | .charLiteral => 4
  | .code => 0

def blockPart : Node :=
  .group SegmentKind.blockComment.group (.seq (.one (.char '/')) (.seq (.one (.char '*'))
    (.seq (.run (.except []) 0 none .lazy) (.seq (.one (.char '*')) (.one (.char '/'))))))

def linePart : Node :=
  .group SegmentKind.lineComment.group (.seq (.one (.char '/')) (.seq (.one (.char '/'))
    (.run (.except ['\n']) 0 none .greedy)))

def quotedPart (kind : SegmentKind) (quote : Char) : Node :=
  .group kind.group (.seq (.one (.char quote))
    (.seq (.loop (literalPart quote) 0 none .greedy) (.one (.char quote))))

def constructNode : Node :=
  .alt blockPart (.alt linePart
    (.alt (quotedPart .stringLiteral '"') (quotedPart .charLiteral '\'')))

def constructPattern : Pattern where
  text := "(?s)(?P<block>/\\*.*?\\*/)|(?P<line>//[^\\n]*)" ++
    "|(?P<dquote>\"(?:[^\"\\\\]|\\\\.)*\")|(?P<squote>'(?:[^'\\\\]|\\\\.)*')"
  node := constructNode

theorem compile_constructPattern : compile true constructPattern.text = .ok constructPattern := by
  have h : (compile true constructPattern.text).toOption = some constructPattern := by
    decide +kernel
  cases hcompiled : compile true constructPattern.text with
  | error fault =>
    rw [hcompiled] at h
    cases h
  | ok pattern =>
    rw [hcompiled] at h
    exact congrArg Except.ok (Option.some.inj h)

/-- A match of the pattern at a place: a construct of the given kind and length. -/
def matched (c : Cursor) (found : SegmentKind × Nat) : Reached :=
  ⟨c.forward found.2, [(found.1.group, c.after.take found.2)]⟩

section Matches

variable (size : Nat) (before rest : List Char) (position : Nat)

theorem matchAt_blockPart :
    blockPart.matchAt size ⟨before, '/' :: '*' :: rest, position⟩ [] done =
      (commentEnd? 2 rest).map fun stop =>
        matched ⟨before, '/' :: '*' :: rest, position⟩ (.blockComment, stop) := by
  have hopened : (Cursor.mk before ('/' :: '*' :: rest) position).forward 2 =
      ⟨'*' :: '/' :: before, rest, position + 2⟩ := rfl
  rw [blockPart, matchAt_group, matchAt_seq, matchAt_char_self, matchAt_seq, matchAt_char_self,
    matchAt_seq, matchAt_run_lazy]
  dsimp only
  rw [tryForwards_comment size [] _ _ 2 _ _ _ hopened]
  simp only [matched, Cursor.textTo_forward]

theorem matchAt_linePart :
    linePart.matchAt size ⟨before, '/' :: '/' :: rest, position⟩ [] done =
      some (matched ⟨before, '/' :: '/' :: rest, position⟩
        (.lineComment, 2 + (rest.takeWhile (· ≠ '\n')).length)) := by
  have hopened : (⟨'/' :: '/' :: before, rest, position + 2⟩ : Cursor) =
      (Cursor.mk before ('/' :: '/' :: rest) position).forward 2 := rfl
  have htest : (CharTest.except ['\n']).accepts = fun c => decide (c ≠ '\n') := by
    funext c
    rw [accepts_except]
    simp
  rw [linePart, matchAt_group, matchAt_seq, matchAt_char_self, matchAt_seq, matchAt_char_self,
    matchAt_run_greedy, htest]
  dsimp only
  rw [hopened, Cursor.forward_forward, Cursor.textTo_forward]
  rfl

theorem matchAt_quotedPart (kind : SegmentKind) {quote : Char} (hslash : quote ≠ '\\')
    (hsize : rest.length ≤ size) :
    (quotedPart kind quote).matchAt size ⟨before, quote :: rest, position⟩ [] done =
      (literalEnd? quote false 1 rest).map fun stop =>
        matched ⟨before, quote :: rest, position⟩ (kind, stop) := by
  have hopened : (Cursor.mk before (quote :: rest) position).forward 1 =
      ⟨quote :: before, rest, position + 1⟩ := rfl
  have hfuel : rest.length < 0 + size + 2 := by omega
  rw [quotedPart, matchAt_group, matchAt_seq, matchAt_char_self, matchAt_seq,
    matchAt_loop_greedy]
  rw [loopFrom_literal size [] _ hslash _ _ 1 _ _ _ _ hopened (by simp) hfuel]
  simp only [matched, Cursor.textTo_forward]

theorem matchAt_blockPart_eq_none (c : Cursor) (h : ∀ rest, c.after ≠ '/' :: '*' :: rest) :
    blockPart.matchAt size c [] done = none := by
  simp only [blockPart, matchAt_group, matchAt_seq]
  exact matchAt_two_chars_eq_none size c [] _ '/' '*' h

theorem matchAt_linePart_eq_none (c : Cursor) (h : ∀ rest, c.after ≠ '/' :: '/' :: rest) :
    linePart.matchAt size c [] done = none := by
  simp only [linePart, matchAt_group, matchAt_seq]
  exact matchAt_two_chars_eq_none size c [] _ '/' '/' h

theorem matchAt_quotedPart_eq_none (kind : SegmentKind) (quote : Char) (c : Cursor)
    (h : ∀ rest, c.after ≠ quote :: rest) :
    (quotedPart kind quote).matchAt size c [] done = none := by
  rw [quotedPart, matchAt_group, matchAt_seq]
  exact matchAt_char_eq_none size c [] _ quote fun rest hrest => absurd hrest (h rest)

end Matches

/-- The pattern matches at a place what the scan takes for a construct there. -/
theorem matchAt_constructNode (size : Nat) (c : Cursor) (hsize : c.after.length ≤ size) :
    constructNode.matchAt size c [] done = (construct? c.after).map (matched c) := by
  obtain ⟨before, after, position⟩ := c
  rw [constructNode, matchAt_alt, matchAt_alt, matchAt_alt]
  dsimp only at hsize ⊢
  unfold construct?
  split
  · rw [matchAt_blockPart, matchAt_linePart_eq_none size _ (by simp),
      matchAt_quotedPart_eq_none size _ _ _ (by simp),
      matchAt_quotedPart_eq_none size _ _ _ (by simp)]
    simp [Option.map_map, Function.comp_def]
  · rw [matchAt_blockPart_eq_none size _ (by simp), matchAt_linePart]
    rfl
  · rename_i rest
    rw [List.length_cons] at hsize
    rw [matchAt_blockPart_eq_none size _ (by simp), matchAt_linePart_eq_none size _ (by simp),
      matchAt_quotedPart_eq_none size .charLiteral _ _ (by simp),
      matchAt_quotedPart size before rest position .stringLiteral (by decide) (by omega)]
    simp [Option.map_map, Function.comp_def]
  · rename_i rest
    rw [List.length_cons] at hsize
    rw [matchAt_blockPart_eq_none size _ (by simp), matchAt_linePart_eq_none size _ (by simp),
      matchAt_quotedPart_eq_none size .stringLiteral _ _ (by simp),
      matchAt_quotedPart size before rest position .charLiteral (by decide) (by omega)]
    simp [Option.map_map, Function.comp_def]
  · rename_i hblock hline hstring hchar
    rw [matchAt_blockPart_eq_none size _ hblock, matchAt_linePart_eq_none size _ hline,
      matchAt_quotedPart_eq_none size _ _ _ hstring, matchAt_quotedPart_eq_none size _ _ _ hchar]
    rfl

/-! ### The normalized text -/

/-- What is written for a match of the pattern, by the group that matched. -/
def blanked : Captures → List Char
  | (1, _) :: _ => [' ']
  | (2, _) :: _ => [' ']
  | (3, _) :: _ => ['"', '"']
  | (4, _) :: _ => ['\'', '\'']
  | _ => []

theorem blanked_matched (c : Cursor) {kind : SegmentKind} (length : Nat) (hkind : kind ≠ .code)
    (text : List Char) :
    blanked (matched c (kind, length)).captures = Segment.replacement ⟨kind, text⟩ := by
  cases kind with
  | code => exact absurd rfl hkind
  | _ => rfl

theorem Scan.replaceFrom_eq {text : List Char} {l : List Segment} (h : Scan text l)
    (size fuel position : Nat) (before : List Char) (hsize : text.length ≤ size)
    (hfuel : text.length < fuel) :
    constructNode.replaceFrom size blanked fuel ⟨before, text, position⟩ =
      l.flatMap Segment.replacement := by
  induction h generalizing fuel position before with
  | nil =>
    obtain ⟨fuel, rfl⟩ : ∃ n, fuel = n + 1 := ⟨fuel - 1, by omega⟩
    have hmatch := matchAt_constructNode size ⟨before, [], position⟩ hsize
    rw [replaceFrom_nil _ _ _ _ hmatch]
    rfl
  | @construct kind interior rest l hfits hends _ ih =>
    obtain ⟨fuel, rfl⟩ : ∃ n, fuel = n + 1 := ⟨fuel - 1, by omega⟩
    have hmatch :=
      matchAt_constructNode size ⟨before, kind.enclose interior ++ rest, position⟩ hsize
    rw [construct?_enclose hfits hends, Option.map_some] at hmatch
    obtain ⟨c, tail, htext⟩ := SegmentKind.enclose_eq_cons hfits
    have hlength : rest.length < (kind.enclose interior ++ rest).length := by
      rw [htext, List.cons_append, List.length_cons, List.length_append]
      omega
    have hrest := ih fuel (position + (kind.enclose interior).length)
      ((kind.enclose interior).reverse ++ before) (by omega) (by omega)
    rw [replaceFrom_of_match _ _ _ _ hmatch,
      blanked_matched _ _ hfits.ne_code (kind.enclose interior), matched, Cursor.forward_append,
      hrest]
    rfl
  | @code c rest l hstarts _ ih =>
    obtain ⟨fuel, rfl⟩ : ∃ n, fuel = n + 1 := ⟨fuel - 1, by omega⟩
    have hmatch := matchAt_constructNode size ⟨before, c :: rest, position⟩ hsize
    rw [(construct?_eq_none_iff _).2 hstarts, Option.map_none] at hmatch
    rw [List.length_cons] at hsize hfuel
    rw [replaceFrom_cons _ _ _ _ hmatch, ih fuel _ _ (by omega) (by omega)]
    rfl

theorem normalize_eq_replaceIn (text : List Char) :
    normalize text = replaceIn constructPattern blanked text :=
  ((scan_segments text).replaceFrom_eq text.length (text.length + 1) 0 [] (Nat.le_refl _)
    (Nat.lt_succ_self _)).symm

/-- A character that starts no construct is copied, and the scan goes on right behind it. -/
theorem normalize_code {c : Char} {rest : List Char} (h : ¬ Starts (c :: rest)) :
    normalize (c :: rest) = c :: normalize rest := by
  rw [normalize_eq, segments_code h]
  rfl

theorem hasQuote_iff (quote : Char) (text : List Char) :
    HasQuote quote false text ↔
      ∃ body rest, LiteralBody quote body ∧ text = body ++ quote :: rest := by
  constructor
  · intro h
    have hend := (isSome_literalEnd? quote false 0 text).2 h
    obtain ⟨stop, hstop⟩ := Option.isSome_iff_exists.1 hend
    obtain ⟨body, rest, htext, hbody, -⟩ := literalEnd?_eq_some hstop
    exact ⟨body, rest, hbody, htext⟩
  · rintro ⟨body, rest, hbody, rfl⟩
    exact .of_body hbody rest

theorem normalize_unclosed_comment {rest : List Char} (h : ¬ ['*', '/'] <:+: rest) :
    normalize ('/' :: '*' :: rest) = '/' :: normalize ('*' :: rest) := by
  apply normalize_code
  rw [starts_cons_iff]
  simp [h]

theorem normalize_unclosed_literal {quote : Char} {rest : List Char}
    (hquote : quote = '"' ∨ quote = '\'')
    (h : ¬ ∃ body tail, LiteralBody quote body ∧ rest = body ++ quote :: tail) :
    normalize (quote :: rest) = quote :: normalize rest := by
  apply normalize_code
  rw [starts_cons_iff, hasQuote_iff]
  rintro (⟨hslash, -⟩ | ⟨-, hclosed⟩)
  · rw [hslash] at hquote
    exact absurd hquote (by decide)
  · exact h hclosed

theorem Segment.replacement_eq (s : Segment) :
    s.replacement =
      if s.kind = .blockComment ∨ s.kind = .lineComment then [' ']
      else if s.kind = .stringLiteral then ['"', '"']
      else if s.kind = .charLiteral then ['\'', '\'']
      else s.text := by
  obtain ⟨kind, text⟩ := s
  cases kind <;> rfl

/-- A text divides in exactly one way into constructs, each closed at the first place that closes
it, and single characters where no construct starts. The normalized text has a blank for a
comment, an empty literal for a literal and the characters between as they are; so an opening that
is never closed is copied and the scan goes on behind its first character. The same text comes
from the pattern of constructs by writing its matches anew. -/
theorem normalize_unique_scan (text : List Char) :
    (∃ l, Scan text l ∧ (∀ l', Scan text l' → l' = l) ∧ joined l = text ∧
      normalize text = l.flatMap fun s =>
        if s.kind = .blockComment ∨ s.kind = .lineComment then [' ']
        else if s.kind = .stringLiteral then ['"', '"']
        else if s.kind = .charLiteral then ['\'', '\'']
        else s.text) ∧
    (∀ rest, text = '/' :: '*' :: rest → ¬ ['*', '/'] <:+: rest →
      normalize text = '/' :: normalize ('*' :: rest)) ∧
    (∀ quote rest, quote = '"' ∨ quote = '\'' → text = quote :: rest →
      (¬ ∃ body tail, LiteralBody quote body ∧ rest = body ++ quote :: tail) →
      normalize text = quote :: normalize rest) ∧
    compile true constructPattern.text = .ok constructPattern ∧
    normalize text = replaceIn constructPattern blanked text := by
  have hscan := scan_segments text
  refine ⟨⟨segments text, hscan, fun l' h' => h'.eq_segments, hscan.joined_eq, ?_⟩, ?_, ?_,
    compile_constructPattern, normalize_eq_replaceIn text⟩
  · exact congrArg ((segments text).flatMap ·) (funext Segment.replacement_eq)
  · rintro rest rfl h
    exact normalize_unclosed_comment h
  · rintro quote rest hquote rfl h
    exact normalize_unclosed_literal hquote h

end TagAudit.Source
