import TagAudit.Source.Segment

/-!
# The division of a source text

The scan said without its loop: a text divides into constructs, each closed at the first place that
closes it, and single characters where no construct starts. There is one such division, and
`segments` computes it.

When no opening of a construct is left as code, what stands inside a construct has no part in the
division: another interior that fits there gives the same segments around it.
-/

namespace TagAudit.Source

/-! ### Constructs -/

/-- Texts that a quote does not end early: each backslash takes the next character with it, and no
other quote occurs. -/
inductive LiteralBody (quote : Char) : List Char → Prop where
  | nil : LiteralBody quote []
  | plain {c : Char} {rest : List Char} :
      c ≠ quote → c ≠ '\\' → LiteralBody quote rest → LiteralBody quote (c :: rest)
  | escape {c : Char} {rest : List Char} :
      LiteralBody quote rest → LiteralBody quote ('\\' :: c :: rest)

namespace SegmentKind

def opening : SegmentKind → List Char
  | .blockComment => ['/', '*']
  | .lineComment => ['/', '/']
  | .stringLiteral => ['"']
  | .charLiteral => ['\'']
  | .code => []

def closing : SegmentKind → List Char
  | .blockComment => ['*', '/']
  | .lineComment => []
  | .stringLiteral => ['"']
  | .charLiteral => ['\'']
  | .code => []

def enclose (kind : SegmentKind) (interior : List Char) : List Char :=
  kind.opening ++ interior ++ kind.closing

/-- The texts that can stand inside a construct without closing it early. -/
def Fits : SegmentKind → List Char → Prop
  | .blockComment, interior => ¬ ['*', '/'] <:+: interior
  | .lineComment, interior => '\n' ∉ interior
  | .stringLiteral, interior => LiteralBody '"' interior
  | .charLiteral, interior => LiteralBody '\'' interior
  | .code, _ => False

/-- What can stand behind a construct: a line comment goes on to the end of its line. -/
def EndsBefore : SegmentKind → List Char → Prop
  | .lineComment, rest => ∀ c, rest.head? = some c → c = '\n'
  | _, _ => True

theorem Fits.ne_code {kind : SegmentKind} {interior : List Char} (h : kind.Fits interior) :
    kind ≠ .code := by
  rintro rfl
  exact h

theorem EndsBefore.of_head {kind : SegmentKind} {rest rest' : List Char}
    (h : kind.EndsBefore rest) (hhead : rest'.head? = rest.head?) : kind.EndsBefore rest' := by
  cases kind with
  | lineComment =>
    intro c hc
    exact h c (hhead.symm.trans hc)
  | _ => exact trivial

theorem enclose_append (kind : SegmentKind) (interior rest : List Char) :
    kind.enclose interior ++ rest = kind.opening ++ (interior ++ (kind.closing ++ rest)) := by
  simp [enclose]

theorem length_enclose (kind : SegmentKind) (interior : List Char) :
    (kind.enclose interior).length =
      interior.length + (kind.opening.length + kind.closing.length) := by
  simp only [enclose, List.length_append]
  omega

theorem head?_enclose {kind : SegmentKind} {interior : List Char} (h : kind.Fits interior)
    (other : List Char) : (kind.enclose interior).head? = (kind.enclose other).head? := by
  cases kind with
  | code => exact h.elim
  | _ => rfl

theorem enclose_eq_cons {kind : SegmentKind} {interior : List Char} (h : kind.Fits interior) :
    ∃ c tail, kind.enclose interior = c :: tail := by
  cases kind with
  | code => exact h.elim
  | _ => exact ⟨_, _, rfl⟩

end SegmentKind

def Starts (text : List Char) : Prop :=
  ∃ (kind : SegmentKind) (interior rest : List Char),
    text = kind.enclose interior ++ rest ∧ kind.Fits interior ∧ kind.EndsBefore rest

/-! ### Ends of constructs -/

theorem infix_cons_of_not {c : Char} {rest : List Char}
    (hhead : ∀ tail, c = '*' → rest = '/' :: tail → False) :
    ['*', '/'] <:+: c :: rest ↔ ['*', '/'] <:+: rest := by
  rw [List.infix_cons_iff]
  constructor
  · rintro (⟨tail, htail⟩ | h)
    · obtain ⟨hc, hrest⟩ := List.cons.inj htail
      exact (hhead tail hc.symm hrest.symm).elim
    · exact h
  · exact .inr

theorem commentEnd?_append (length : Nat) {interior : List Char} (rest : List Char)
    (h : ¬ ['*', '/'] <:+: interior) :
    commentEnd? length (interior ++ '*' :: '/' :: rest) = some (length + interior.length + 2) := by
  induction interior generalizing length with
  | nil => rfl
  | cons c interior ih =>
    have hhead : ∀ tail, c = '*' → interior ++ '*' :: '/' :: rest = '/' :: tail → False := by
      rintro tail rfl htail
      cases interior with
      | nil => simp at htail
      | cons d interior =>
        obtain rfl : d = '/' := (List.cons.inj htail).1
        exact h ⟨[], interior, rfl⟩
    have hinterior : ¬ ['*', '/'] <:+: interior := fun hi => h (List.infix_cons hi)
    rw [List.cons_append, commentEnd?, ih (length + 1) hinterior, List.length_cons]
    · congr 1
      omega
    · exact hhead

theorem commentEnd?_eq_some {length stop : Nat} {text : List Char}
    (h : commentEnd? length text = some stop) :
    ∃ interior rest, text = interior ++ '*' :: '/' :: rest ∧ ¬ ['*', '/'] <:+: interior ∧
      stop = length + interior.length + 2 := by
  fun_induction commentEnd? length text with
  | case1 => exact absurd h (by simp)
  | case2 length rest =>
    exact ⟨[], rest, rfl, by simp, (Option.some.inj h).symm⟩
  | case3 length c rest hhead ih =>
    obtain ⟨interior, tail, rfl, hinterior, rfl⟩ := ih h
    refine ⟨c :: interior, tail, rfl, ?_, ?_⟩
    · rw [infix_cons_of_not]
      · exact hinterior
      · rintro t rfl rfl
        exact hhead (t ++ '*' :: '/' :: tail) rfl rfl
    · rw [List.length_cons]
      omega

theorem literalEnd?_append {quote : Char} (hquote : quote ≠ '\\') (length : Nat)
    {body : List Char} (rest : List Char) (h : LiteralBody quote body) :
    literalEnd? quote false length (body ++ quote :: rest) = some (length + body.length + 1) := by
  induction h generalizing length with
  | nil => simp [literalEnd?]
  | @plain c body hc hslash _ ih =>
    simp only [List.cons_append, literalEnd?, hc, hslash, decide_false, Bool.false_eq_true,
      if_false, ih, List.length_cons, Option.some.injEq]
    omega
  | @escape c body _ ih =>
    simp only [List.cons_append, literalEnd?, hquote.symm, decide_true, Bool.false_eq_true,
      if_false, if_true, ih, List.length_cons, Option.some.injEq]
    omega

-- `escaped` says that a backslash stands right before the text, so the body is told with it.
theorem literalEnd?_eq_some {quote : Char} {escaped : Bool} {length stop : Nat} {text : List Char}
    (h : literalEnd? quote escaped length text = some stop) :
    ∃ body rest, text = body ++ quote :: rest ∧
      LiteralBody quote (if escaped then '\\' :: body else body) ∧
      stop = length + body.length + 1 := by
  fun_induction literalEnd? quote escaped length text with
  | case1 => exact absurd h (by simp)
  | case2 length c rest ih =>
    obtain ⟨body, tail, rfl, hbody, rfl⟩ := ih h
    refine ⟨c :: body, tail, rfl, .escape hbody, ?_⟩
    rw [List.length_cons]
    omega
  | case3 escaped length rest hescaped =>
    refine ⟨[], rest, rfl, ?_, (Option.some.inj h).symm⟩
    rw [if_neg hescaped]
    exact .nil
  | case4 escaped length c rest hescaped hc ih =>
    obtain ⟨body, tail, rfl, hbody, rfl⟩ := ih h
    refine ⟨c :: body, tail, rfl, ?_, ?_⟩
    · rw [if_neg hescaped]
      by_cases hslash : c = '\\'
      · simpa [hslash] using hbody
      · exact .plain hc hslash (by simpa [hslash] using hbody)
    · rw [List.length_cons]
      omega

/-! ### The construct that starts a text -/

theorem construct?_enclose {kind : SegmentKind} {interior rest : List Char}
    (hfits : kind.Fits interior) (hends : kind.EndsBefore rest) :
    construct? (kind.enclose interior ++ rest) = some (kind, (kind.enclose interior).length) := by
  rw [SegmentKind.enclose_append, SegmentKind.length_enclose]
  cases kind with
  | blockComment =>
    have hstop := commentEnd?_append 2 rest hfits
    change (commentEnd? 2 (interior ++ '*' :: '/' :: rest)).map (SegmentKind.blockComment, ·) = _
    rw [hstop, Option.map_some, Nat.add_assoc, Nat.add_left_comm]
    rfl
  | lineComment =>
    have hstop : rest.takeWhile (· ≠ '\n') = [] := by
      cases rest with
      | nil => rfl
      | cons c rest =>
        have hc : c = '\n' := hends c rfl
        simp [hc]
    have htake : (interior ++ rest).takeWhile (· ≠ '\n') = interior := by
      rw [List.takeWhile_append_of_pos, hstop, List.append_nil]
      intro c hc
      have hne : c ≠ '\n' := fun h => hfits (h ▸ hc)
      simpa using hne
    change some (SegmentKind.lineComment, 2 + ((interior ++ rest).takeWhile (· ≠ '\n')).length) = _
    rw [htake, Nat.add_comm]
    rfl
  | stringLiteral =>
    have hstop := literalEnd?_append (by decide) 1 rest hfits
    change (literalEnd? '"' false 1 (interior ++ '"' :: rest)).map (SegmentKind.stringLiteral, ·) = _
    rw [hstop, Option.map_some, Nat.add_assoc, Nat.add_left_comm]
    rfl
  | charLiteral =>
    have hstop := literalEnd?_append (by decide) 1 rest hfits
    change (literalEnd? '\'' false 1 (interior ++ '\'' :: rest)).map (SegmentKind.charLiteral, ·) = _
    rw [hstop, Option.map_some, Nat.add_assoc, Nat.add_left_comm]
    rfl
  | code => exact hfits.elim

theorem construct?_eq_some {text : List Char} {kind : SegmentKind} {length : Nat}
    (h : construct? text = some (kind, length)) :
    ∃ interior rest, text = kind.enclose interior ++ rest ∧
      length = (kind.enclose interior).length ∧ kind.Fits interior ∧ kind.EndsBefore rest := by
  simp only [SegmentKind.enclose_append, SegmentKind.length_enclose]
  unfold construct? at h
  split at h
  · obtain ⟨stop, hstop, heq⟩ := Option.map_eq_some_iff.1 h
    obtain ⟨rfl, rfl⟩ := Prod.mk.inj heq
    obtain ⟨interior, rest, rfl, hfits, rfl⟩ := commentEnd?_eq_some hstop
    refine ⟨interior, rest, rfl, ?_, hfits, trivial⟩
    rw [Nat.add_assoc, Nat.add_left_comm]
    rfl
  · rename_i rest
    obtain ⟨rfl, rfl⟩ := Prod.mk.inj (Option.some.inj h)
    refine ⟨rest.takeWhile (· ≠ '\n'), rest.dropWhile (· ≠ '\n'), ?_, Nat.add_comm _ _, ?_, ?_⟩
    · simp [SegmentKind.opening, SegmentKind.closing]
    · intro hmem
      have hne := List.all_eq_true.1 List.all_takeWhile _ hmem
      simp at hne
    · intro c hc
      have hstop := List.head?_dropWhile_not (· ≠ '\n') rest
      rw [hc] at hstop
      simpa using hstop
  · obtain ⟨stop, hstop, heq⟩ := Option.map_eq_some_iff.1 h
    obtain ⟨rfl, rfl⟩ := Prod.mk.inj heq
    obtain ⟨body, rest, rfl, hfits, rfl⟩ := literalEnd?_eq_some hstop
    refine ⟨body, rest, rfl, ?_, hfits, trivial⟩
    rw [Nat.add_assoc, Nat.add_left_comm]
    rfl
  · obtain ⟨stop, hstop, heq⟩ := Option.map_eq_some_iff.1 h
    obtain ⟨rfl, rfl⟩ := Prod.mk.inj heq
    obtain ⟨body, rest, rfl, hfits, rfl⟩ := literalEnd?_eq_some hstop
    refine ⟨body, rest, rfl, ?_, hfits, trivial⟩
    rw [Nat.add_assoc, Nat.add_left_comm]
    rfl
  · exact absurd h (by simp)

theorem construct?_eq_none_iff (text : List Char) : construct? text = none ↔ ¬ Starts text := by
  constructor
  · rintro h ⟨kind, interior, rest, rfl, hfits, hends⟩
    rw [construct?_enclose hfits hends] at h
    exact absurd h (by simp)
  · intro h
    cases hconstruct : construct? text with
    | none => rfl
    | some found =>
      obtain ⟨interior, rest, heq, -, hfits, hends⟩ := construct?_eq_some hconstruct
      exact absurd ⟨found.1, interior, rest, heq, hfits, hends⟩ h

/-! ### Divisions -/

inductive Scan : List Char → List Segment → Prop where
  | nil : Scan [] []
  | construct {kind : SegmentKind} {interior rest : List Char} {l : List Segment} :
      kind.Fits interior → kind.EndsBefore rest → Scan rest l →
      Scan (kind.enclose interior ++ rest) (⟨kind, kind.enclose interior⟩ :: l)
  | code {c : Char} {rest : List Char} {l : List Segment} :
      ¬ Starts (c :: rest) → Scan rest l → Scan (c :: rest) (⟨.code, [c]⟩ :: l)

theorem segmentsFrom_eq (done : List Segment) (skip : Nat) (text : List Char) :
    segmentsFrom done skip text = done.reverse ++ segments (text.drop skip) := by
  unfold segments
  induction text generalizing done skip with
  | nil => simp [segmentsFrom]
  | cons c rest ih =>
    cases skip with
    | succ n =>
      rw [segmentsFrom, ih, List.drop_succ_cons]
    | zero =>
      rw [segmentsFrom, List.drop_zero, segmentsFrom]
      split
      · rw [ih, ih [_], List.reverse_cons, List.append_assoc]
        rfl
      · rw [ih, ih [_], List.reverse_cons, List.append_assoc]
        rfl

theorem segments_enclose {kind : SegmentKind} {interior rest : List Char}
    (hfits : kind.Fits interior) (hends : kind.EndsBefore rest) :
    segments (kind.enclose interior ++ rest) =
      ⟨kind, kind.enclose interior⟩ :: segments rest := by
  have hconstruct := construct?_enclose hfits hends
  obtain ⟨c, tail, htext⟩ := SegmentKind.enclose_eq_cons hfits
  rw [htext, List.cons_append] at hconstruct ⊢
  have htake : (c :: (tail ++ rest)).take (c :: tail).length = c :: tail := by simp
  have hdrop : (tail ++ rest).drop ((c :: tail).length - 1) = rest := by simp
  rw [segments, segmentsFrom, hconstruct]
  dsimp only
  rw [htake, segmentsFrom_eq, hdrop]
  rfl

theorem segments_code {c : Char} {rest : List Char} (h : ¬ Starts (c :: rest)) :
    segments (c :: rest) = ⟨.code, [c]⟩ :: segments rest := by
  have hconstruct := (construct?_eq_none_iff (c :: rest)).2 h
  rw [segments, segmentsFrom, hconstruct]
  exact segmentsFrom_eq [⟨.code, [c]⟩] 0 rest

theorem scan_segments (text : List Char) : Scan text (segments text) := by
  generalize hlength : text.length = n
  induction n using Nat.strongRecOn generalizing text with
  | ind n ih =>
    subst hlength
    by_cases hstarts : Starts text
    · obtain ⟨kind, interior, rest, rfl, hfits, hends⟩ := hstarts
      obtain ⟨c, tail, htext⟩ := SegmentKind.enclose_eq_cons hfits
      have hlt : rest.length < (kind.enclose interior ++ rest).length := by
        rw [htext, List.cons_append, List.length_cons, List.length_append]
        omega
      rw [segments_enclose hfits hends]
      exact .construct hfits hends (ih rest.length hlt rest rfl)
    · cases text with
      | nil => exact .nil
      | cons c rest =>
        rw [segments_code hstarts]
        exact .code hstarts (ih rest.length (Nat.lt_succ_self _) rest rfl)

theorem Scan.eq_segments {text : List Char} {l : List Segment} (h : Scan text l) :
    l = segments text := by
  induction h with
  | nil => rfl
  | construct hfits hends _ ih => rw [segments_enclose hfits hends, ih]
  | code hstarts _ ih => rw [segments_code hstarts, ih]

def joined (l : List Segment) : List Char := l.flatMap Segment.text

theorem joined_cons (s : Segment) (l : List Segment) : joined (s :: l) = s.text ++ joined l :=
  List.flatMap_cons

theorem joined_append (l l' : List Segment) : joined (l ++ l') = joined l ++ joined l' :=
  List.flatMap_append

theorem Scan.joined_eq {text : List Char} {l : List Segment} (h : Scan text l) :
    joined l = text := by
  induction h with
  | nil => rfl
  | construct _ _ _ ih => rw [joined_cons, ih]
  | code _ _ ih =>
    rw [joined_cons, ih]
    rfl

/-! ### Interiors -/

/-- Whether the opening of a construct is left as code nowhere: no quote and no `/*`. -/
def AllClosed (l : List Segment) : Prop :=
  ⟨.code, ['"']⟩ ∉ l ∧ ⟨.code, ['\'']⟩ ∉ l ∧ ¬ [⟨.code, ['/']⟩, ⟨.code, ['*']⟩] <:+: l

theorem AllClosed.tail {s : Segment} {l : List Segment} (h : AllClosed (s :: l)) : AllClosed l :=
  ⟨fun hmem => h.1 (List.mem_cons_of_mem s hmem), fun hmem => h.2.1 (List.mem_cons_of_mem s hmem),
    fun hinfix => h.2.2 (List.infix_cons hinfix)⟩

theorem Scan.of_star {rest : List Char} {l : List Segment} (h : Scan ('*' :: rest) l) :
    ∃ l', l = ⟨.code, ['*']⟩ :: l' := by
  generalize htext : '*' :: rest = text at h
  cases h with
  | nil => exact absurd htext (by simp)
  | @construct kind interior _ _ hfits _ _ =>
    cases kind with
    | code => exact hfits.elim
    | _ => exact absurd (List.cons.inj htext).1 (by decide)
  | code _ _ =>
    obtain ⟨rfl, -⟩ := List.cons.inj htext
    exact ⟨_, rfl⟩

/-- Behind a character that leaves nothing open, only the next character tells whether a construct
starts. -/
theorem not_starts_of_head {c : Char} {rest rest' : List Char} (hstring : c ≠ '"')
    (hchar : c ≠ '\'') (hblock : c = '/' → rest.head? ≠ some '*')
    (hhead : rest'.head? = rest.head?) (h : ¬ Starts (c :: rest)) : ¬ Starts (c :: rest') := by
  rintro ⟨kind, interior, tail, htext, hfits, -⟩
  obtain ⟨hc, hrest⟩ : (c :: rest').head? = (kind.enclose interior ++ tail).head? ∧
      rest' = (kind.enclose interior ++ tail).tail := by rw [← htext]; exact ⟨rfl, rfl⟩
  cases kind with
  | blockComment =>
    refine hblock (Option.some.inj hc) ?_
    rw [← hhead, hrest]
    rfl
  | lineComment =>
    have hslash : rest.head? = some '/' := by
      rw [← hhead, hrest]
      rfl
    obtain ⟨rest, rfl⟩ := List.head?_eq_some_iff.1 hslash
    obtain rfl := Option.some.inj hc
    have hnone := (construct?_eq_none_iff _).2 h
    exact absurd hnone (by simp [construct?])
  | stringLiteral => exact hstring (Option.some.inj hc)
  | charLiteral => exact hchar (Option.some.inj hc)
  | code => exact hfits.elim

theorem head?_joined (s s' : Segment) (before after : List Segment)
    (h : s'.text.head? = s.text.head?) :
    (joined (before ++ s' :: after)).head? = (joined (before ++ s :: after)).head? := by
  simp [joined, List.head?_append, h]

theorem Scan.enclosed {text : List Char} {l : List Segment} {s : Segment} (h : Scan text l)
    (hs : s ∈ l) (hkind : s.kind ≠ .code) :
    ∃ interior, s.kind.Fits interior ∧ s.text = s.kind.enclose interior := by
  induction h with
  | nil => exact absurd hs (by simp)
  | @construct kind interior rest l hfits _ _ ih =>
    rcases List.mem_cons.1 hs with rfl | hs
    · exact ⟨interior, hfits, rfl⟩
    · exact ih hs
  | code _ _ ih =>
    rcases List.mem_cons.1 hs with rfl | hs
    · exact absurd rfl hkind
    · exact ih hs

/-- A construct with another interior that fits there leaves the other segments as they are. -/
theorem Scan.replace {text : List Char} {before after : List Segment} {s : Segment}
    (h : Scan text (before ++ s :: after)) (hclosed : AllClosed (before ++ s :: after))
    {interior : List Char} (hfits : s.kind.Fits interior) :
    Scan (joined (before ++ ⟨s.kind, s.kind.enclose interior⟩ :: after))
      (before ++ ⟨s.kind, s.kind.enclose interior⟩ :: after) := by
  -- The scan of the new text follows that of the old one segment by segment up to the construct:
  -- what comes behind a segment starts with the same character in both.
  have hs : s.kind ≠ .code := hfits.ne_code
  obtain ⟨old, -, hold⟩ := h.enclosed (List.mem_append_right before List.mem_cons_self) hs
  have hopening : (s.kind.enclose interior).head? = s.text.head? := by
    rw [hold]
    exact SegmentKind.head?_enclose hfits old
  induction before generalizing text with
  | nil =>
    cases h with
    | construct _ hends hrest =>
      rw [List.nil_append, joined_cons, hrest.joined_eq]
      exact .construct hfits hends hrest
    | code _ _ => exact absurd rfl hs
  | cons b before ih =>
    have hhead := head?_joined s ⟨s.kind, s.kind.enclose interior⟩ before after hopening
    rw [List.cons_append] at h hclosed
    cases h with
    | construct hb hends hrest =>
      have hscan := ih hrest hclosed.tail
      rw [hrest.joined_eq] at hhead
      rw [List.cons_append, joined_cons]
      exact .construct hb (hends.of_head hhead) hscan
    | @code c rest _ hstarts hrest =>
      have hscan := ih hrest hclosed.tail
      rw [hrest.joined_eq] at hhead
      rw [List.cons_append, joined_cons]
      refine .code (not_starts_of_head ?_ ?_ ?_ hhead hstarts) hscan
      · rintro rfl
        exact hclosed.1 List.mem_cons_self
      · rintro rfl
        exact hclosed.2.1 List.mem_cons_self
      · rintro rfl hstar
        obtain ⟨tail, rfl⟩ := List.head?_eq_some_iff.1 hstar
        obtain ⟨l, hl⟩ := hrest.of_star
        exact hclosed.2.2 ⟨[], l, by rw [hl]; rfl⟩

/-- The normalized text does not show what stands inside a construct. -/
theorem normalize_replace {text : List Char} {before after : List Segment} {s : Segment}
    (h : segments text = before ++ s :: after) (hclosed : AllClosed (segments text))
    {interior : List Char} (hfits : s.kind.Fits interior) :
    segments (joined (before ++ ⟨s.kind, s.kind.enclose interior⟩ :: after)) =
        before ++ ⟨s.kind, s.kind.enclose interior⟩ :: after ∧
      normalize (joined (before ++ ⟨s.kind, s.kind.enclose interior⟩ :: after)) =
        normalize text := by
  have hscan := scan_segments text
  rw [h] at hscan hclosed
  have hnew := (hscan.replace hclosed hfits).eq_segments
  refine ⟨hnew.symm, ?_⟩
  have hreplacement :
      Segment.replacement ⟨s.kind, s.kind.enclose interior⟩ = s.replacement := by
    unfold Segment.replacement
    cases hkind : s.kind with
    | code => exact absurd hkind hfits.ne_code
    | _ => rfl
  unfold normalize
  rw [← hnew, h, List.flatMap_append, List.flatMap_append, List.flatMap_cons, List.flatMap_cons,
    hreplacement]

end TagAudit.Source
