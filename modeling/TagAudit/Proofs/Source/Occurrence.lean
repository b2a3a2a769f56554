import TagAudit.Source.Occurrence

/-!
# Occurrences in a text that goes on

A phrase is read from the start of a text part by part. What is read there stays when more text
follows, and it stays the same unless it reached the end. More text may also complete a phrase that
was cut off by the end. Such a phrase takes nothing away when no phrase that starts inside another
one ends before it: then every phrase that would be lost would have to reach beyond the end as well.
So the number of occurrences of phrases of this kind never falls when text is added.
-/

namespace TagAudit.Source

/-! ### Spans -/

theorem spanLength_le (p : Char → Bool) (s : List Char) : spanLength p s ≤ s.length :=
  (List.takeWhile_prefix p).length_le

theorem spanLength_append (p : Char → Bool) (s t : List Char) :
    spanLength p (s ++ t) =
      if spanLength p s = s.length then s.length + spanLength p t else spanLength p s := by
  unfold spanLength
  rw [List.takeWhile_append]
  split
  · rw [List.length_append]
  · rfl

theorem spanLength_append_of_lt {p : Char → Bool} {s : List Char} (h : spanLength p s < s.length)
    (t : List Char) : spanLength p (s ++ t) = spanLength p s := by
  rw [spanLength_append, if_neg (by omega)]

theorem spanLength_of_append_le {p : Char → Bool} {s t : List Char}
    (h : spanLength p (s ++ t) ≤ s.length) : spanLength p s = spanLength p (s ++ t) := by
  rw [spanLength_append] at h ⊢
  split
  · rename_i hall
    rw [if_pos hall] at h
    omega
  · rfl

theorem of_mem_take_spanLength {p : Char → Bool} {s : List Char} {c : Char}
    (h : c ∈ s.take (spanLength p s)) : p c = true := by
  unfold spanLength at h
  rw [← List.prefix_iff_eq_take.1 (List.takeWhile_prefix p)] at h
  exact List.all_eq_true.1 List.all_takeWhile c h

/-! ### Readers -/

/-- A reader of the start of a text whose finds stay when text is added. A find changes only when it
reached the end before, and one that ends within the shorter text was there before. -/
structure Steady (read : List Char → Option Nat) : Prop where
  bounds : ∀ {s : List Char} {n : Nat}, read s = some n → 0 < n ∧ n ≤ s.length
  kept : ∀ {s : List Char} {n : Nat}, read s = some n → ∀ t,
    ∃ m, read (s ++ t) = some m ∧ (n < s.length → m = n)
  cut : ∀ {s t : List Char} {n : Nat}, read (s ++ t) = some n → n ≤ s.length → read s = some n

def inRow (first next : List Char → Option Nat) (text : List Char) : Option Nat :=
  followedBy (first text) next text

def afterSpan (p : Char → Bool) (read : List Char → Option Nat) (text : List Char) : Option Nat :=
  (read (text.drop (spanLength p text))).map (spanLength p text + ·)

theorem literally_eq_some_iff (word s : List Char) (n : Nat) :
    literally word s = some n ↔ word <+: s ∧ n = word.length := by
  unfold literally
  rw [← List.isPrefixOf_iff_prefix]
  cases word.isPrefixOf s with
  | true => simp [eq_comm]
  | false => simp

theorem inRow_eq_some_iff (first next : List Char → Option Nat) (s : List Char) (k : Nat) :
    inRow first next s = some k ↔
      ∃ n m, first s = some n ∧ next (s.drop n) = some m ∧ k = n + m := by
  unfold inRow followedBy
  cases first s with
  | none => simp
  | some n => simp [eq_comm]

theorem afterSpan_eq_some_iff (p : Char → Bool) (read : List Char → Option Nat) (s : List Char)
    (k : Nat) :
    afterSpan p read s = some k ↔
      ∃ m, read (s.drop (spanLength p s)) = some m ∧ k = spanLength p s + m := by
  unfold afterSpan
  rw [Option.map_eq_some_iff]
  simp only [eq_comm]

theorem steady_literally {word : List Char} (hword : word ≠ []) : Steady (literally word) where
  bounds := by
    intro s n h
    obtain ⟨hpre, rfl⟩ := (literally_eq_some_iff word s n).1 h
    exact ⟨List.length_pos_iff.2 hword, hpre.length_le⟩
  kept := by
    intro s n h t
    obtain ⟨hpre, rfl⟩ := (literally_eq_some_iff word s n).1 h
    refine ⟨word.length, (literally_eq_some_iff _ _ _).2 ⟨?_, rfl⟩, fun _ => rfl⟩
    exact hpre.trans (List.prefix_append s t)
  cut := by
    intro s t n h hle
    obtain ⟨hpre, rfl⟩ := (literally_eq_some_iff word (s ++ t) n).1 h
    refine (literally_eq_some_iff _ _ _).2 ⟨?_, rfl⟩
    exact List.prefix_of_prefix_length_le hpre (List.prefix_append s t) hle

theorem someOf_eq_some_iff (p : Char → Bool) (s : List Char) (n : Nat) :
    someOf p s = some n ↔ 0 < n ∧ spanLength p s = n := by
  unfold someOf
  cases hspan : spanLength p s with
  | zero =>
    simp only [reduceCtorEq, false_iff]
    omega
  | succ k =>
    simp only [Option.some.injEq]
    omega

theorem steady_someOf (p : Char → Bool) : Steady (someOf p) where
  bounds := by
    intro s n h
    obtain ⟨hpos, rfl⟩ := (someOf_eq_some_iff p s n).1 h
    exact ⟨hpos, spanLength_le p s⟩
  kept := by
    intro s n h t
    obtain ⟨hpos, rfl⟩ := (someOf_eq_some_iff p s n).1 h
    refine ⟨spanLength p (s ++ t), (someOf_eq_some_iff _ _ _).2 ⟨?_, rfl⟩, ?_⟩
    · rw [spanLength_append]
      split <;> omega
    · exact fun hlt => spanLength_append_of_lt hlt t
  cut := by
    intro s t n h hle
    obtain ⟨hpos, rfl⟩ := (someOf_eq_some_iff p (s ++ t) n).1 h
    exact (someOf_eq_some_iff _ _ _).2 ⟨hpos, spanLength_of_append_le hle⟩

theorem Steady.inRow {first next : List Char → Option Nat} (hfirst : Steady first)
    (hnext : Steady next) : Steady (inRow first next) where
  bounds := by
    intro s k h
    obtain ⟨n, m, hn, hm, rfl⟩ := (inRow_eq_some_iff first next s k).1 h
    have hbound := hfirst.bounds hn
    have hrest := hnext.bounds hm
    rw [List.length_drop] at hrest
    omega
  kept := by
    intro s k h t
    obtain ⟨n, m, hn, hm, rfl⟩ := (inRow_eq_some_iff first next s k).1 h
    have hrest := hnext.bounds hm
    rw [List.length_drop] at hrest
    obtain ⟨n', hn', hsame⟩ := hfirst.kept hn t
    obtain rfl : n' = n := hsame (by omega)
    obtain ⟨m', hm', hsame'⟩ := hnext.kept hm t
    rw [← List.drop_append_of_le_length (by omega)] at hm'
    refine ⟨n' + m', (inRow_eq_some_iff _ _ _ _).2 ⟨n', m', hn', hm', rfl⟩, ?_⟩
    intro hlt
    rw [hsame' (by rw [List.length_drop]; omega)]
  cut := by
    intro s t k h hle
    obtain ⟨n, m, hn, hm, rfl⟩ := (inRow_eq_some_iff first next (s ++ t) k).1 h
    rw [List.drop_append_of_le_length (by omega)] at hm
    refine (inRow_eq_some_iff _ _ _ _).2 ⟨n, m, hfirst.cut hn (by omega), ?_, rfl⟩
    exact hnext.cut hm (by rw [List.length_drop]; omega)

theorem Steady.afterSpan {read : List Char → Option Nat} (hread : Steady read) (p : Char → Bool) :
    Steady (afterSpan p read) where
  bounds := by
    intro s k h
    obtain ⟨m, hm, rfl⟩ := (afterSpan_eq_some_iff p read s k).1 h
    have hbound := hread.bounds hm
    rw [List.length_drop] at hbound
    omega
  kept := by
    intro s k h t
    obtain ⟨m, hm, rfl⟩ := (afterSpan_eq_some_iff p read s k).1 h
    have hbound := hread.bounds hm
    rw [List.length_drop] at hbound
    have hspan : spanLength p (s ++ t) = spanLength p s := spanLength_append_of_lt (by omega) t
    obtain ⟨m', hm', hsame⟩ := hread.kept hm t
    rw [← List.drop_append_of_le_length (by omega), ← hspan] at hm'
    refine ⟨_, (afterSpan_eq_some_iff _ _ _ _).2 ⟨m', hm', rfl⟩, ?_⟩
    intro hlt
    rw [hspan, hsame (by rw [List.length_drop]; omega)]
  cut := by
    intro s t k h hle
    obtain ⟨m, hm, rfl⟩ := (afterSpan_eq_some_iff p read (s ++ t) k).1 h
    have hspan : spanLength p s = spanLength p (s ++ t) := spanLength_of_append_le (by omega)
    rw [← hspan] at hm hle ⊢
    rw [List.drop_append_of_le_length (spanLength_le p s)] at hm
    refine (afterSpan_eq_some_iff _ _ _ _).2 ⟨m, hread.cut hm ?_, rfl⟩
    rw [List.length_drop]
    omega

/-- Two readers that never both find something make one reader. -/
theorem Steady.or {first second : List Char → Option Nat} (hfirst : Steady first)
    (hsecond : Steady second) (hapart : ∀ s, first s = none ∨ second s = none) :
    Steady fun s => (first s).or (second s) where
  bounds := by
    intro s n h
    rcases Option.or_eq_some_iff.1 h with h | ⟨-, h⟩
    · exact hfirst.bounds h
    · exact hsecond.bounds h
  kept := by
    intro s n h t
    rcases Option.or_eq_some_iff.1 h with h | ⟨-, h⟩
    · obtain ⟨m, hm, hsame⟩ := hfirst.kept h t
      exact ⟨m, Option.or_eq_some_iff.2 (.inl hm), hsame⟩
    · obtain ⟨m, hm, hsame⟩ := hsecond.kept h t
      have hnone : first (s ++ t) = none := (hapart (s ++ t)).resolve_right (by simp [hm])
      exact ⟨m, Option.or_eq_some_iff.2 (.inr ⟨hnone, hm⟩), hsame⟩
  cut := by
    intro s t n h hle
    rcases Option.or_eq_some_iff.1 h with h | ⟨-, h⟩
    · exact Option.or_eq_some_iff.2 (.inl (hfirst.cut h hle))
    · have hcut := hsecond.cut h hle
      have hnone : first s = none := (hapart s).resolve_right (by simp [hcut])
      exact Option.or_eq_some_iff.2 (.inr ⟨hnone, hcut⟩)

theorem literally_apart {word word' : List Char} (h : ¬ word <+: word') (h' : ¬ word' <+: word)
    (s : List Char) : literally word s = none ∨ literally word' s = none := by
  cases hs : literally word s with
  | none => exact .inl rfl
  | some n =>
    cases hs' : literally word' s with
    | none => exact .inr rfl
    | some n' =>
      have hpre := ((literally_eq_some_iff word s n).1 hs).1
      have hpre' := ((literally_eq_some_iff word' s n').1 hs').1
      rcases List.prefix_or_prefix_of_prefix hpre hpre' with hp | hp
      · exact absurd hp h
      · exact absurd hp h'

theorem Steady.guarded {read : List Char → Option Nat} (hread : Steady read) (b : Bool) :
    Steady fun s => if b then read s else none := by
  cases b with
  | true => exact hread
  | false =>
    have hnone : ∀ {n : Nat}, (none : Option Nat) ≠ some n := by simp
    exact ⟨fun h => absurd h hnone, fun h => absurd h hnone, fun h => absurd h hnone⟩

/-! ### The words that readers take -/

def Reads (read : List Char → Option Nat) (Word : List Char → Prop) : Prop :=
  ∀ ⦃s n⦄, read s = some n → Word (s.take n)

theorem reads_literally (word : List Char) : Reads (literally word) (· = word) := by
  intro s n h
  obtain ⟨hpre, rfl⟩ := (literally_eq_some_iff word s n).1 h
  exact (List.prefix_iff_eq_take.1 hpre).symm

theorem reads_someOf (p : Char → Bool) : Reads (someOf p) (∀ c ∈ ·, p c = true) := by
  intro s n h c hc
  obtain ⟨-, rfl⟩ := (someOf_eq_some_iff p s n).1 h
  exact of_mem_take_spanLength hc

section Readers

variable {first next read : List Char → Option Nat} {U V W : List Char → Prop}

theorem Reads.imp (h : Reads read U) (himp : ∀ w, U w → V w) : Reads read V :=
  fun _ _ hread => himp _ (h hread)

theorem Reads.inRow (hfirst : Reads first U) (hnext : Reads next V)
    (happend : ∀ u v, U u → V v → W (u ++ v)) : Reads (inRow first next) W := by
  intro s k h
  obtain ⟨n, m, hn, hm, rfl⟩ := (inRow_eq_some_iff first next s k).1 h
  rw [List.take_add]
  exact happend _ _ (hfirst hn) (hnext hm)

theorem Reads.afterSpan (hread : Reads read V) (p : Char → Bool)
    (happend : ∀ u v, (∀ c ∈ u, p c = true) → V v → W (u ++ v)) : Reads (afterSpan p read) W := by
  intro s k h
  obtain ⟨m, hm, rfl⟩ := (afterSpan_eq_some_iff p read s k).1 h
  rw [List.take_add]
  exact happend _ _ (fun c hc => of_mem_take_spanLength hc) (hread hm)

theorem Reads.avoiding {c : Char} (hfirst : Reads first (c ∉ ·)) (hnext : Reads next (c ∉ ·)) :
    Reads (Source.inRow first next) (c ∉ ·) :=
  hfirst.inRow hnext fun _ _ hu hv hm => (List.mem_append.1 hm).elim hu hv

theorem Reads.or (hfirst : Reads first U) (hnext : Reads next V) :
    Reads (fun s => (first s).or (next s)) fun w => U w ∨ V w := by
  intro s n h
  rcases Option.or_eq_some_iff.1 h with h | ⟨-, h⟩
  · exact .inl (hfirst h)
  · exact .inr (hnext h)

theorem Reads.guarded (hread : Reads read U) (b : Bool) :
    Reads (fun s => if b then read s else none) U := by
  cases b with
  | true => exact hread
  | false => exact fun _ _ h => absurd h (by simp)

end Readers

theorem avoids_literally {c : Char} {word : List Char} (h : c ∉ word) :
    Reads (literally word) (c ∉ ·) :=
  (reads_literally word).imp fun _ hw => hw ▸ h

theorem avoids_someOf {c : Char} {p : Char → Bool} (h : p c = false) :
    Reads (someOf p) (c ∉ ·) := by
  refine (reads_someOf p).imp ?_
  intro w hw hm
  rw [hw c hm] at h
  contradiction

/-! ### Counting -/

/-- The number of occurrences that start in a text of which `skip` characters are taken already. -/
def countFrom (r : Recognizer) (before : Option Char) (skip : Nat) (text : List Char) : Nat :=
  (endsFrom r before 0 skip [] text).length

section Counting

variable {r : Recognizer}

theorem length_endsFrom (before : Option Char) (offset skip : Nat) (done : List Nat)
    (text : List Char) :
    (endsFrom r before offset skip done text).length =
      done.length + countFrom r before skip text := by
  unfold countFrom
  suffices h : ∀ offset' done',
      (endsFrom r before offset skip done text).length + done'.length =
        (endsFrom r before offset' skip done' text).length + done.length by
    have := h 0 []
    rw [List.length_nil] at this
    omega
  induction text generalizing before offset skip done with
  | nil =>
    intro offset' done'
    rw [endsFrom, endsFrom, List.length_reverse, List.length_reverse]
    omega
  | cons c rest ih =>
    intro offset' done'
    cases skip with
    | succ n =>
      rw [endsFrom, endsFrom]
      exact ih _ _ _ _ _ _
    | zero =>
      rw [endsFrom, endsFrom]
      cases r before (c :: rest) with
      | none => exact ih _ _ _ _ _ _
      | some n =>
        have := ih (some c) (offset + 1) (n - 1) ((offset + n) :: done) (offset' + 1)
          ((offset' + n) :: done')
        simp only [List.length_cons] at this ⊢
        omega

theorem countFrom_skip (before : Option Char) (n : Nat) (c : Char) (rest : List Char) :
    countFrom r before (n + 1) (c :: rest) = countFrom r (some c) n rest := by
  rw [countFrom, endsFrom, length_endsFrom, List.length_nil, Nat.zero_add]

theorem countFrom_found {before : Option Char} {c : Char} {rest : List Char} {n : Nat}
    (h : r before (c :: rest) = some n) :
    countFrom r before 0 (c :: rest) = countFrom r (some c) (n - 1) rest + 1 := by
  rw [countFrom, endsFrom, h]
  dsimp only
  rw [length_endsFrom, List.length_singleton, Nat.add_comm]

theorem countFrom_missed {before : Option Char} {c : Char} {rest : List Char}
    (h : r before (c :: rest) = none) :
    countFrom r before 0 (c :: rest) = countFrom r (some c) 0 rest := by
  rw [countFrom, endsFrom, h]
  dsimp only
  rw [length_endsFrom, List.length_nil, Nat.zero_add]

theorem countFrom_of_taken {skip : Nat} {text : List Char} (h : text.length ≤ skip)
    (before : Option Char) : countFrom r before skip text = 0 := by
  induction text generalizing before skip with
  | nil => rfl
  | cons c rest ih =>
    rw [List.length_cons] at h
    cases skip with
    | zero => omega
    | succ n =>
      rw [countFrom_skip]
      exact ih (by omega) (some c)

theorem countFrom_of_none {text : List Char}
    (h : ∀ before rest, rest <:+ text → r before rest = none) (before : Option Char) :
    countFrom r before 0 text = 0 := by
  induction text generalizing before with
  | nil => rfl
  | cons c rest ih =>
    rw [countFrom_missed (h before (c :: rest) List.suffix_rfl)]
    exact ih (fun before' rest' hrest => h before' rest' (hrest.trans (List.suffix_cons c rest))) _

end Counting

/-! ### Recognizers whose occurrences only grow in number -/

/-- A recognizer of words of which none that starts inside another one ends before it. -/
structure Growing (r : Recognizer) (Word : List Char → Prop) : Prop where
  steady : ∀ before, Steady (r before)
  reads : ∀ before, Reads (r before) Word
  inner : ∀ {x w y : List Char}, Word (x ++ w ++ y) → Word w → x ≠ [] → y = []

theorem Growing.ofReader {read : List Char → Option Nat} {Word : List Char → Prop}
    (hsteady : Steady read) (hreads : Reads read Word)
    (hinner : ∀ {x w y : List Char}, Word (x ++ w ++ y) → Word w → x ≠ [] → y = []) :
    Growing (fun _ => read) Word :=
  ⟨fun _ => hsteady, fun _ => hreads, hinner⟩

theorem Growing.ofWordStart {read : List Char → Option Nat} {Word : List Char → Prop}
    (hsteady : Steady read) (hreads : Reads read Word)
    (hinner : ∀ {x w y : List Char}, Word (x ++ w ++ y) → Word w → x ≠ [] → y = []) :
    Growing (fun before text => if atWordStart before then read text else none) Word :=
  ⟨fun before => hsteady.guarded (atWordStart before),
    fun before => hreads.guarded (atWordStart before), hinner⟩

namespace Growing

variable {r : Recognizer} {Word : List Char → Prop}

/-- A word that more text completes hides no word of the shorter text. -/
theorem none_of_completed (h : Growing r Word) {before : Option Char} {c : Char}
    {rest t : List Char} {n : Nat} (hshort : r before (c :: rest) = none)
    (hlong : r before (c :: rest ++ t) = some n) (before' : Option Char) {later : List Char}
    (hlater : later <:+ rest) : r before' later = none := by
  cases hfound : r before' later with
  | none => rfl
  | some m =>
    have hbeyond : (c :: rest).length < n := by
      refine Nat.lt_of_not_le fun hwithin => ?_
      have hcut := (h.steady before).cut hlong hwithin
      rw [hshort] at hcut
      contradiction
    obtain ⟨skipped, rfl⟩ := hlater
    have hbounds := (h.steady before').bounds hfound
    have hlength := ((h.steady before).bounds hlong).2
    -- The completed word is what it skips, the word inside, the rest of the text and some more.
    have hsplit : (c :: (skipped ++ later) ++ t).take n =
        (c :: skipped) ++ later.take m ++
          (later.drop m ++ t.take (n - (c :: (skipped ++ later)).length)) := by
      rw [List.take_append, List.take_of_length_le (by omega), ← List.append_assoc,
        List.append_assoc _ _ (later.drop m), List.take_append_drop]
      rfl
    have hword := h.reads before hlong
    rw [hsplit] at hword
    have hnil := h.inner hword (h.reads before' hfound) (by simp)
    have hlen := congrArg List.length hnil
    rw [List.length_append, List.length_take, List.length_nil] at hlen
    rw [List.length_append] at hlength
    omega

theorem countFrom_le (h : Growing r Word) (s t : List Char) (before : Option Char) (skip : Nat) :
    countFrom r before skip s ≤ countFrom r before skip (s ++ t) := by
  induction s generalizing before skip with
  | nil => exact Nat.zero_le _
  | cons c rest ih =>
    cases skip with
    | succ n =>
      rw [List.cons_append, countFrom_skip, countFrom_skip]
      exact ih (some c) n
    | zero =>
      cases hshort : r before (c :: rest) with
      | some n =>
        obtain ⟨m, hm, hsame⟩ := (h.steady before).kept hshort t
        rw [List.cons_append] at hm ⊢
        rw [countFrom_found hshort, countFrom_found hm]
        by_cases hend : n < (c :: rest).length
        · rw [hsame hend]
          exact Nat.succ_le_succ (ih (some c) (n - 1))
        · -- A find that reaches the end leaves nothing behind it.
          rw [List.length_cons] at hend
          rw [countFrom_of_taken (by omega)]
          omega
      | none =>
        cases hlong : r before (c :: rest ++ t) with
        | none =>
          rw [List.cons_append] at hlong ⊢
          rw [countFrom_missed hshort, countFrom_missed hlong]
          exact ih (some c) 0
        | some n =>
          rw [countFrom_missed hshort, countFrom_of_none]
          · exact Nat.zero_le _
          · intro before' later hlater
            exact h.none_of_completed hshort hlong before' hlater

theorem occurrences_le (h : Growing r Word) (s t : List Char) :
    occurrences r s ≤ occurrences r (s ++ t) :=
  h.countFrom_le s t none 0

end Growing

end TagAudit.Source
