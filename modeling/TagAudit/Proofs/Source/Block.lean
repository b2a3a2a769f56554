import Mathlib.Data.List.Infix
import Mathlib.Order.Interval.Set.Basic
import TagAudit.Proofs.Source.Growth
import TagAudit.Source.Block

/-!
# Blocks in braces (`extract_block`)

A block is closed by the first brace before which as many braces were closed as opened, so its body
is balanced and no initial part of it closes more than it opens. Two blocks never cross: a block
that opens inside another one and closes behind it would leave a brace open in a balanced body.
-/

namespace TagAudit.Source

/-! ### Balanced texts -/

/-- As many closing marks as opening ones, and in no initial part more of them. -/
def Balanced (opening closing : Char) (text : List Char) : Prop :=
  text.count closing = text.count opening ∧
    ∀ start, start <+: text → start.count closing ≤ start.count opening

instance (opening closing : Char) (text : List Char) : Decidable (Balanced opening closing text) :=
  decidable_of_iff (text.count closing = text.count opening ∧
      ∀ start ∈ text.inits, start.count closing ≤ start.count opening)
    (and_congr_right fun _ => forall_congr' fun start =>
      imp_congr (List.mem_inits start text) Iff.rfl)

/-- Of `depth` open marks the text leaves one open at its end, and one or more on its way. -/
def LeavesOne (opening closing : Char) (depth : Nat) (text : List Char) : Prop :=
  text.count closing + 1 = text.count opening + depth ∧
    ∀ start, start <+: text → start.count closing < start.count opening + depth

theorem leavesOne_one_iff (opening closing : Char) (text : List Char) :
    LeavesOne opening closing 1 text ↔ Balanced opening closing text := by
  simp only [LeavesOne, Balanced, Nat.add_right_cancel_iff, Nat.lt_add_one_iff]

theorem forall_start_cons_iff {P : List Char → Prop} {c : Char} {text : List Char} :
    (∀ start, start <+: c :: text → P start) ↔ P [] ∧ ∀ start, start <+: text → P (c :: start) := by
  constructor
  · intro h
    exact ⟨h [] List.nil_prefix, fun start hstart => h _ (List.cons_prefix_cons.2 ⟨rfl, hstart⟩)⟩
  · rintro ⟨hnil, hcons⟩ start hstart
    cases start with
    | nil => exact hnil
    | cons d start =>
      obtain ⟨rfl, hrest⟩ := List.cons_prefix_cons.1 hstart
      exact hcons start hrest

section Marks

variable {opening closing : Char} {depth : Nat}

theorem leavesOne_nil_iff : LeavesOne opening closing depth [] ↔ depth = 1 := by
  simp only [LeavesOne, List.prefix_nil, forall_eq, List.count_nil]
  omega

/-- Reading one character takes the open marks from `depth` to `next`. -/
theorem leavesOne_cons_iff {c : Char} {next : Nat} (hdepth : 0 < depth)
    (hnext : ∀ text : List Char, (c :: text).count opening + depth + text.count closing =
      text.count opening + next + (c :: text).count closing) (text : List Char) :
    LeavesOne opening closing depth (c :: text) ↔ LeavesOne opening closing next text := by
  have hempty : ([] : List Char).count closing < ([] : List Char).count opening + depth := by
    rw [List.count_nil, List.count_nil]
    omega
  rw [LeavesOne, LeavesOne, forall_start_cons_iff, and_iff_right hempty]
  refine and_congr ?_ (forall_congr' fun start => imp_congr_right fun _ => ?_)
  · have := hnext text
    omega
  · have := hnext start
    omega

theorem not_leavesOne_closing (hne : opening ≠ closing) (text : List Char) :
    ¬ LeavesOne opening closing 1 (closing :: text) := by
  intro h
  have hfirst := h.2 [closing] (by simp)
  rw [List.count_singleton_self, List.count_singleton] at hfirst
  simp [Ne.symm hne] at hfirst

/-- The search for the closing mark ends at the first one that leaves no mark open. -/
theorem closingFrom_eq_some_iff (hne : opening ≠ closing) (hdepth : 0 < depth) (offset : Nat)
    (text : List Char) (n : Nat) :
    closingFrom opening closing depth offset text = some n ↔
      ∃ k, n = offset + k ∧ text[k]? = some closing ∧
        LeavesOne opening closing depth (text.take k) := by
  induction text generalizing depth offset with
  | nil => simp [closingFrom]
  | cons c rest ih =>
    -- Behind the first character the search goes on with the marks that are open then.
    have hgo : ∀ next, 0 < next →
        (∀ text : List Char, (c :: text).count opening + depth + text.count closing =
          text.count opening + next + (c :: text).count closing) →
        (closingFrom opening closing next (offset + 1) rest = some n ↔
          ∃ k, n = offset + (k + 1) ∧ (c :: rest)[k + 1]? = some closing ∧
            LeavesOne opening closing depth ((c :: rest).take (k + 1))) := by
      intro next hpos hnext
      rw [ih hpos]
      refine exists_congr fun k => ?_
      rw [List.getElem?_cons_succ, List.take_succ_cons, leavesOne_cons_iff hdepth hnext,
        Nat.add_assoc, Nat.add_comm 1 k]
    rw [closingFrom, ← Nat.or_exists_add_one, List.getElem?_cons_zero, List.take_zero,
      leavesOne_nil_iff]
    by_cases hopening : c = opening
    · subst hopening
      rw [if_pos rfl, hgo (depth + 1) (by omega)]
      · simp [hne]
      · intro text
        rw [List.count_cons_self, List.count_cons_of_ne hne]
        omega
    · rw [if_neg hopening]
      by_cases hclosing : c = closing
      · subst hclosing
        rw [if_pos rfl]
        by_cases hone : depth ≤ 1
        · obtain rfl : depth = 1 := by omega
          simp [not_leavesOne_closing hne, eq_comm]
        · rw [if_neg hone, hgo (depth - 1) (by omega)]
          · exact (or_iff_right fun h => hone (Nat.le_of_eq h.2.2)).symm
          · intro text
            rw [List.count_cons_self, List.count_cons_of_ne (Ne.symm hne)]
            omega
      · rw [if_neg hclosing, hgo depth hdepth]
        · simp [hclosing]
        · intro text
          rw [List.count_cons_of_ne hopening, List.count_cons_of_ne hclosing]

end Marks

theorem closingBrace_eq_some_iff (text : List Char) (n : Nat) :
    closingBrace text = some n ↔
      text[n]? = some '\x7d' ∧ Balanced '\x7b' '\x7d' (text.take n) := by
  rw [closingBrace, closingFrom_eq_some_iff (by decide) Nat.one_pos]
  simp only [Nat.zero_add, exists_eq_left', leavesOne_one_iff]

/-! ### Blocks -/

/-- A brace that closes a block: it stands not before the start of the body, and the body up to it
is balanced. -/
def ClosesAt (text : List Char) (start close : Nat) : Prop :=
  start ≤ close ∧ text[close]? = some '\x7d' ∧
    Balanced '\x7b' '\x7d' (text.extract start close)

instance (text : List Char) (start close : Nat) : Decidable (ClosesAt text start close) :=
  inferInstanceAs (Decidable (_ ∧ _))

theorem blockAt_eq_some_iff (text : List Char) (start : Nat) (block : Block) :
    blockAt text start = some block ↔
      ClosesAt text start block.close ∧ block.body = text.extract start block.close := by
  obtain ⟨body, close⟩ := block
  simp only [blockAt, Option.map_eq_some_iff, closingBrace_eq_some_iff, List.getElem?_drop,
    Block.mk.injEq, ClosesAt, List.extract_eq_take_drop]
  constructor
  · rintro ⟨n, ⟨hclose, hbalanced⟩, rfl, rfl⟩
    rw [Nat.add_sub_cancel_left]
    exact ⟨⟨Nat.le_add_right _ _, hclose, hbalanced⟩, rfl⟩
  · rintro ⟨⟨hle, hclose, hbalanced⟩, rfl⟩
    refine ⟨close - start, ⟨?_, hbalanced⟩, rfl, by omega⟩
    rw [Nat.add_sub_cancel' hle]
    exact hclose

theorem blockAt_of_closesAt {text : List Char} {start close : Nat} (h : ClosesAt text start close) :
    blockAt text start = some ⟨text.extract start close, close⟩ :=
  (blockAt_eq_some_iff text start _).2 ⟨h, rfl⟩

theorem ClosesAt.unique {text : List Char} {start close close' : Nat}
    (h : ClosesAt text start close) (h' : ClosesAt text start close') : close = close' := by
  have hsame := (blockAt_of_closesAt h).symm.trans (blockAt_of_closesAt h')
  exact congrArg Block.close (Option.some.inj hsame)

theorem blockAt_eq_none_iff (text : List Char) (start : Nat) :
    blockAt text start = none ↔ ∀ close, ¬ ClosesAt text start close := by
  constructor
  · intro h close hcloses
    rw [blockAt_of_closesAt hcloses] at h
    contradiction
  · intro h
    cases hblock : blockAt text start with
    | none => rfl
    | some block => exact absurd ((blockAt_eq_some_iff _ _ _).1 hblock).1 (h block.close)

/-! ### Blocks inside one another -/

theorem extract_prefix_extract (text : List Char) (start : Nat) {stop stop' : Nat}
    (h : stop ≤ stop') : text.extract start stop <+: text.extract start stop' := by
  rw [List.extract_eq_take_drop, List.extract_eq_take_drop]
  exact List.take_prefix_take_left (by omega)

theorem extract_eq_append_cons {text : List Char} {start middle stop : Nat} {c : Char}
    (hstart : start ≤ middle) (hstop : middle < stop) (hc : text[middle]? = some c) :
    text.extract start stop =
      text.extract start middle ++ c :: text.extract (middle + 1) stop := by
  have hrest : (text.drop start).drop (middle - start) = c :: text.drop (middle + 1) := by
    rw [List.drop_drop, Nat.add_sub_cancel' hstart, List.drop_eq_getElem?_toList_append, hc]
    rfl
  have hlength : stop - start = (middle - start) + ((stop - (middle + 1)) + 1) := by omega
  simp only [List.extract_eq_take_drop]
  rw [hlength, List.take_add, hrest, List.take_succ_cons]

/-- A block that opens inside another one is closed inside it. -/
theorem ClosesAt.inside {text : List Char} {opening opening' close close' : Nat}
    (h : ClosesAt text (opening + 1) close) (h' : ClosesAt text (opening' + 1) close')
    (hbrace : text[opening']? = some '\x7b') (hafter : opening < opening')
    (hbefore : opening' ≤ close) : close' < close := by
  by_contra hcross
  have hne : opening' ≠ close := by
    rintro rfl
    rw [h.2.1] at hbrace
    exact absurd hbrace (by decide)
  -- What the outer body holds of the inner one opens at least as many braces as it closes.
  have hbody := h.2.2
  rw [extract_eq_append_cons (by omega) (by omega) hbrace] at hbody
  have hfirst := hbody.2 _ (List.prefix_append _ _)
  have hrest := h'.2.2.2 _ (extract_prefix_extract text (opening' + 1) (Nat.le_of_not_lt hcross))
  have htotal := hbody.1
  rw [List.count_append, List.count_append, List.count_cons_self,
    List.count_cons_of_ne (by decide)] at htotal
  omega

theorem ClosesAt.apart_or_inside {text : List Char} {opening opening' close close' : Nat}
    (h : ClosesAt text (opening + 1) close) (h' : ClosesAt text (opening' + 1) close')
    (hbrace : text[opening']? = some '\x7b') (hafter : opening < opening') :
    Set.Icc opening close ∩ Set.Icc opening' close' = ∅ ∨
      Set.Icc opening' close' ⊆ Set.Icc opening close := by
  by_cases hbefore : opening' ≤ close
  · have hinside := h.inside h' hbrace hafter hbefore
    exact .inr (Set.Icc_subset_Icc (by omega) (by omega))
  · refine .inl (Set.eq_empty_of_forall_notMem fun i hi => ?_)
    rw [Set.mem_inter_iff, Set.mem_Icc, Set.mem_Icc] at hi
    omega

/-- The ranges of two blocks with their braces lie apart, or one of them in the other. -/
theorem ClosesAt.apart_or_nested {text : List Char} {opening opening' close close' : Nat}
    (hopening : text[opening]? = some '\x7b') (hopening' : text[opening']? = some '\x7b')
    (h : ClosesAt text (opening + 1) close) (h' : ClosesAt text (opening' + 1) close') :
    Set.Icc opening close ∩ Set.Icc opening' close' = ∅ ∨
      Set.Icc opening close ⊆ Set.Icc opening' close' ∨
      Set.Icc opening' close' ⊆ Set.Icc opening close := by
  rcases Nat.lt_trichotomy opening opening' with hlt | rfl | hlt
  · exact (h.apart_or_inside h' hopening' hlt).imp_right .inr
  · rw [h.unique h']
    exact .inr (.inl Set.Subset.rfl)
  · exact (h'.apart_or_inside h hopening hlt).imp (fun hd => (Set.inter_comm _ _).trans hd) .inl

/-! ### The starts of `finally` clauses and of loops -/

theorem mem_endsFrom {r : Recognizer} {before : Option Char} {offset skip : Nat} {done : List Nat}
    {text : List Char} {e : Nat} (h : e ∈ endsFrom r before offset skip done text) :
    e ∈ done ∨ ∃ before' i n, r before' (text.drop i) = some n ∧ e = offset + i + n := by
  induction text generalizing before offset skip done with
  | nil => exact .inl (List.mem_reverse.1 h)
  | cons c rest ih =>
    have hlater : (∃ before' i n, r before' (rest.drop i) = some n ∧ e = offset + 1 + i + n) →
        ∃ before' i n, r before' ((c :: rest).drop i) = some n ∧ e = offset + i + n := by
      rintro ⟨before', i, n, hfound, rfl⟩
      exact ⟨before', i + 1, n, hfound, by omega⟩
    cases skip with
    | succ k =>
      rw [endsFrom] at h
      exact (ih h).imp_right hlater
    | zero =>
      rw [endsFrom] at h
      cases hfound : r before (c :: rest) with
      | none =>
        rw [hfound] at h
        exact (ih h).imp_right hlater
      | some n =>
        rw [hfound] at h
        rcases ih h with hm | hm
        · rcases List.mem_cons.1 hm with rfl | hm
          · exact .inr ⟨before, 0, n, hfound, rfl⟩
          · exact .inl hm
        · exact .inr (hlater hm)

/-- A reader of words that end with a mark stops right behind that mark. -/
theorem getElem?_of_endsAt {read : List Char → Option Nat} {mark : Char} (hsteady : Steady read)
    (hreads : Reads read (EndsAt mark)) {text : List Char} {i n : Nat}
    (h : read (text.drop i) = some n) : ∃ k, i + n = k + 1 ∧ text[k]? = some mark := by
  obtain ⟨p, hp, -⟩ := hreads h
  have hlength := congrArg List.length hp
  rw [List.length_take, Nat.min_eq_left (hsteady.bounds h).2, List.length_append,
    List.length_singleton] at hlength
  refine ⟨i + p.length, by omega, ?_⟩
  rw [← List.getElem?_drop, ← List.getElem?_take_of_lt (show p.length < n by omega), hp,
    List.getElem?_concat_length]

theorem growing_finallyClause : Growing finallyClause (EndsAt '\x7b') := by
  have hclosing : Steady (literally ['\x7d']) := steady_literally (by decide)
  have hword : Steady (literally "finally".toList) := steady_literally (by decide)
  have hsteady := (hclosing.inRow (hword.afterSpan Text.isBlank)).inRow (steady_blanksThen '\x7b')
  have hbefore : Reads (inRow (literally ['\x7d'])
      (afterSpan Text.isBlank (literally "finally".toList))) ('\x7b' ∉ ·) :=
    (avoids_literally (by decide)).avoiding (avoids_afterSpan (by decide) (by decide))
  have hreads := hbefore.inRow (reads_blanksThen (by decide)) fun _ _ hu hv => hv.append hu
  exact Growing.ofReader hsteady hreads fun hlong hw _ => hlong.inner hw

theorem growing_doKeyword : Growing (keywordThen "do".toList '\x7b') (EndsAt '\x7b') :=
  growing_keywordThen (by decide) (by decide) (by decide)

theorem Growing.behind_mark {r : Recognizer} {mark : Char} (h : Growing r (EndsAt mark))
    {text : List Char} {e : Nat} (he : e ∈ occurrenceEnds r text) :
    ∃ k, e = k + 1 ∧ text[k]? = some mark := by
  rcases mem_endsFrom he with hnil | ⟨before, i, n, hfound, rfl⟩
  · contradiction
  · rw [Nat.zero_add]
    exact getElem?_of_endsAt (h.steady before) (h.reads before) hfound

theorem bodyStart_eq_some_iff (text : List Char) (header start : Nat) :
    bodyStart text header = some start ↔
      ∃ length n, closingParenthesis (text.drop header) = some length ∧
        blanksThen '\x7b' (text.drop (header + length + 1)) = some n ∧
        start = header + length + 1 + n := by
  unfold bodyStart
  dsimp only
  cases closingParenthesis (text.drop header) with
  | none => simp
  | some length => simp [List.drop_drop, Nat.add_assoc, eq_comm]

theorem finallyStarts_behind_brace {text : List Char} {start : Nat}
    (h : start ∈ finallyStarts text) :
    ∃ opening, start = opening + 1 ∧ text[opening]? = some '\x7b' :=
  growing_finallyClause.behind_mark h

theorem loopStarts_behind_brace {text : List Char} {start : Nat} (h : start ∈ loopStarts text) :
    ∃ opening, start = opening + 1 ∧ text[opening]? = some '\x7b' := by
  have hheaded : ∀ keyword, start ∈ headedLoopStarts keyword text →
      ∃ opening, start = opening + 1 ∧ text[opening]? = some '\x7b' := by
    intro keyword hm
    obtain ⟨header, -, hbody⟩ := List.mem_filterMap.1 hm
    obtain ⟨length, n, -, hopen, rfl⟩ := (bodyStart_eq_some_iff text header start).1 hbody
    exact getElem?_of_endsAt (steady_blanksThen _) (reads_blanksThen (by decide)) hopen
  rcases List.mem_append.1 h with hm | hm
  · exact (List.mem_append.1 hm).elim (hheaded _) (hheaded _)
  · exact growing_doKeyword.behind_mark hm

/-- The texts that stand between an opening brace and the brace that closes it. -/
def IsBody (text body : List Char) : Prop :=
  ∃ opening close, text[opening]? = some '\x7b' ∧ ClosesAt text (opening + 1) close ∧
    body = text.extract (opening + 1) close

theorem isBody_of_mem {text : List Char} {starts : List Nat}
    (hstarts : ∀ start ∈ starts, ∃ opening, start = opening + 1 ∧ text[opening]? = some '\x7b')
    {body : List Char}
    (h : body ∈ starts.filterMap fun start => (blockAt text start).map Block.body) :
    IsBody text body := by
  obtain ⟨start, hm, hbody⟩ := List.mem_filterMap.1 h
  obtain ⟨opening, rfl, hopening⟩ := hstarts start hm
  obtain ⟨block, hblock, rfl⟩ := Option.map_eq_some_iff.1 hbody
  obtain ⟨hcloses, hextract⟩ := (blockAt_eq_some_iff _ _ _).1 hblock
  exact ⟨opening, block.close, hopening, hcloses, hextract⟩

/-- A block is found exactly where a brace closes it, which is so for one brace at most. Two blocks
behind opening braces lie apart or one in the other. The bodies of `finally` clauses and of loops are
bodies of such blocks. -/
theorem blocks_form_forest (text : List Char) :
    (∀ start block, blockAt text start = some block ↔
      ClosesAt text start block.close ∧ block.body = text.extract start block.close) ∧
    (∀ start close close', ClosesAt text start close → ClosesAt text start close' →
      close = close') ∧
    (∀ start, blockAt text start = none ↔ ∀ close, ¬ ClosesAt text start close) ∧
    (∀ opening opening' block block', text[opening]? = some '\x7b' → text[opening']? = some '\x7b' →
      blockAt text (opening + 1) = some block → blockAt text (opening' + 1) = some block' →
      Set.Icc opening block.close ∩ Set.Icc opening' block'.close = ∅ ∨
        Set.Icc opening block.close ⊆ Set.Icc opening' block'.close ∨
        Set.Icc opening' block'.close ⊆ Set.Icc opening block.close) ∧
    (∀ body ∈ finallyBlocks text, IsBody text body) ∧
    (∀ body ∈ loopBlocks text, IsBody text body) := by
  refine ⟨blockAt_eq_some_iff text, fun _ _ _ => ClosesAt.unique, blockAt_eq_none_iff text, ?_,
    fun _ => isBody_of_mem fun _ => finallyStarts_behind_brace,
    fun _ => isBody_of_mem fun _ => loopStarts_behind_brace⟩
  intro opening opening' block block' hopening hopening' hblock hblock'
  have hcloses := ((blockAt_eq_some_iff _ _ _).1 hblock).1
  have hcloses' := ((blockAt_eq_some_iff _ _ _).1 hblock').1
  exact hcloses.apart_or_nested hopening hopening' hcloses'

def loopsInFinally : List Char := "\x7dfinally\x7bfor(a();;)\x7bdo\x7b\x7d\x7d\x7d".toList

theorem blocks_of_loopsInFinally :
    ClosesAt loopsInFinally 9 25 ∧ (∀ close, ClosesAt loopsInFinally 9 close → 25 = close) ∧
    loopsInFinally[8]? = some '\x7b' ∧ loopsInFinally[19]? = some '\x7b' ∧
    blockAt loopsInFinally 9 = some ⟨"for(a();;)\x7bdo\x7b\x7d\x7d".toList, 25⟩ ∧
    blockAt loopsInFinally 20 = some ⟨"do\x7b\x7d".toList, 24⟩ ∧
    (Set.Icc 8 25 ∩ Set.Icc 19 24 = ∅ ∨ Set.Icc 8 25 ⊆ Set.Icc 19 24 ∨
      Set.Icc 19 24 ⊆ Set.Icc 8 25) ∧
    "for(a();;)\x7bdo\x7b\x7d\x7d".toList ∈ finallyBlocks loopsInFinally ∧
    IsBody loopsInFinally "for(a();;)\x7bdo\x7b\x7d\x7d".toList ∧
    "do\x7b\x7d".toList ∈ loopBlocks loopsInFinally ∧
    IsBody loopsInFinally "do\x7b\x7d".toList := by
  obtain ⟨-, hunique, -, hforest, hfinally, hloop⟩ := blocks_form_forest loopsInFinally
  have hcloses : ClosesAt loopsInFinally 9 25 := by decide +kernel
  have houter : blockAt loopsInFinally 9 = some ⟨"for(a();;)\x7bdo\x7b\x7d\x7d".toList, 25⟩ := by
    decide +kernel
  have hinner : blockAt loopsInFinally 20 = some ⟨"do\x7b\x7d".toList, 24⟩ := by decide +kernel
  have hclause : "for(a();;)\x7bdo\x7b\x7d\x7d".toList ∈ finallyBlocks loopsInFinally := by
    decide +kernel
  have hbody : "do\x7b\x7d".toList ∈ loopBlocks loopsInFinally := by decide +kernel
  have hnested := hforest 8 19 _ _ (by decide) (by decide) houter hinner
  exact ⟨hcloses, fun close => hunique 9 25 close hcloses, by decide, by decide, houter, hinner,
    hnested, hclause, hfinally _ hclause, hbody, hloop _ hbody⟩

end TagAudit.Source
