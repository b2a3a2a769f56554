import TagAudit.Proofs.Source.Block

/-!
# Blocks inside a body (`finally_blocks`, `loop_blocks`)

The phrases that introduce a block hold an opening brace only at their end and a closing brace only
at their start. None of them crosses the braces around a body, so those inside are found in the text
as they are in the body alone. What is matched inside the body, a parenthesis or a brace, is matched
by the same character of the text. So all blocks of a body are blocks of the text.
-/

namespace TagAudit.Source

/-! ### Occurrences on both sides of a seam -/

section Seam

variable {r : Recognizer}

theorem endsFrom_eq_map (before : Option Char) (offset skip : Nat) (done : List Nat)
    (text : List Char) :
    endsFrom r before offset skip done text =
      done.reverse ++ (endsFrom r before 0 skip [] text).map (offset + ·) := by
  induction text generalizing before offset skip done with
  | nil => simp [endsFrom]
  | cons c rest ih =>
    have hshift : ∀ l : List Nat,
        (l.map (0 + 1 + ·)).map (offset + ·) = l.map (offset + 1 + ·) := by
      intro l
      simp [Function.comp_def, Nat.add_assoc]
    cases skip with
    | succ n =>
      rw [endsFrom, endsFrom, ih, ih (some c) (0 + 1) n [], List.reverse_nil, List.nil_append,
        hshift]
    | zero =>
      rw [endsFrom, endsFrom]
      cases r before (c :: rest) with
      | none =>
        dsimp only
        rw [ih, ih (some c) (0 + 1) 0 [], List.reverse_nil, List.nil_append, hshift]
      | some n =>
        dsimp only
        rw [ih, ih (some c) (0 + 1) (n - 1) [0 + n], List.map_append, hshift]
        simp

/-- No phrase that starts in the first text depends on the second one. -/
def Separate (r : Recognizer) (s t : List Char) : Prop :=
  ∀ before later, later <:+ s → later ≠ [] → r before (later ++ t) = r before later

theorem Separate.tail {c : Char} {s t : List Char} (h : Separate r (c :: s) t) : Separate r s t :=
  fun before later hlater => h before later (hlater.trans (List.suffix_cons c s))

theorem getLast?_cons_or (c : Char) (s : List Char) (before : Option Char) :
    (c :: s).getLast?.or before = s.getLast?.or (some c) := by
  rw [List.getLast?_cons]
  cases s.getLast? with
  | none => rfl
  | some d => rfl

/-- The search goes on behind a seam as it would start there. -/
theorem endsFrom_append (hsteady : ∀ before, Steady (r before)) {s t : List Char}
    (h : Separate r s t) (before : Option Char) (offset : Nat) {skip : Nat} (done : List Nat)
    (hskip : skip ≤ s.length) :
    endsFrom r before offset skip done (s ++ t) =
      endsFrom r (s.getLast?.or before) (offset + s.length) 0
        (endsFrom r before offset skip done s).reverse t := by
  induction s generalizing before offset skip done with
  | nil =>
    obtain rfl : skip = 0 := Nat.le_zero.1 hskip
    simp [endsFrom]
  | cons c s ih =>
    rw [List.length_cons] at hskip
    have hlength : offset + (c :: s).length = offset + 1 + s.length := by
      rw [List.length_cons]
      omega
    rw [getLast?_cons_or, hlength, List.cons_append]
    cases skip with
    | succ n =>
      rw [endsFrom, endsFrom]
      exact ih h.tail (some c) (offset + 1) done (by omega)
    | zero =>
      have hsame : r before (c :: (s ++ t)) = r before (c :: s) :=
        h before (c :: s) List.suffix_rfl (by simp)
      rw [endsFrom, endsFrom, hsame]
      cases hfound : r before (c :: s) with
      | none => exact ih h.tail (some c) (offset + 1) done (Nat.zero_le _)
      | some n =>
        have hbounds := ((hsteady before).bounds hfound).2
        rw [List.length_cons] at hbounds
        exact ih h.tail (some c) (offset + 1) _ (by omega)

theorem occurrenceEnds_append (hsteady : ∀ before, Steady (r before)) {s t : List Char}
    (h : Separate r s t) :
    occurrenceEnds r (s ++ t) =
      occurrenceEnds r s ++ (endsFrom r s.getLast? 0 0 [] t).map (s.length + ·) := by
  rw [occurrenceEnds, endsFrom_append hsteady h none 0 [] (Nat.zero_le _), endsFrom_eq_map,
    List.reverse_reverse, Option.or_none, Nat.zero_add]
  rfl

theorem endsFrom_congr_before {before before' : Option Char} (h : r before = r before')
    (text : List Char) : endsFrom r before 0 0 [] text = endsFrom r before' 0 0 [] text := by
  cases text with
  | nil => rfl
  | cons c rest => rw [endsFrom, endsFrom, h]

end Seam

/-! ### Phrases that do not cross the braces of a body -/

theorem Steady.append_eq {read : List Char → Option Nat} (h : Steady read) {s t : List Char}
    (hwithin : ∀ n, read (s ++ t) = some n → n ≤ s.length) : read (s ++ t) = read s := by
  cases hs : read s with
  | some n =>
    obtain ⟨m, hm, -⟩ := h.kept hs t
    rw [hm, ← hs, h.cut hm (hwithin m hm)]
  | none =>
    cases ht : read (s ++ t) with
    | none => rfl
    | some n =>
      have hcut := h.cut ht (hwithin n ht)
      rw [hs] at hcut
      contradiction

theorem exists_take_append {s t : List Char} {n : Nat} (hbeyond : s.length < n)
    (hn : n ≤ (s ++ t).length) : ∃ c rest u, t = c :: rest ∧ (s ++ t).take n = s ++ c :: u := by
  rw [List.length_append] at hn
  cases t with
  | nil =>
    rw [List.length_nil] at hn
    omega
  | cons c rest =>
    obtain ⟨k, rfl⟩ := Nat.exists_eq_add_of_lt hbeyond
    refine ⟨c, rest, rest.take k, rfl, ?_⟩
    rw [Nat.add_assoc, List.take_length_add_append, List.take_succ_cons]

/-- A recognizer of phrases that hold an opening brace only at their end and a closing brace only at
their start, and that stand behind an opening brace as they stand at the start of a text. -/
structure Introduces (r : Recognizer) : Prop where
  steady : ∀ before, Steady (r before)
  reads : ∀ before, Reads (r before) fun w => '\x7b' ∉ w.dropLast ∧ '\x7d' ∉ w.tail
  behind : r (some '\x7b') = r none

namespace Introduces

variable {r : Recognizer}

theorem separate_behind (h : Introduces r) (s t : List Char) : Separate r (s ++ ['\x7b']) t := by
  intro before later hlater hne
  obtain ⟨start, rfl⟩ : ∃ start, later = start ++ ['\x7b'] := by
    rcases List.suffix_concat_iff.1 hlater with rfl | ⟨start, rfl, -⟩
    · exact absurd rfl hne
    · exact ⟨start, rfl⟩
  refine (h.steady before).append_eq fun n hn => Nat.le_of_not_lt fun hbeyond => ?_
  obtain ⟨c, rest, u, -, hword⟩ := exists_take_append hbeyond ((h.steady before).bounds hn).2
  have hlast := (h.reads before hn).1
  rw [hword, List.dropLast_append_cons] at hlast
  simp at hlast

theorem separate_before (h : Introduces r) (s t : List Char) : Separate r s ('\x7d' :: t) := by
  intro before later _ hne
  obtain ⟨d, start, rfl⟩ := List.exists_cons_of_ne_nil hne
  refine (h.steady before).append_eq fun n hn => Nat.le_of_not_lt fun hbeyond => ?_
  obtain ⟨c, rest, u, heq, hword⟩ := exists_take_append hbeyond ((h.steady before).bounds hn).2
  obtain ⟨rfl, -⟩ := List.cons.inj heq
  have hfirst := (h.reads before hn).2
  rw [hword] at hfirst
  simp at hfirst

/-- Between the braces of a body the same phrases are found in the text as in the body. -/
theorem occurrenceEnds_sublist (h : Introduces r) (before body after : List Char) :
    ((occurrenceEnds r body).map ((before ++ ['\x7b']).length + ·)).Sublist
      (occurrenceEnds r ((before ++ ['\x7b']) ++ (body ++ '\x7d' :: after))) := by
  have hbehind : endsFrom r (before ++ ['\x7b']).getLast? 0 0 [] (body ++ '\x7d' :: after) =
      occurrenceEnds r (body ++ '\x7d' :: after) := by
    rw [List.getLast?_concat]
    exact endsFrom_congr_before h.behind _
  rw [occurrenceEnds_append h.steady (h.separate_behind before _), hbehind,
    occurrenceEnds_append h.steady (h.separate_before body after), List.map_append]
  exact (List.sublist_append_left _ _).trans (List.sublist_append_right _ _)

end Introduces

/-! ### The phrases of clauses and loops -/

def Plain (w : List Char) : Prop := '\x7b' ∉ w ∧ '\x7d' ∉ w

instance (w : List Char) : Decidable (Plain w) := inferInstanceAs (Decidable (_ ∧ _))

theorem Plain.append {u v : List Char} (hu : Plain u) (hv : Plain v) : Plain (u ++ v) :=
  ⟨fun hm => (List.mem_append.1 hm).elim hu.1 hv.1, fun hm => (List.mem_append.1 hm).elim hu.2 hv.2⟩

theorem plain_of_blank {w : List Char} (h : ∀ c ∈ w, Text.isBlank c = true) : Plain w :=
  ⟨fun hm => absurd (h _ hm) (by decide), fun hm => absurd (h _ hm) (by decide)⟩

theorem reads_blanksThen_plain (mark : Char) :
    Reads (blanksThen mark) fun w => ∃ u, w = u ++ [mark] ∧ Plain u := by
  rw [blanksThen_eq]
  exact (reads_literally [mark]).afterSpan Text.isBlank fun u v hu hv =>
    ⟨u, by rw [hv], plain_of_blank hu⟩

theorem introduces_keywordThen {keyword : List Char} {mark : Char} (hne : keyword ≠ [])
    (hkeyword : Plain keyword) (hmark : mark ≠ '\x7d') : Introduces (keywordThen keyword mark) := by
  have hsteady := (steady_literally hne).inRow (steady_blanksThen mark)
  have hreads : Reads (inRow (literally keyword) (blanksThen mark))
      fun w => '\x7b' ∉ w.dropLast ∧ '\x7d' ∉ w.tail := by
    refine (reads_literally keyword).inRow (reads_blanksThen_plain mark) ?_
    rintro u v rfl ⟨p, rfl, hp⟩
    have hplain := hkeyword.append hp
    rw [← List.append_assoc, List.dropLast_concat]
    refine ⟨hplain.1, fun hm => ?_⟩
    rcases List.mem_append.1 (List.mem_of_mem_tail hm) with hm | hm
    · exact hplain.2 hm
    · exact hmark (List.mem_singleton.1 hm).symm
  exact ⟨fun before => hsteady.guarded (atWordStart before),
    fun before => hreads.guarded (atWordStart before), rfl⟩

theorem introduces_finallyClause : Introduces finallyClause := by
  have hword : Reads (afterSpan Text.isBlank (literally "finally".toList)) Plain :=
    (reads_literally _).afterSpan Text.isBlank fun u v hu hv =>
      (plain_of_blank hu).append (by rw [hv]; decide)
  have hclause : Reads (inRow (literally ['\x7d'])
      (afterSpan Text.isBlank (literally "finally".toList)))
      fun w => ∃ u, w = '\x7d' :: u ∧ Plain u :=
    (reads_literally _).inRow hword fun _ v hu hv => ⟨v, by rw [hu]; rfl, hv⟩
  have hreads : Reads (inRow (inRow (literally ['\x7d'])
      (afterSpan Text.isBlank (literally "finally".toList))) (blanksThen '\x7b'))
      fun w => '\x7b' ∉ w.dropLast ∧ '\x7d' ∉ w.tail := by
    refine hclause.inRow (reads_blanksThen_plain '\x7b') ?_
    rintro u v ⟨p, rfl, hp⟩ ⟨q, rfl, hq⟩
    have hplain := hp.append hq
    rw [← List.append_assoc, List.dropLast_concat]
    simp only [Plain, List.mem_append] at hplain
    simp [hplain]
  exact ⟨growing_finallyClause.steady, fun _ => hreads, rfl⟩

/-! ### What is matched inside a body -/

theorem closingParenthesis_append {s : List Char} {n : Nat} (h : closingParenthesis s = some n)
    (t : List Char) : n < s.length ∧ closingParenthesis (s ++ t) = some n := by
  obtain ⟨k, hk, hclose, hleaves⟩ := (closingFrom_eq_some_iff (by decide) Nat.one_pos 0 s n).1 h
  rw [Nat.zero_add] at hk
  subst hk
  obtain ⟨hlt, -⟩ := List.getElem?_eq_some_iff.1 hclose
  refine ⟨hlt, (closingFrom_eq_some_iff (by decide) Nat.one_pos 0 (s ++ t) n).2 ⟨n, by simp, ?_⟩⟩
  rw [List.getElem?_append_left hlt, List.take_append_of_le_length (Nat.le_of_lt hlt)]
  exact ⟨hclose, hleaves⟩

/-- A word that ends with its only mark is read the same whatever follows. -/
theorem Steady.append_of_endsAt {read : List Char → Option Nat} {mark : Char} (h : Steady read)
    (hreads : Reads read (EndsAt mark)) {s : List Char} {n : Nat} (hs : read s = some n)
    (t : List Char) : read (s ++ t) = some n := by
  rw [h.append_eq, hs]
  refine fun m hm => Nat.le_of_not_lt fun hbeyond => ?_
  obtain ⟨c, rest, u, -, hword⟩ := exists_take_append hbeyond (h.bounds hm).2
  have hsplit : (s ++ t).take m = [] ++ s.take n ++ (s.drop n ++ c :: u) := by
    rw [hword, List.nil_append, ← List.append_assoc, List.take_append_drop]
  have hlong := hreads hm
  rw [hsplit] at hlong
  have hnil := hlong.inner (hreads hs)
  simp at hnil

theorem bodyStart_inside {body : List Char} {header start : Nat}
    (h : bodyStart body header = some start) (before after : List Char) :
    bodyStart (before ++ (body ++ after)) (before.length + header) =
      some (before.length + start) := by
  obtain ⟨length, n, hparen, hopen, rfl⟩ := (bodyStart_eq_some_iff body header start).1 h
  obtain ⟨hlt, hparen'⟩ := closingParenthesis_append hparen after
  rw [List.length_drop] at hlt
  refine (bodyStart_eq_some_iff _ _ _).2 ⟨length, n, ?_, ?_, by omega⟩
  · rw [List.drop_length_add_append, List.drop_append_of_le_length (by omega)]
    exact hparen'
  · rw [Nat.add_assoc, Nat.add_assoc, List.drop_length_add_append,
      List.drop_append_of_le_length (by omega), ← Nat.add_assoc]
    exact (steady_blanksThen _).append_of_endsAt (reads_blanksThen (by decide)) hopen after

theorem extract_inside {body : List Char} {stop : Nat} (h : stop ≤ body.length) (start : Nat)
    (before after : List Char) :
    (before ++ (body ++ after)).extract (before.length + start) (before.length + stop) =
      body.extract start stop := by
  have hlength : stop - start ≤ (body.drop start).length := by
    rw [List.length_drop]
    omega
  rw [List.extract_eq_take_drop, List.extract_eq_take_drop, List.drop_length_add_append,
    Nat.add_sub_add_left, List.drop_append, List.take_append_of_le_length hlength]

theorem ClosesAt.inside_text {body : List Char} {start close : Nat} (h : ClosesAt body start close)
    (before after : List Char) :
    ClosesAt (before ++ (body ++ after)) (before.length + start) (before.length + close) := by
  obtain ⟨hle, hclose, hbalanced⟩ := h
  obtain ⟨hlt, -⟩ := List.getElem?_eq_some_iff.1 hclose
  refine ⟨by omega, ?_, ?_⟩
  · rw [List.getElem?_append_right (by omega), Nat.add_sub_cancel_left,
      List.getElem?_append_left hlt]
    exact hclose
  · rw [extract_inside (Nat.le_of_lt hlt)]
    exact hbalanced

/-! ### Extents of blocks -/

/-- Where a block stands: the offset behind its opening brace, and that of the brace that closes
it. -/
structure Extent where
  start : Nat
  close : Nat
  deriving DecidableEq, Repr

namespace Extent

def cut (text : List Char) (e : Extent) : List Char := text.extract e.start e.close

/-- The same extent when `n` characters come before the text. -/
def shift (n : Nat) (e : Extent) : Extent := ⟨n + e.start, n + e.close⟩

end Extent

/-- The extents of the blocks that are closed, of those that start at the given offsets. -/
def extents (starts : List Nat) (text : List Char) : List Extent :=
  starts.filterMap fun start => (blockAt text start).map fun block => ⟨start, block.close⟩

def finallyExtents (text : List Char) : List Extent := extents (finallyStarts text) text

def loopExtents (text : List Char) : List Extent := extents (loopStarts text) text

theorem map_cut_extents (starts : List Nat) (text : List Char) :
    (extents starts text).map (Extent.cut text) =
      starts.filterMap fun start => (blockAt text start).map Block.body := by
  rw [extents, List.map_filterMap]
  refine List.filterMap_congr fun start _ => ?_
  cases hblock : blockAt text start with
  | none => rfl
  | some block =>
    rw [Option.map_some, Option.map_some, Option.map_some,
      ((blockAt_eq_some_iff text start block).1 hblock).2]
    rfl

theorem mem_extents_iff (starts : List Nat) (text : List Char) (e : Extent) :
    e ∈ extents starts text ↔ e.start ∈ starts ∧ ClosesAt text e.start e.close := by
  obtain ⟨start, close⟩ := e
  simp only [extents, List.mem_filterMap, Option.map_eq_some_iff, Extent.mk.injEq]
  constructor
  · rintro ⟨start', hm, block, hblock, rfl, rfl⟩
    exact ⟨hm, ((blockAt_eq_some_iff _ _ _).1 hblock).1⟩
  · rintro ⟨hm, hcloses⟩
    exact ⟨start, hm, _, blockAt_of_closesAt hcloses, rfl, rfl⟩

theorem map_filterMap_sublist {α β : Type} {f g : α → Option β} {φ : α → α} {ψ : β → β}
    (h : ∀ a b, f a = some b → g (φ a) = some (ψ b)) {l m : List α} (hlm : (l.map φ).Sublist m) :
    ((l.filterMap f).map ψ).Sublist (m.filterMap g) := by
  refine List.Sublist.trans ?_ (hlm.filterMap g)
  clear hlm
  induction l with
  | nil => exact List.Sublist.refl _
  | cons a l ih =>
    rw [List.map_cons]
    cases hfound : f a with
    | none =>
      rw [List.filterMap_cons_none hfound]
      exact ih.trans ((List.sublist_cons_self _ _).filterMap g)
    | some b =>
      rw [List.filterMap_cons_some hfound, List.filterMap_cons_some (h a b hfound), List.map_cons]
      exact ih.cons_cons (ψ b)

section Enclosed

variable (before body after : List Char)

/-- A body between its braces, with text before and after them. -/
def enclosed : List Char := (before ++ ['\x7b']) ++ (body ++ '\x7d' :: after)

theorem extents_enclosed_sublist {starts starts' : List Nat}
    (h : (starts.map ((before ++ ['\x7b']).length + ·)).Sublist starts') :
    ((extents starts body).map (Extent.shift (before ++ ['\x7b']).length)).Sublist
      (extents starts' (enclosed before body after)) := by
  refine map_filterMap_sublist ?_ h
  intro start e hfound
  obtain ⟨block, hblock, rfl⟩ := Option.map_eq_some_iff.1 hfound
  have hcloses := ((blockAt_eq_some_iff _ _ _).1 hblock).1
  rw [enclosed, blockAt_of_closesAt (hcloses.inside_text (before ++ ['\x7b']) ('\x7d' :: after))]
  rfl

theorem finallyStarts_enclosed_sublist :
    ((finallyStarts body).map ((before ++ ['\x7b']).length + ·)).Sublist
      (finallyStarts (enclosed before body after)) :=
  introduces_finallyClause.occurrenceEnds_sublist before body after

theorem headedLoopStarts_enclosed_sublist {keyword : List Char} (hne : keyword ≠ [])
    (hkeyword : Plain keyword) :
    ((headedLoopStarts keyword body).map ((before ++ ['\x7b']).length + ·)).Sublist
      (headedLoopStarts keyword (enclosed before body after)) := by
  have hheader : Introduces (keywordThen keyword '(') :=
    introduces_keywordThen hne hkeyword (by decide)
  refine map_filterMap_sublist ?_ (hheader.occurrenceEnds_sublist before body after)
  intro header start hstart
  exact bodyStart_inside hstart (before ++ ['\x7b']) ('\x7d' :: after)

theorem loopStarts_enclosed_sublist :
    ((loopStarts body).map ((before ++ ['\x7b']).length + ·)).Sublist
      (loopStarts (enclosed before body after)) := by
  have hfor := headedLoopStarts_enclosed_sublist before body after
    (by decide : "for".toList ≠ []) (by decide)
  have hwhile := headedLoopStarts_enclosed_sublist before body after
    (by decide : "while".toList ≠ []) (by decide)
  have hdo : Introduces (keywordThen "do".toList '\x7b') :=
    introduces_keywordThen (by decide) (by decide) (by decide)
  rw [loopStarts, List.map_append, List.map_append]
  exact (hfor.append hwhile).append (hdo.occurrenceEnds_sublist before body after)

end Enclosed

/-! ### Blocks of a body -/

theorem exists_enclosed {text : List Char} {opening close : Nat}
    (hopening : text[opening]? = some '\x7b') (h : ClosesAt text (opening + 1) close) :
    ∃ before after, text = enclosed before (text.extract (opening + 1) close) after ∧
      opening + 1 = (before ++ ['\x7b']).length := by
  obtain ⟨hle, hclose, -⟩ := h
  obtain ⟨hlt, -⟩ := List.getElem?_eq_some_iff.1 hopening
  have hfirst : text.take opening ++ ['\x7b'] = text.take (opening + 1) := by
    rw [List.take_add_one, hopening]
    rfl
  have hlast : text.drop close = '\x7d' :: text.drop (close + 1) := by
    rw [List.drop_eq_getElem?_toList_append, hclose]
    rfl
  have hmiddle : text.extract (opening + 1) close ++ text.drop close = text.drop (opening + 1) := by
    have hdrop : text.drop close = (text.drop (opening + 1)).drop (close - (opening + 1)) := by
      rw [List.drop_drop, Nat.add_sub_cancel' hle]
    rw [hdrop, List.extract_eq_take_drop, List.take_append_drop]
  refine ⟨text.take opening, text.drop (close + 1), ?_, ?_⟩
  · rw [enclosed, hfirst, ← hlast, hmiddle, List.take_append_drop]
  · rw [hfirst, List.length_take]
    omega

/-- All that is found in a body is found in the text as well: in the same order, each block in its
own place, and with the same body. -/
def KeepsInner (find : List Char → List Extent) (text : List Char) (outer : Extent) : Prop :=
  ((find (outer.cut text)).map (Extent.shift outer.start)).Sublist (find text) ∧
    ∀ inner ∈ find (outer.cut text),
      (inner.shift outer.start).cut text = inner.cut (outer.cut text)

theorem KeepsInner.bodies {find : List Char → List Extent} {text : List Char} {outer : Extent}
    (h : KeepsInner find text outer) :
    ((find (outer.cut text)).map (Extent.cut (outer.cut text))).Sublist
      ((find text).map (Extent.cut text)) := by
  have hcut : (find (outer.cut text)).map (Extent.cut (outer.cut text)) =
      ((find (outer.cut text)).map (Extent.shift outer.start)).map (Extent.cut text) := by
    rw [List.map_map]
    exact List.map_congr_left fun inner hinner => (h.2 inner hinner).symm
  rw [hcut]
  exact h.1.map (Extent.cut text)

theorem keepsInner_of_starts {starts : List Char → List Nat}
    (hstarts : ∀ before body after, ((starts body).map ((before ++ ['\x7b']).length + ·)).Sublist
      (starts (enclosed before body after)))
    {text : List Char} {opening close : Nat} (hopening : text[opening]? = some '\x7b')
    (h : ClosesAt text (opening + 1) close) :
    KeepsInner (fun text => extents (starts text) text) text ⟨opening + 1, close⟩ := by
  obtain ⟨before, after, htext, hlength⟩ := exists_enclosed hopening h
  have hfound := extents_enclosed_sublist before (text.extract (opening + 1) close) after
    (hstarts before (text.extract (opening + 1) close) after)
  rw [← htext, ← hlength] at hfound
  refine ⟨hfound, ?_⟩
  intro inner hinner
  obtain ⟨-, -, hclose, -⟩ := (mem_extents_iff _ _ _).1 hinner
  obtain ⟨hlt, -⟩ := List.getElem?_eq_some_iff.1 hclose
  have hcut := extract_inside (Nat.le_of_lt hlt) inner.start (before ++ ['\x7b']) ('\x7d' :: after)
  rw [← hlength] at hcut
  exact (congrArg (fun t => (inner.shift (opening + 1)).cut t) htext).trans hcut

theorem keepsInner_loopExtents {text : List Char} {opening close : Nat}
    (hopening : text[opening]? = some '\x7b') (h : ClosesAt text (opening + 1) close) :
    KeepsInner loopExtents text ⟨opening + 1, close⟩ :=
  keepsInner_of_starts loopStarts_enclosed_sublist hopening h

theorem keepsInner_finallyExtents {text : List Char} {opening close : Nat}
    (hopening : text[opening]? = some '\x7b') (h : ClosesAt text (opening + 1) close) :
    KeepsInner finallyExtents text ⟨opening + 1, close⟩ :=
  keepsInner_of_starts finallyStarts_enclosed_sublist hopening h

/-- The bodies of loops and of `finally` clauses stand at known extents of the text. Whatever loops
and clauses are found in such a body on its own are found in the text as well, moved by the offset
of the body, so they are reported on their own. -/
theorem blocks_of_body_are_blocks (text : List Char) :
    loopBlocks text = (loopExtents text).map (Extent.cut text) ∧
    finallyBlocks text = (finallyExtents text).map (Extent.cut text) ∧
    ∀ outer ∈ loopExtents text ++ finallyExtents text,
      KeepsInner loopExtents text outer ∧ KeepsInner finallyExtents text outer ∧
      (loopBlocks (outer.cut text)).Sublist (loopBlocks text) ∧
      (finallyBlocks (outer.cut text)).Sublist (finallyBlocks text) := by
  have hloops : ∀ t, loopBlocks t = (loopExtents t).map (Extent.cut t) :=
    fun t => (map_cut_extents (loopStarts t) t).symm
  have hclauses : ∀ t, finallyBlocks t = (finallyExtents t).map (Extent.cut t) :=
    fun t => (map_cut_extents (finallyStarts t) t).symm
  refine ⟨hloops text, hclauses text, ?_⟩
  intro outer houter
  obtain ⟨⟨opening, hstart, hopening⟩, hcloses⟩ :
      (∃ opening, outer.start = opening + 1 ∧ text[opening]? = some '\x7b') ∧
        ClosesAt text outer.start outer.close := by
    rcases List.mem_append.1 houter with hm | hm
    · obtain ⟨hm, hcloses⟩ := (mem_extents_iff _ _ _).1 hm
      exact ⟨loopStarts_behind_brace hm, hcloses⟩
    · obtain ⟨hm, hcloses⟩ := (mem_extents_iff _ _ _).1 hm
      exact ⟨finallyStarts_behind_brace hm, hcloses⟩
  obtain ⟨start, close⟩ := outer
  dsimp only at hstart hcloses
  subst hstart
  have hinner := keepsInner_loopExtents hopening hcloses
  have hinner' := keepsInner_finallyExtents hopening hcloses
  rw [hloops, hclauses, hloops text, hclauses text]
  exact ⟨hinner, hinner', hinner.bodies, hinner'.bodies⟩

theorem blocks_of_body_in_loopsInFinally :
    ⟨9, 25⟩ ∈ loopExtents loopsInFinally ++ finallyExtents loopsInFinally ∧
    loopExtents ((⟨9, 25⟩ : Extent).cut loopsInFinally) = [⟨11, 15⟩, ⟨14, 14⟩] ∧
    [⟨20, 24⟩, ⟨23, 23⟩].Sublist (loopExtents loopsInFinally) ∧
    (⟨20, 24⟩ : Extent).cut loopsInFinally =
      (⟨11, 15⟩ : Extent).cut ((⟨9, 25⟩ : Extent).cut loopsInFinally) ∧
    (loopBlocks ((⟨9, 25⟩ : Extent).cut loopsInFinally)).Sublist (loopBlocks loopsInFinally) ∧
    (finallyBlocks ((⟨9, 25⟩ : Extent).cut loopsInFinally)).Sublist
      (finallyBlocks loopsInFinally) := by
  have houter : ⟨9, 25⟩ ∈ loopExtents loopsInFinally ++ finallyExtents loopsInFinally := by
    decide +kernel
  have hinner : loopExtents ((⟨9, 25⟩ : Extent).cut loopsInFinally) = [⟨11, 15⟩, ⟨14, 14⟩] := by
    decide +kernel
  obtain ⟨⟨hkept, hcut⟩, -, hloops, hclauses⟩ :=
    (blocks_of_body_are_blocks loopsInFinally).2.2 ⟨9, 25⟩ houter
  rw [hinner] at hkept hcut
  exact ⟨houter, hinner, hkept, hcut ⟨11, 15⟩ List.mem_cons_self, hloops, hclauses⟩

end TagAudit.Source
