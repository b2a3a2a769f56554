import Mathlib.Data.List.Induction
import Mathlib.Data.List.Infix
import Mathlib.Order.Bounds.Basic
import TagAudit.Source.Estimate

/-!
# The nesting of control structures (`estimate_nesting`)

The nesting of a text is estimated with a single level that every closing brace lowers while it is
above zero. Matching braces with a stack tells which of them are really open. The level never
exceeds the number of control braces on the stack, since a closing brace takes at most one of them
away; the two agree as long as no other brace is opened above a control brace.
-/

namespace TagAudit.Source

/-! ### Control braces -/

/-- A control word stands among the last characters of a text, at the start of a word and with no
opening brace after it. -/
def EndsInControl (text : List Char) : Prop :=
  ∃ before word after, text.drop (text.length - controlReach) = before ++ word ++ after ∧
    word ∈ controlWords ∧ atWordStart before.getLast? = true ∧ '\x7b' ∉ after

theorem startsControl_iff (text : List Char) :
    startsControl text = true ↔
      ∃ word after, text = word ++ after ∧ word ∈ controlWords ∧ '\x7b' ∉ after := by
  unfold startsControl
  rw [List.any_eq_true]
  constructor
  · intro h
    obtain ⟨word, hword, htest⟩ := h
    rw [Bool.and_eq_true, List.isPrefixOf_iff_prefix] at htest
    obtain ⟨⟨after, rfl⟩, hafter⟩ := htest
    rw [List.drop_left] at hafter
    exact ⟨word, after, rfl, hword, by simpa using hafter⟩
  · intro h
    obtain ⟨word, after, rfl, hword, hafter⟩ := h
    refine ⟨word, hword, ?_⟩
    rw [Bool.and_eq_true, List.isPrefixOf_iff_prefix, List.drop_left]
    exact ⟨List.prefix_append word after, by simpa using hafter⟩

theorem hasControlWord_iff (text : List Char) (previous : Option Char) :
    hasControlWord previous text = true ↔
      ∃ before word after, text = before ++ word ++ after ∧ word ∈ controlWords ∧
        atWordStart (before.getLast?.or previous) = true ∧ '\x7b' ∉ after := by
  induction text generalizing previous with
  | nil =>
    have hne : ∀ word ∈ controlWords, word ≠ [] := by decide
    constructor
    · intro h
      exact absurd h (by simp [hasControlWord])
    · intro h
      obtain ⟨before, word, after, heq, hword, -⟩ := h
      have hnil : word = [] := by
        have := congrArg List.length heq
        simp only [List.length_nil, List.length_append] at this
        exact List.eq_nil_of_length_eq_zero (by omega)
      exact absurd hnil (hne word hword)
  | cons c rest ih =>
    rw [hasControlWord, Bool.or_eq_true, Bool.and_eq_true, startsControl_iff, ih]
    constructor
    · intro h
      rcases h with ⟨hstart, word, after, heq, hword, hafter⟩ |
        ⟨before, word, after, heq, hword, hstart, hafter⟩
      · exact ⟨[], word, after, heq, hword, hstart, hafter⟩
      · refine ⟨c :: before, word, after, by rw [heq]; rfl, hword, ?_, hafter⟩
        rw [List.getLast?_cons]
        cases hlast : before.getLast? with
        | none => simpa [hlast] using hstart
        | some d => simpa [hlast] using hstart
    · intro h
      obtain ⟨before, word, after, heq, hword, hstart, hafter⟩ := h
      cases before with
      | nil => exact .inl ⟨hstart, word, after, heq, hword, hafter⟩
      | cons d before =>
        obtain ⟨rfl, hrest⟩ := List.cons.inj heq
        refine .inr ⟨before, word, after, hrest, hword, ?_, hafter⟩
        rw [List.getLast?_cons] at hstart
        cases hlast : before.getLast? with
        | none => simpa [hlast] using hstart
        | some d => simpa [hlast] using hstart

theorem isControlBrace_iff (text : List Char) :
    isControlBrace text.reverse = true ↔ EndsInControl text := by
  unfold isControlBrace EndsInControl
  rw [List.take_reverse, List.reverse_reverse, hasControlWord_iff]
  simp only [Option.or_none]

/-! ### Braces on a stack -/

/-- One character read by a matcher of braces. On the stack are the open braces, innermost first,
each with whether it is a control brace. -/
def matchBrace (before : List Char) (stack : List Bool) (c : Char) : List Bool :=
  if c = '\x7b' then isControlBrace before :: stack
  else if c = '\x7d' then stack.tail
  else stack

def estimateLevel (before : List Char) (level : Nat) (c : Char) : Nat :=
  if c = '\x7b' then if isControlBrace before then level + 1 else level
  else if c = '\x7d' then level - 1
  else level

/-- The state after reading a text; `before` is the text gone by, nearest first. -/
def readFrom {σ : Type} (step : List Char → σ → Char → σ) (before : List Char) (state : σ) :
    List Char → σ
  | [] => state
  | c :: rest => readFrom step (c :: before) (step before state c) rest

def openBraces (text : List Char) : List Bool := readFrom matchBrace [] [] text

def controlsOpen (text : List Char) : Nat := (openBraces text).count true

def levelAfter (text : List Char) : Nat := readFrom estimateLevel [] 0 text

theorem readFrom_concat {σ : Type} (step : List Char → σ → Char → σ) (text before : List Char)
    (state : σ) (c : Char) :
    readFrom step before state (text ++ [c]) =
      step (text.reverse ++ before) (readFrom step before state text) c := by
  induction text generalizing before state with
  | nil => rfl
  | cons d text ih =>
    rw [List.cons_append, readFrom, ih, readFrom, List.reverse_cons, List.append_assoc]
    rfl

theorem openBraces_concat (text : List Char) (c : Char) :
    openBraces (text ++ [c]) = matchBrace text.reverse (openBraces text) c := by
  rw [openBraces, readFrom_concat, List.append_nil]
  rfl

theorem levelAfter_concat (text : List Char) (c : Char) :
    levelAfter (text ++ [c]) = estimateLevel text.reverse (levelAfter text) c := by
  rw [levelAfter, readFrom_concat, List.append_nil]
  rfl

/-! ### The level and the stack -/

theorem count_tail (stack : List Bool) : stack.count true ≤ stack.tail.count true + 1 := by
  cases stack with
  | nil => simp
  | cons b stack =>
    have hle := List.count_le_length (a := true) (l := [b])
    rw [← List.singleton_append, List.count_append]
    simp only [List.length_singleton, List.singleton_append, List.tail_cons] at hle ⊢
    omega

theorem estimateLevel_le {level : Nat} {stack : List Bool} (h : level ≤ stack.count true)
    (before : List Char) (c : Char) :
    estimateLevel before level c ≤ (matchBrace before stack c).count true := by
  unfold estimateLevel matchBrace
  by_cases hopen : c = '\x7b'
  · rw [if_pos hopen, if_pos hopen]
    cases hcontrol : isControlBrace before with
    | true =>
      rw [if_pos rfl, List.count_cons_self]
      omega
    | false =>
      rw [if_neg (by simp), List.count_cons_of_ne (by simp)]
      exact h
  · rw [if_neg hopen, if_neg hopen]
    by_cases hclose : c = '\x7d'
    · have htail := count_tail stack
      rw [if_pos hclose, if_pos hclose]
      omega
    · rw [if_neg hclose, if_neg hclose]
      exact h

theorem levelAfter_le (text : List Char) : levelAfter text ≤ controlsOpen text := by
  induction text using List.reverseRecOn with
  | nil => exact Nat.le_refl 0
  | append_singleton text c ih =>
    rw [levelAfter_concat, controlsOpen, openBraces_concat]
    exact estimateLevel_le ih text.reverse c

/-- No brace other than a control brace is opened while a control brace is open. -/
def PlainBracesOutside (text : List Char) : Prop :=
  ∀ before, before ++ ['\x7b'] <+: text → ¬ EndsInControl before → controlsOpen before = 0

instance (text : List Char) : Decidable (EndsInControl text) :=
  decidable_of_iff _ (isControlBrace_iff text)

instance (text : List Char) : Decidable (PlainBracesOutside text) :=
  decidable_of_iff (∀ before ∈ text.inits, before ++ ['\x7b'] <+: text → ¬ EndsInControl before →
      controlsOpen before = 0)
    ⟨fun h before hopen => h before
        ((List.mem_inits before text).2 ((List.prefix_append before _).trans hopen)) hopen,
      fun h before _ => h before⟩

/-- A stack with all its control braces above the other ones, as many as the level tells. -/
def Layered (level : Nat) (stack : List Bool) : Prop :=
  ∃ plain, stack = List.replicate level true ++ List.replicate plain false

theorem Layered.count {level : Nat} {stack : List Bool} (h : Layered level stack) :
    stack.count true = level := by
  obtain ⟨plain, rfl⟩ := h
  simp [List.count_append, List.count_replicate]

theorem Layered.step {level : Nat} {stack : List Bool} (h : Layered level stack)
    (before : List Char) (c : Char)
    (hplain : c = '\x7b' → isControlBrace before = false → level = 0) :
    Layered (estimateLevel before level c) (matchBrace before stack c) := by
  obtain ⟨plain, rfl⟩ := h
  unfold estimateLevel matchBrace
  by_cases hopen : c = '\x7b'
  · rw [if_pos hopen, if_pos hopen]
    cases hcontrol : isControlBrace before with
    | true => exact ⟨plain, by simp [List.replicate_succ]⟩
    | false =>
      obtain rfl := hplain hopen hcontrol
      exact ⟨plain + 1, by simp [List.replicate_succ]⟩
  · rw [if_neg hopen, if_neg hopen]
    by_cases hclose : c = '\x7d'
    · rw [if_pos hclose, if_pos hclose]
      -- A closing brace meets a plain brace only when no control brace is left.
      cases level with
      | zero => exact ⟨plain - 1, by simp⟩
      | succ level => exact ⟨plain, by simp [List.replicate_succ]⟩
    · rw [if_neg hclose, if_neg hclose]
      exact ⟨plain, rfl⟩

theorem layered_of_plainOutside {text before : List Char} (h : PlainBracesOutside text)
    (hbefore : before <+: text) : Layered (levelAfter before) (openBraces before) := by
  induction before using List.reverseRecOn with
  | nil => exact ⟨0, rfl⟩
  | append_singleton before c ih =>
    have hlayered := ih ((List.prefix_append before [c]).trans hbefore)
    rw [levelAfter_concat, openBraces_concat]
    refine hlayered.step before.reverse c ?_
    rintro rfl hcontrol
    have hnot : ¬ EndsInControl before := by
      rw [← isControlBrace_iff, hcontrol]
      simp
    exact hlayered.count.symm.trans (h before hbefore hnot)

/-! ### The estimate as the highest level -/

theorem nestingFrom_cons (before : List Char) (level deepest : Nat) (c : Char) (rest : List Char)
    (h : level ≤ deepest) :
    nestingFrom before level deepest (c :: rest) =
      nestingFrom (c :: before) (estimateLevel before level c)
        (max deepest (estimateLevel before level c)) rest := by
  rw [nestingFrom, estimateLevel]
  by_cases hopen : c = '\x7b'
  · rw [if_pos hopen, if_pos hopen]
    by_cases hcontrol : isControlBrace before = true
    · rw [if_pos hcontrol, if_pos hcontrol]
    · rw [if_neg hcontrol, if_neg hcontrol, Nat.max_eq_left h]
  · rw [if_neg hopen, if_neg hopen]
    by_cases hclose : c = '\x7d'
    · rw [if_pos hclose, if_pos hclose, Nat.max_eq_left (by omega)]
    · rw [if_neg hclose, if_neg hclose, Nat.max_eq_left h]

theorem le_nestingFrom (text before : List Char) {level deepest : Nat} (h : level ≤ deepest) :
    deepest ≤ nestingFrom before level deepest text ∧
      ∀ start, start <+: text →
        readFrom estimateLevel before level start ≤ nestingFrom before level deepest text := by
  induction text generalizing before level deepest with
  | nil =>
    refine ⟨Nat.le_refl _, ?_⟩
    intro start hstart
    rw [List.prefix_nil.1 hstart]
    exact h
  | cons c rest ih =>
    obtain ⟨hdeepest, hlevels⟩ := ih (c :: before) (Nat.le_max_right deepest _)
    rw [nestingFrom_cons before level deepest c rest h]
    refine ⟨Nat.le_trans (Nat.le_max_left _ _) hdeepest, ?_⟩
    intro start hstart
    cases start with
    | nil => exact Nat.le_trans h (Nat.le_trans (Nat.le_max_left _ _) hdeepest)
    | cons d start =>
      obtain ⟨rfl, hrest⟩ := List.cons_prefix_cons.1 hstart
      exact hlevels start hrest

theorem exists_level_of_nestingFrom (text before : List Char) {level deepest : Nat}
    (h : level ≤ deepest) :
    nestingFrom before level deepest text = deepest ∨
      ∃ start, start <+: text ∧
        readFrom estimateLevel before level start = nestingFrom before level deepest text := by
  induction text generalizing before level deepest with
  | nil => exact .inl rfl
  | cons c rest ih =>
    rw [nestingFrom_cons before level deepest c rest h]
    rcases ih (c :: before) (Nat.le_max_right deepest (estimateLevel before level c)) with
      hsame | ⟨start, hstart, hlevel⟩
    · by_cases hle : estimateLevel before level c ≤ deepest
      · exact .inl (by rw [hsame, Nat.max_eq_left hle])
      · refine .inr ⟨[c], by simp, ?_⟩
        rw [hsame, Nat.max_eq_right (by omega)]
        rfl
    · exact .inr ⟨c :: start, List.cons_prefix_cons.2 ⟨rfl, hstart⟩, hlevel⟩

theorem nesting_isGreatest (text : List Char) :
    IsGreatest {level | ∃ start, start <+: text ∧ levelAfter start = level} (nesting text) := by
  constructor
  · rcases exists_level_of_nestingFrom text [] (Nat.le_refl 0) with hzero | hlevel
    · exact ⟨[], List.nil_prefix, hzero.symm⟩
    · exact hlevel
  · rintro level ⟨start, hstart, rfl⟩
    exact (le_nestingFrom text [] (Nat.le_refl 0)).2 start hstart

theorem nesting_le_append (s t : List Char) : nesting s ≤ nesting (s ++ t) := by
  obtain ⟨start, hstart, hlevel⟩ := (nesting_isGreatest s).1
  rw [← hlevel]
  exact (nesting_isGreatest (s ++ t)).2 ⟨start, hstart.trans (List.prefix_append s t), rfl⟩

/-! ### The estimate against the stack -/

theorem exists_greatest_of_prefixes (f : List Char → Nat) (text : List Char) :
    ∃ most, IsGreatest {n | ∃ start, start <+: text ∧ f start = n} most := by
  induction text using List.reverseRecOn with
  | nil =>
    refine ⟨f [], ⟨[], List.nil_prefix, rfl⟩, ?_⟩
    rintro n ⟨start, hstart, rfl⟩
    rw [List.prefix_nil.1 hstart]
  | append_singleton text c ih =>
    obtain ⟨most, ⟨start, hstart, hmost⟩, hle⟩ := ih
    refine ⟨max most (f (text ++ [c])), ?_, ?_⟩
    · by_cases hnew : most ≤ f (text ++ [c])
      · exact ⟨text ++ [c], List.prefix_rfl, (Nat.max_eq_right hnew).symm⟩
      · refine ⟨start, hstart.trans (List.prefix_append text [c]), ?_⟩
        rw [hmost, Nat.max_eq_left (by omega)]
    · rintro n ⟨start, hstart, rfl⟩
      rcases List.prefix_concat_iff.1 hstart with rfl | hstart
      · exact Nat.le_max_right _ _
      · exact Nat.le_trans (hle ⟨start, hstart, rfl⟩) (Nat.le_max_left _ _)

/-- Control braces are those that a control word comes before within reach. Matched with a stack,
some largest number of them is open at the same time, and the estimated nesting never exceeds it. It
is that number when no other brace is opened while a control brace is open. -/
theorem nesting_against_stack (text : List Char) :
    (∀ before, isControlBrace before.reverse = true ↔ EndsInControl before) ∧
    ∃ most, IsGreatest {n | ∃ start, start <+: text ∧ controlsOpen start = n} most ∧
      nesting text ≤ most ∧ (PlainBracesOutside text → nesting text = most) := by
  obtain ⟨most, hmost⟩ := exists_greatest_of_prefixes controlsOpen text
  refine ⟨isControlBrace_iff, most, hmost, ?_, ?_⟩
  · obtain ⟨start, hstart, hlevel⟩ := (nesting_isGreatest text).1
    rw [← hlevel]
    exact Nat.le_trans (levelAfter_le start) (hmost.2 ⟨start, hstart, rfl⟩)
  · intro hplain
    have hsame : {level | ∃ start, start <+: text ∧ levelAfter start = level} =
        {n | ∃ start, start <+: text ∧ controlsOpen start = n} := by
      ext n
      refine exists_congr fun start => and_congr_right fun hstart => ?_
      rw [controlsOpen, (layered_of_plainOutside hplain hstart).count]
    exact (hsame ▸ nesting_isGreatest text).unique hmost

theorem nesting_inside_plain_block :
    PlainBracesOutside "A\x7bif(b)\x7bdo\x7b\x7d\x7d\x7d".toList ∧
    nesting "A\x7bif(b)\x7bdo\x7b\x7d\x7d\x7d".toList = 2 ∧
    IsGreatest {n | ∃ start, start <+: "A\x7bif(b)\x7bdo\x7b\x7d\x7d\x7d".toList ∧
      controlsOpen start = n} 2 := by
  have hplain : PlainBracesOutside "A\x7bif(b)\x7bdo\x7b\x7d\x7d\x7d".toList := by decide +kernel
  have htwo : nesting "A\x7bif(b)\x7bdo\x7b\x7d\x7d\x7d".toList = 2 := by decide +kernel
  obtain ⟨-, most, hmost, -, hexact⟩ :=
    nesting_against_stack "A\x7bif(b)\x7bdo\x7b\x7d\x7d\x7d".toList
  rw [← hexact hplain, htwo] at hmost
  exact ⟨hplain, htwo, hmost⟩

-- A plain block inside a control structure: its closing brace lowers the level too early.
example : nesting "if(a)\x7b\x7b\x7ddo\x7b".toList = 1 ∧
    controlsOpen "if(a)\x7b\x7b\x7ddo\x7b".toList = 2 := by
  decide +kernel

end TagAudit.Source
