import TagAudit.Text.Blank
import TagAudit.Text.Lowercase

/-!
# Lower case

The lower-case forms of characters are lower-case themselves: in the table of runs no form of one
run is a character of another one, which the ends and the steps of the runs decide. So a text in
lower case stays as it is, and the final sigma with it. No form is blank unless its character is.
-/

namespace TagAudit.Text

/-! ### Runs -/

namespace CaseRun

theorem image?_eq_some_iff (r : CaseRun) (n m : Nat) :
    r.image? n = some m ↔
      (r.first ≤ n ∧ n ≤ r.last ∧ (n - r.first) % r.step = 0) ∧ r.target + (n - r.first) = m := by
  unfold image?
  split
  · rename_i h
    simp [h]
  · rename_i h
    simp [h]

theorem source?_of_image? {r : CaseRun} {n m : Nat} (h : r.image? n = some m) :
    r.source? m = some n := by
  obtain ⟨⟨hfirst, hlast, hstep⟩, rfl⟩ := (image?_eq_some_iff r n m).1 h
  unfold source?
  rw [Nat.add_sub_cancel_left, if_pos ⟨by omega, by omega, hstep⟩, Nat.add_sub_cancel' hfirst]

/-- No form of the run is a character of the other one: they lie apart, or they are even on the one
side and odd on the other. -/
def avoids (r q : CaseRun) : Bool :=
  (r.target + (r.last - r.first)).blt q.first || q.last.blt r.target ||
    ((r.step % 2).beq 0 || r.first.beq r.last) && (q.step % 2).beq 0 &&
      ((r.target + q.first) % 2).beq 1

theorem even_of_step {n step : Nat} (hstep : step % 2 = 0) (h : n % step = 0) : n % 2 = 0 := by
  have hdvd := Nat.dvd_trans (Nat.dvd_of_mod_eq_zero hstep) (Nat.dvd_of_mod_eq_zero h)
  exact Nat.mod_eq_zero_of_dvd hdvd

theorem image?_eq_none_of_avoids {r q : CaseRun} (h : r.avoids q = true) {n m : Nat}
    (hm : r.image? n = some m) : q.image? m = none := by
  obtain ⟨⟨hfirst, hlast, hstep⟩, rfl⟩ := (image?_eq_some_iff r n m).1 hm
  cases hq : q.image? (r.target + (n - r.first)) with
  | none => rfl
  | some k =>
    obtain ⟨⟨hfirst', hlast', hstep'⟩, -⟩ := (image?_eq_some_iff q _ k).1 hq
    simp only [avoids, Bool.or_eq_true, Bool.and_eq_true, Nat.blt_eq, Nat.beq_eq] at h
    rcases h with (hapart | hapart) | ⟨⟨heven, heven'⟩, hodd⟩
    · omega
    · omega
    · have hparity : (n - r.first) % 2 = 0 := by
        rcases heven with heven | hsingle
        · exact even_of_step heven hstep
        · omega
      have hparity' := even_of_step heven' hstep'
      omega

end CaseRun

/-- No form of the table is a character of it or the dotted capital I. All of them are characters
beyond ASCII, save the one of the sign for kelvin, and they keep off the blanks there. -/
theorem lowerRuns_checked : ∀ r ∈ lowerRuns,
    lowerRuns.all r.avoids = true ∧ r.source? 0x130 = none ∧
    ((r.target = 'k'.toNat ∧ r.first = r.last) ∨
      0xA0 < r.target ∧ r.target + (r.last - r.first) < 0x1680 ∨
      0x1680 < r.target ∧ r.target + (r.last - r.first) < 0x2000 ∨
      0x205F < r.target ∧ r.target + (r.last - r.first) < 0x3000 ∨
      0x3000 < r.target ∧ r.target + (r.last - r.first) < 0xD800 ∨
      0xDFFF < r.target ∧ r.target + (r.last - r.first) < 0x110000) := by
  decide +kernel

/-! ### Characters -/

theorem toNat_ofNat_of_valid {n : Nat} (h : n.isValidChar) : (Char.ofNat n).toNat = n := by
  unfold Char.ofNat
  rw [dif_pos h]
  rfl

/-- All that a character of a lower-case form can be. -/
theorem mem_lowerOf_cases {c d : Char} (h : d ∈ lowerOf c) :
    (c.toNat < 0x80 ∧ d = c.toLower) ∨ d = 'i' ∨ d = Char.ofNat 0x307 ∨
    (∃ r ∈ lowerRuns, ∃ m, r.image? c.toNat = some m ∧ d = Char.ofNat m) ∨
    (lowerOf c = [c] ∧ d = c) := by
  unfold lowerOf at h ⊢
  dsimp only at h ⊢
  by_cases hascii : c.toNat < 0x80
  · rw [if_pos hascii] at h
    exact .inl ⟨hascii, List.mem_singleton.1 h⟩
  · rw [if_neg hascii] at h ⊢
    by_cases hdotted : c.toNat = 0x130
    · rw [if_pos hdotted] at h
      rcases List.mem_cons.1 h with rfl | h
      · exact .inr (.inl rfl)
      · exact .inr (.inr (.inl (List.mem_singleton.1 h)))
    · rw [if_neg hdotted] at h ⊢
      cases hfound : lowerRuns.findSome? (·.image? c.toNat) with
      | none =>
        rw [hfound] at h
        exact .inr (.inr (.inr (.inr ⟨rfl, List.mem_singleton.1 h⟩)))
      | some m =>
        rw [hfound] at h
        obtain ⟨r, hr, himage⟩ := List.exists_of_findSome?_eq_some hfound
        exact .inr (.inr (.inr (.inl ⟨r, hr, m, himage, List.mem_singleton.1 h⟩)))

theorem lowerOf_ne_nil (c : Char) : lowerOf c ≠ [] := by
  unfold lowerOf
  dsimp only
  split
  · simp
  · split <;> simp

theorem lowerOf_eq_self {c : Char} (hascii : 0x80 ≤ c.toNat) (hdotted : c.toNat ≠ 0x130)
    (h : ∀ r ∈ lowerRuns, r.image? c.toNat = none) : lowerOf c = [c] := by
  unfold lowerOf
  dsimp only
  rw [if_neg (Nat.not_lt.2 hascii), if_neg hdotted, List.findSome?_eq_none_iff.2 h]
  rfl

theorem lowerOf_of_image? {r : CaseRun} (hr : r ∈ lowerRuns) {n m : Nat}
    (h : r.image? n = some m) : lowerOf (Char.ofNat m) = [Char.ofNat m] := by
  obtain ⟨⟨hfirst, hlast, -⟩, hm⟩ := (r.image?_eq_some_iff n m).1 h
  obtain ⟨havoids, hnotDotted, hkelvin | htargets⟩ := lowerRuns_checked r hr
  · obtain rfl : m = 'k'.toNat := by omega
    decide
  · have hcode : (Char.ofNat m).toNat = m := toNat_ofNat_of_valid (by omega)
    have hdotted : m ≠ 0x130 := by
      rintro rfl
      have hsource := CaseRun.source?_of_image? h
      rw [hnotDotted] at hsource
      contradiction
    refine lowerOf_eq_self (by omega) (by omega) ?_
    intro q hq
    rw [hcode]
    exact CaseRun.image?_eq_none_of_avoids (List.all_eq_true.1 havoids q hq) h

theorem lowerOf_ascii : ∀ n < 0x80, lowerOf (Char.ofNat n).toLower = [(Char.ofNat n).toLower] ∧
    (isBlank (Char.ofNat n) = false → isBlank (Char.ofNat n).toLower = false) := by
  decide +kernel

/-- The dot above and the two small sigmas. -/
theorem lowerOf_fixed : ∀ n ∈ [0x307, 0x3C2, 0x3C3], lowerOf (Char.ofNat n) = [Char.ofNat n] := by
  decide +kernel

/-- The lower-case form of a character is lower-case. -/
theorem lowerOf_of_mem {c d : Char} (h : d ∈ lowerOf c) : lowerOf d = [d] := by
  rcases mem_lowerOf_cases h with ⟨hascii, rfl⟩ | rfl | rfl | ⟨r, hr, m, himage, rfl⟩ | ⟨heq, rfl⟩
  · have hfixed := (lowerOf_ascii c.toNat hascii).1
    rw [Char.ofNat_toNat] at hfixed
    exact hfixed
  · decide
  · exact lowerOf_fixed _ (by decide)
  · exact lowerOf_of_image? hr himage
  · exact heq

theorem isBlank_of_mem_lowerOf {c d : Char} (h : d ∈ lowerOf c) (hc : isBlank c = false) :
    isBlank d = false := by
  rcases mem_lowerOf_cases h with ⟨hascii, rfl⟩ | rfl | rfl | ⟨r, hr, m, himage, rfl⟩ | ⟨-, rfl⟩
  · have hblank := (lowerOf_ascii c.toNat hascii).2
    rw [Char.ofNat_toNat] at hblank
    exact hblank hc
  · decide
  · decide
  · obtain ⟨⟨hfirst, hlast, -⟩, rfl⟩ := (r.image?_eq_some_iff c.toNat m).1 himage
    obtain ⟨-, -, hkelvin | htargets⟩ := lowerRuns_checked r hr
    · have hm : r.target + (c.toNat - r.first) = 'k'.toNat := by omega
      rw [hm]
      decide
    · unfold isBlank
      rw [toNat_ofNat_of_valid (by omega)]
      simp only [Bool.or_eq_false_iff, Bool.and_eq_false_iff, decide_eq_false_iff_not,
        beq_eq_false_iff_ne]
      omega
  · exact hc

/-! ### Texts -/

/-- The lower-case form of a character between `before`, nearest first, and `after`. -/
def lowered (before : List Char) (c : Char) (after : List Char) : List Char :=
  if c = capitalSigma then [lowerSigma before after] else lowerOf c

theorem lowercaseFrom_cons (before : List Char) (c : Char) (after : List Char) :
    lowercaseFrom before (c :: after) =
      lowered before c after ++ lowercaseFrom (c :: before) after := rfl

theorem lowered_ne_nil (before : List Char) (c : Char) (after : List Char) :
    lowered before c after ≠ [] := by
  unfold lowered
  split
  · simp
  · exact lowerOf_ne_nil c

theorem mem_lowered_cases {before after : List Char} {c d : Char} (h : d ∈ lowered before c after) :
    d = Char.ofNat 0x3C2 ∨ d = Char.ofNat 0x3C3 ∨ d ∈ lowerOf c := by
  unfold lowered lowerSigma at h
  split at h
  · rw [List.mem_singleton.1 h]
    split
    · exact .inl rfl
    · exact .inr (.inl rfl)
  · exact .inr (.inr h)

theorem lowerOf_of_mem_lowered {before after : List Char} {c d : Char}
    (h : d ∈ lowered before c after) : lowerOf d = [d] := by
  rcases mem_lowered_cases h with rfl | rfl | h
  · exact lowerOf_fixed _ (by decide)
  · exact lowerOf_fixed _ (by decide)
  · exact lowerOf_of_mem h

theorem isBlank_of_mem_lowered {before after : List Char} {c d : Char}
    (h : d ∈ lowered before c after) (hc : isBlank c = false) : isBlank d = false := by
  rcases mem_lowered_cases h with rfl | rfl | h
  · decide
  · decide
  · exact isBlank_of_mem_lowerOf h hc

theorem lowercaseFrom_eq_nil_iff (before cs : List Char) :
    lowercaseFrom before cs = [] ↔ cs = [] := by
  cases cs with
  | nil => simp [lowercaseFrom]
  | cons c cs => simp [lowercaseFrom_cons, lowered_ne_nil]

theorem lowerOf_of_mem_lowercaseFrom {before cs : List Char} {d : Char}
    (h : d ∈ lowercaseFrom before cs) : lowerOf d = [d] := by
  induction cs generalizing before with
  | nil => exact absurd h (by simp [lowercaseFrom])
  | cons c cs ih =>
    rw [lowercaseFrom_cons] at h
    rcases List.mem_append.1 h with h | h
    · exact lowerOf_of_mem_lowered h
    · exact ih h

/-- A text of lower-case characters is in lower case. -/
theorem lowercaseFrom_eq_self {cs : List Char} (h : ∀ c ∈ cs, lowerOf c = [c])
    (before : List Char) : lowercaseFrom before cs = cs := by
  induction cs generalizing before with
  | nil => rfl
  | cons c cs ih =>
    have hc : lowerOf c = [c] := h c List.mem_cons_self
    have hsigma : c ≠ capitalSigma := by
      rintro rfl
      exact absurd hc (by decide +kernel)
    have hrest := ih fun d hd => h d (List.mem_cons_of_mem c hd)
    rw [lowercaseFrom_cons, lowered, if_neg hsigma, hc, hrest]
    rfl

/-! ### Blanks around a text -/

def Trimmed (cs : List Char) : Prop :=
  (∀ c ∈ cs.head?, isBlank c = false) ∧ ∀ c ∈ cs.getLast?, isBlank c = false

theorem isBlank_head?_trimStart (cs : List Char) :
    ∀ c ∈ (trimStart cs).head?, isBlank c = false := by
  intro c hc
  have hne : trimStart cs ≠ [] := by
    intro hnil
    rw [hnil] at hc
    contradiction
  have hhead := List.head_dropWhile_not isBlank hne
  rw [List.head?_eq_some_head hne, Option.mem_some_iff] at hc
  rw [← hc]
  exact hhead

theorem trimStart_of_head? {cs : List Char} (h : ∀ c ∈ cs.head?, isBlank c = false) :
    trimStart cs = cs := by
  cases cs with
  | nil => rfl
  | cons c cs => exact trimStart_cons_of_not_blank c cs (h c rfl)

theorem trimmed_trim (cs : List Char) : Trimmed (trim cs) := by
  have hfirst := isBlank_head?_trimStart cs
  have hlast := isBlank_head?_trimStart (trimStart cs).reverse
  obtain ⟨blanks, hblanks⟩ := trimStart_suffix (trimStart cs).reverse
  unfold trim
  constructor
  · -- What the second trimming leaves ends as the first one starts.
    intro c hc
    rw [List.head?_reverse] at hc
    refine hfirst c ?_
    rw [← List.getLast?_reverse, ← hblanks, List.getLast?_append, hc]
    rfl
  · rw [List.getLast?_reverse]
    exact hlast

theorem trim_of_trimmed {cs : List Char} (h : Trimmed cs) : trim cs = cs := by
  have hreverse : trimStart cs.reverse = cs.reverse := by
    refine trimStart_of_head? ?_
    rw [List.head?_reverse]
    exact h.2
  rw [trim, trimStart_of_head? h.1, hreverse, List.reverse_reverse]

theorem trimmed_lowercaseFrom {cs : List Char} (h : Trimmed cs) (before : List Char) :
    Trimmed (lowercaseFrom before cs) := by
  constructor
  · cases cs with
    | nil => simp [lowercaseFrom]
    | cons c cs =>
      intro d hd
      rw [lowercaseFrom_cons, List.head?_append,
        Option.or_of_isSome (List.isSome_head?.2 (lowered_ne_nil before c cs))] at hd
      exact isBlank_of_mem_lowered (List.mem_of_mem_head? hd) (h.1 c rfl)
  · have hlast := h.2
    clear h
    induction cs generalizing before with
    | nil => simp [lowercaseFrom]
    | cons c cs ih =>
      intro d hd
      rw [lowercaseFrom_cons, List.getLast?_append] at hd
      cases cs with
      | nil => exact isBlank_of_mem_lowered (List.mem_of_mem_getLast? hd) (hlast c rfl)
      | cons e cs =>
        rw [List.getLast?_cons_cons] at hlast
        cases hmore : (lowercaseFrom (c :: before) (e :: cs)).getLast? with
        | none =>
          have hnil := List.getLast?_eq_none_iff.1 hmore
          simp [lowercaseFrom_eq_nil_iff] at hnil
        | some x =>
          rw [hmore, Option.some_or] at hd
          exact ih (c :: before) hlast d (hmore.trans hd)

end TagAudit.Text
