import Mathlib.Data.List.Forall2
import TagAudit.Table

/-!
# Results and lists

Facts about results, look-ups, lists without repetition and sums that the other modules share.
-/

namespace TagAudit

/-! ### Results -/

theorem map_eq_ok_iff {ε α β : Type} (f : α → β) (x : Except ε α) (b : β) :
    x.map f = .ok b ↔ ∃ a, x = .ok a ∧ f a = b := by
  cases x with
  | error e => simp [Except.map]
  | ok a => simp [Except.map]

theorem map_eq_error_iff {ε α β : Type} (f : α → β) (x : Except ε α) (e : ε) :
    x.map f = .error e ↔ x = .error e := by
  cases x with
  | error e' => simp [Except.map]
  | ok a => simp [Except.map]

theorem bind_eq_ok_iff {ε α β : Type} (x : Except ε α) (f : α → Except ε β) (b : β) :
    x >>= f = .ok b ↔ ∃ a, x = .ok a ∧ f a = .ok b := by
  cases x with
  | error e => simp [bind, Except.bind]
  | ok a => simp [bind, Except.bind]

theorem mapError_eq_ok_iff {ε ε' α : Type} (f : ε → ε') (x : Except ε α) (a : α) :
    x.mapError f = .ok a ↔ x = .ok a := by
  cases x with
  | error e =>
    change Except.error (f e) = .ok a ↔ _
    simp
  | ok a' =>
    change Except.ok a' = .ok a ↔ _
    simp

/-! ### Results of a list -/

section Results

variable {ε α β : Type} {f : α → Except ε β}

theorem mapM_cons_ok_iff (a : α) (l : List α) (m : List β) :
    (a :: l).mapM f = .ok m ↔ ∃ b bs, f a = .ok b ∧ l.mapM f = .ok bs ∧ m = b :: bs := by
  rw [List.mapM_cons]
  cases f a with
  | error e => simp [bind, Except.bind]
  | ok b =>
    cases l.mapM f with
    | error e => simp [bind, Except.bind]
    | ok bs => simp [bind, Except.bind, pure, Except.pure, eq_comm]

theorem mapM_ok_iff (l : List α) (m : List β) :
    l.mapM f = .ok m ↔ List.Forall₂ (fun a b => f a = .ok b) l m := by
  induction l generalizing m with
  | nil =>
    rw [List.forall₂_nil_left_iff]
    constructor
    · intro h
      exact (Except.ok.inj h).symm
    · rintro rfl
      rfl
  | cons a l ih => simp only [mapM_cons_ok_iff, List.forall₂_cons_left_iff, ih]

theorem mem_of_forall₂ {l : List α} {m : List β} (h : List.Forall₂ (fun a b => f a = .ok b) l m)
    {b : β} (hb : b ∈ m) : ∃ a ∈ l, f a = .ok b := by
  induction h with
  | nil => exact absurd hb (by simp)
  | @cons a c l m hac _ ih =>
    rcases List.mem_cons.1 hb with rfl | hb
    · exact ⟨a, List.mem_cons_self, hac⟩
    · obtain ⟨a', ha', hab⟩ := ih hb
      exact ⟨a', List.mem_cons_of_mem a ha', hab⟩

end Results

/-! ### Look-ups -/

theorem mem_of_lookup {κ α : Type} [BEq κ] [LawfulBEq κ] {entries : List (κ × α)} {key : κ}
    {value : α} (h : entries.lookup key = some value) : (key, value) ∈ entries := by
  obtain ⟨l, r, heq, -⟩ := List.lookup_eq_some_iff.1 h
  rw [heq]
  simp

theorem lookup_cons_of_ne {κ α : Type} [BEq κ] [LawfulBEq κ] {key k : κ} (h : key ≠ k) (value : α)
    (entries : List (κ × α)) : ((k, value) :: entries).lookup key = entries.lookup key := by
  have hne : (key == k) = false := by simp [h]
  rw [List.lookup_cons, hne]

/-! ### Lists without repetition -/

section Distinct

variable {α : Type} [BEq α] [LawfulBEq α]

theorem eraseDups_of_nodup (l : List α) (h : l.Nodup) : l.eraseDups = l := by
  induction l with
  | nil => rfl
  | cons a l ih =>
    obtain ⟨ha, hl⟩ := List.nodup_cons.1 h
    have hfilter : l.filter (fun b => !b == a) = l := by
      rw [List.filter_eq_self]
      intro b hb
      have hne : b ≠ a := fun heq => ha (heq ▸ hb)
      simp [hne]
    rw [List.eraseDups_cons, hfilter, ih hl]

theorem filter_eraseDups (p : α → Bool) (l : List α) :
    l.eraseDups.filter p = (l.filter p).eraseDups := by
  induction hlen : l.length using Nat.strongRecOn generalizing l with
  | ind n ih =>
    cases l with
    | nil => rfl
    | cons a l =>
      have hle := List.length_filter_le (fun b => !b == a) l
      rw [List.length_cons] at hlen
      have hrest := ih _ (by omega) (l.filter fun b => !b == a) rfl
      rw [List.eraseDups_cons]
      by_cases ha : p a = true
      · rw [List.filter_cons_of_pos ha, List.filter_cons_of_pos ha, List.eraseDups_cons, hrest,
          List.filter_filter, List.filter_filter]
        simp only [Bool.and_comm]
      · rw [List.filter_cons_of_neg ha, List.filter_cons_of_neg ha, hrest, List.filter_filter]
        congr 1
        apply List.filter_congr
        intro b hb
        by_cases hba : b = a
        · simp [hba, ha]
        · simp [hba]

/-- Repetitions may be left out of the parts before they are left out of the whole. -/
theorem eraseDups_append_eraseDups (as bs : List α) :
    (as.eraseDups ++ bs.eraseDups).eraseDups = (as ++ bs).eraseDups := by
  have hremove : bs.eraseDups.removeAll as.eraseDups = (bs.removeAll as).eraseDups := by
    have hmem : ∀ b, as.eraseDups.elem b = as.elem b := by
      intro b
      rw [Bool.eq_iff_iff, List.elem_iff, List.elem_iff, List.mem_eraseDups]
    simp only [List.removeAll, hmem, filter_eraseDups]
  rw [List.eraseDups_append, List.eraseDups_append, hremove,
    eraseDups_of_nodup _ (nodup_eraseDups as), eraseDups_of_nodup _ (nodup_eraseDups _)]

end Distinct

/-! ### Sums -/

/-- The sum of a number over the entries of a list. -/
def sumOf {α : Type} (f : α → Nat) : List α → Nat
  | [] => 0
  | a :: l => f a + sumOf f l

theorem sumOf_append {α : Type} (f : α → Nat) (l m : List α) :
    sumOf f (l ++ m) = sumOf f l + sumOf f m := by
  induction l with
  | nil => simp [sumOf]
  | cons a l ih =>
    rw [List.cons_append, sumOf, sumOf, ih]
    omega

theorem sumOf_map {α β : Type} (f : β → Nat) (g : α → β) (l : List α) :
    sumOf f (l.map g) = sumOf (fun a => f (g a)) l := by
  induction l with
  | nil => rfl
  | cons a l ih => rw [List.map_cons, sumOf, sumOf, ih]

theorem sumOf_perm {α : Type} (f : α → Nat) {l m : List α} (h : l.Perm m) :
    sumOf f l = sumOf f m := by
  induction h with
  | nil => rfl
  | cons a _ ih => rw [sumOf, sumOf, ih]
  | swap a b l =>
    simp only [sumOf]
    omega
  | trans _ _ ih ih' => exact ih.trans ih'

theorem sumOf_filter_ne_zero {α : Type} (f : α → Nat) (l : List α) :
    sumOf f (l.filter (f · ≠ 0)) = sumOf f l := by
  induction l with
  | nil => rfl
  | cons a l ih =>
    by_cases ha : f a = 0
    · rw [List.filter_cons_of_neg (by simpa using ha), ih, sumOf]
      omega
    · rw [List.filter_cons_of_pos (by simpa using ha), sumOf, sumOf, ih]

theorem length_flatMap_eq {α β : Type} (f : α → List β) (l : List α) :
    (l.flatMap f).length = sumOf (fun a => (f a).length) l := by
  induction l with
  | nil => rfl
  | cons a l ih => rw [List.flatMap_cons, List.length_append, sumOf, ih]

end TagAudit
