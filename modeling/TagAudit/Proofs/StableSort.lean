import Mathlib.Data.Prod.Lex
import Mathlib.Order.Basic

/-!
# Stable sorting

A list sorted by a key, with entries of equal keys left as they stood. There is exactly one such
list, so two ways to sort that both leave ties alone give the same result, and selecting entries
before or after sorting makes no difference.
-/

namespace TagAudit

section

variable {α κ : Type} [LinearOrder κ] {key : α → κ} {xs ys zs : List α}

/-- `ys` are the entries of `xs` by ascending keys; those of one key stand as in `xs`. -/
structure StableSort (key : α → κ) (xs ys : List α) : Prop where
  ordered : ys.Pairwise fun a b => key a ≤ key b
  stable : ∀ k, ys.filter (key · = k) = xs.filter (key · = k)

theorem StableSort.mem_iff (h : StableSort key xs ys) (a : α) : a ∈ ys ↔ a ∈ xs := by
  have hfilter : ∀ zs : List α, a ∈ zs ↔ a ∈ zs.filter (key · = key a) := by simp
  rw [hfilter ys, hfilter xs, h.stable]

theorem StableSort.filter (h : StableSort key xs ys) (p : α → Bool) :
    StableSort key (xs.filter p) (ys.filter p) := by
  refine ⟨h.ordered.filter p, fun k => ?_⟩
  have hcomm : ∀ zs : List α,
      (zs.filter p).filter (key · = k) = (zs.filter (key · = k)).filter p := by
    intro zs
    simp only [List.filter_filter, Bool.and_comm]
  rw [hcomm, hcomm, h.stable]

theorem StableSort.map {β : Type} (h : StableSort key xs ys) (f : α → β) (key' : β → κ)
    (hkey : ∀ a, key' (f a) = key a) : StableSort key' (xs.map f) (ys.map f) := by
  refine ⟨List.pairwise_map.2 (h.ordered.imp ?_), fun k => ?_⟩
  · intro a b hab
    rw [hkey, hkey]
    exact hab
  · simp only [List.filter_map, Function.comp_def, hkey, h.stable]

theorem StableSort.nil_left (h : StableSort key [] ys) : ys = [] := by
  rw [List.eq_nil_iff_forall_not_mem]
  intro a ha
  exact absurd ((h.mem_iff a).1 ha) (by simp)

/- The first entries of two sorted versions have the same least key, and the entries of that key
start with the same one. -/
theorem StableSort.unique (hy : StableSort key xs ys) (hz : StableSort key xs zs) : ys = zs := by
  have hsame : ∀ k, ys.filter (key · = k) = zs.filter (key · = k) := by
    intro k
    rw [hy.stable, hz.stable]
  have hordered := hy.ordered
  have hordered' := hz.ordered
  clear hy hz
  induction ys generalizing zs with
  | nil => exact ((⟨hordered', fun k => (hsame k).symm⟩ : StableSort key [] zs).nil_left).symm
  | cons a ys ih =>
    cases zs with
    | nil => exact (⟨hordered, hsame⟩ : StableSort key [] (a :: ys)).nil_left
    | cons b zs =>
      have hmem : ∀ c, c ∈ a :: ys ↔ c ∈ b :: zs :=
        (⟨hordered, hsame⟩ : StableSort key (b :: zs) (a :: ys)).mem_iff
      have hab : key a ≤ key b := by
        rcases List.mem_cons.1 ((hmem b).2 (List.mem_cons_self ..)) with h | h
        · rw [h]
        · exact (List.pairwise_cons.1 hordered).1 b h
      have hba : key b ≤ key a := by
        rcases List.mem_cons.1 ((hmem a).1 (List.mem_cons_self ..)) with h | h
        · rw [h]
        · exact (List.pairwise_cons.1 hordered').1 a h
      have hkey : key b = key a := le_antisymm hba hab
      have hhead := hsame (key a)
      rw [List.filter_cons_of_pos (by simp), List.filter_cons_of_pos (by simp [hkey])] at hhead
      obtain rfl : a = b := (List.cons.inj hhead).1
      rw [ih (fun k => ?_) (List.pairwise_cons.1 hordered).2 (List.pairwise_cons.1 hordered').2]
      have htail := hsame k
      by_cases hk : key a = k
      · rw [List.filter_cons_of_pos (by simp [hk]), List.filter_cons_of_pos (by simp [hk])] at htail
        exact (List.cons.inj htail).2
      · rwa [List.filter_cons_of_neg (by simp [hk]), List.filter_cons_of_neg (by simp [hk])]
          at htail

end

/-! ### Sorting by comparison -/

section

variable {α κ : Type} [LinearOrder κ]

theorem filter_mergeSort (before : α → α → Bool) (p : α → Bool) (xs : List α)
    (htrans : ∀ a b c, before a b = true → before b c = true → before a c = true)
    (htotal : ∀ a b, (before a b || before b a) = true)
    (h : (xs.filter p).Pairwise fun a b => before a b = true) :
    (xs.mergeSort before).filter p = xs.filter p := by
  have hsub : (xs.filter p).Sublist (xs.mergeSort before) :=
    List.sublist_mergeSort htrans htotal h List.filter_sublist
  have hsub' : (xs.filter p).Sublist ((xs.mergeSort before).filter p) := by
    simpa [List.filter_filter] using hsub.filter p
  have hlength := ((List.mergeSort_perm xs before).filter p).length_eq
  exact (hsub'.eq_of_length hlength.symm).symm

/-- Sorting by a comparison of fine keys is sorting by coarse ones when the entries of one coarse key
are given in the order of their fine keys. -/
theorem stableSort_mergeSort {μ : Type} [LinearOrder μ] (key : α → κ) (fine : α → μ)
    (before : α → α → Bool) (xs : List α) (hbefore : ∀ a b, before a b = true ↔ fine a ≤ fine b)
    (hfine : ∀ a b, fine a ≤ fine b → key a ≤ key b)
    (hties : xs.Pairwise fun a b => key a = key b → fine a ≤ fine b) :
    StableSort key xs (xs.mergeSort before) := by
  have htrans : ∀ a b c, before a b = true → before b c = true → before a c = true := by
    intro a b c hab hbc
    rw [hbefore] at hab hbc ⊢
    exact le_trans hab hbc
  have htotal : ∀ a b, (before a b || before b a) = true := by
    intro a b
    rw [Bool.or_eq_true, hbefore, hbefore]
    exact le_total (fine a) (fine b)
  refine ⟨?_, fun k => ?_⟩
  · refine (List.pairwise_mergeSort htrans htotal xs).imp ?_
    intro a b hab
    exact hfine a b ((hbefore a b).1 hab)
  · refine filter_mergeSort before _ xs htrans htotal ?_
    refine (List.pairwise_filter.2 (hties.imp ?_))
    intro a b htie ha hb
    rw [decide_eq_true_eq] at ha hb
    exact (hbefore a b).2 (htie (ha.trans hb.symm))

end

/-- In a list whose entries that satisfy a test come first, the leading ones that satisfy it are all
that do. -/
theorem takeWhile_eq_filter_of_pairwise {α : Type} (p : α → Bool) (xs : List α)
    (h : xs.Pairwise fun a b => p b = true → p a = true) : xs.takeWhile p = xs.filter p := by
  induction xs with
  | nil => rfl
  | cons a xs ih =>
    obtain ⟨hhead, htail⟩ := List.pairwise_cons.1 h
    by_cases ha : p a = true
    · rw [List.takeWhile_cons_of_pos ha, List.filter_cons_of_pos ha, ih htail]
    · rw [List.takeWhile_cons_of_neg ha, List.filter_cons_of_neg ha]
      symm
      rw [List.filter_eq_nil_iff]
      intro b hb hpb
      exact ha (hhead b hb hpb)

end TagAudit
