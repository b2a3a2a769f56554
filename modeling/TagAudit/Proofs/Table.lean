import Mathlib.Data.List.Nodup
import TagAudit.Proofs.Basic
import TagAudit.Table

/-!
# Tables

Keys and values of a table seen through look-ups: a table is told by its keys and by what stands
under each of them.
-/

namespace TagAudit.Table

variable {κ α : Type}

theorem nodup_keys (t : Table κ α) : t.keys.Nodup := t.nodup

theorem length_keys (t : Table κ α) : t.keys.length = t.size := by
  simp [keys, size]

variable [DecidableEq κ]

theorem get?_eq_some_iff (t : Table κ α) (key : κ) (value : α) :
    t.get? key = some value ↔ (key, value) ∈ t.entries := by
  obtain ⟨entries, hnodup⟩ := t
  unfold get?
  induction entries with
  | nil => simp
  | cons entry rest ih =>
    obtain ⟨k, v⟩ := entry
    rw [List.map_cons, List.nodup_cons] at hnodup
    by_cases hk : key = k
    · subst hk
      rw [List.lookup_cons_self, List.mem_cons, Option.some.injEq, Prod.mk.injEq]
      constructor
      · intro h
        exact .inl ⟨rfl, h.symm⟩
      · rintro (⟨-, h⟩ | h)
        · exact h.symm
        · exact absurd (List.mem_map_of_mem h) hnodup.1
    · rw [lookup_cons_of_ne hk, List.mem_cons, Prod.mk.injEq]
      simp only [hk, false_and, false_or]
      exact ih hnodup.2

theorem mem_keys_iff (t : Table κ α) (key : κ) : key ∈ t.keys ↔ ∃ value, t.get? key = some value := by
  simp only [get?_eq_some_iff, keys, List.mem_map, Prod.exists, exists_and_right, exists_eq_right]

/-- What is true of some values, and not of the default one, is true of their keys. -/
theorem getD_get?_iff (t : Table κ α) (p : α → Bool) {default : α} (h : p default = false)
    (key : κ) :
    p ((t.get? key).getD default) = true ↔ key ∈ (t.entries.filter (p ·.2)).map Prod.fst := by
  have hentry := t.get?_eq_some_iff key
  rw [List.mem_map]
  constructor
  · intro hp
    cases hget : t.get? key with
    | none =>
      rw [hget, Option.getD_none, h] at hp
      contradiction
    | some value =>
      rw [hget, Option.getD_some] at hp
      exact ⟨(key, value), List.mem_filter.2 ⟨(hentry value).1 hget, hp⟩, rfl⟩
  · intro hkey
    obtain ⟨⟨found, value⟩, hmem, rfl⟩ := hkey
    obtain ⟨hmem, hp⟩ := List.mem_filter.1 hmem
    rw [(hentry value).2 hmem, Option.getD_some]
    exact hp

theorem getD_get?_eq_iff [DecidableEq α] (t : Table κ α) {value default : α}
    (h : value ≠ default) (key : κ) :
    (t.get? key).getD default = value ↔ key ∈ (t.entries.filter (·.2 = value)).map Prod.fst := by
  have hdefault : decide (default = value) = false := decide_eq_false (Ne.symm h)
  rw [← t.getD_get?_iff (decide <| · = value) hdefault, decide_eq_true_iff]

/-- Among distinct keys it does not matter from which end a value is looked up. -/
theorem lookup_reverse_eq_some_iff {entries : List (κ × α)} (h : (entries.map Prod.fst).Nodup)
    (key : κ) (value : α) : entries.reverse.lookup key = some value ↔ (key, value) ∈ entries := by
  have hreverse : (entries.reverse.map Prod.fst).Nodup := by
    rw [List.map_reverse, List.nodup_reverse]
    exact h
  exact (get?_eq_some_iff ⟨entries.reverse, hreverse⟩ key value).trans List.mem_reverse

/-- Counting values is counting the keys under which they stand. -/
theorem countP_values (t : Table κ α) (p : α → Bool) :
    t.values.countP p = t.keys.countP fun key => (t.get? key).any p := by
  rw [values, keys, List.countP_map, List.countP_map]
  refine List.countP_congr fun entry hentry => ?_
  have hget : t.get? entry.1 = some entry.2 := (get?_eq_some_iff t entry.1 entry.2).2 hentry
  simp [Function.comp, hget]

theorem filter_key (t : Table κ α) (key : κ) :
    t.entries.filter (·.1 = key) = (t.get? key).toList.map (key, ·) := by
  obtain ⟨entries, hnodup⟩ := t
  unfold get?
  induction entries with
  | nil => rfl
  | cons entry rest ih =>
    obtain ⟨k, v⟩ := entry
    rw [List.map_cons, List.nodup_cons] at hnodup
    have hrest := ih hnodup.2
    by_cases hk : k = key
    · subst hk
      have hnone : rest.filter (·.1 = k) = [] := by
        rw [List.filter_eq_nil_iff]
        intro entry hentry
        have hne : entry.1 ≠ k := by
          rintro rfl
          exact hnodup.1 (List.mem_map.2 ⟨entry, hentry, rfl⟩)
        simpa using hne
      rw [List.filter_cons_of_pos (by simp), hnone, List.lookup_cons_self]
      rfl
    · rw [List.filter_cons_of_neg (by simpa using hk), lookup_cons_of_ne (Ne.symm hk)]
      exact hrest

/-- A value that is put under a known key takes the place of the one before. -/
theorem entries_put_of_get? {t : Table κ α} {key : κ} {old : α} (h : t.get? key = some old)
    (value : α) : ∃ l m, t.entries = l ++ (key, old) :: m ∧
      (t.put key value).entries = l ++ (key, value) :: m := by
  obtain ⟨l, m, heq, hfirst⟩ := List.lookup_eq_some_iff.1 h
  refine ⟨l, m, heq, ?_⟩
  change putEntry key value t.entries = _
  rw [heq]
  clear heq
  induction l with
  | nil =>
    rw [List.nil_append, putEntry, if_pos rfl]
    rfl
  | cons entry l ih =>
    have hne : ¬ entry.1 = key := by
      rintro rfl
      simpa using hfirst entry List.mem_cons_self
    rw [List.cons_append, putEntry, if_neg hne, ih fun p hp => hfirst p (List.mem_cons_of_mem _ hp)]
    rfl

/-! ### Several values put -/

theorem get?_putAll (t : Table κ α) (entries : List (κ × α)) (key : κ) :
    (t.putAll entries).get? key = (entries.reverse.lookup key).or (t.get? key) := by
  unfold putAll
  induction entries generalizing t with
  | nil => rfl
  | cons entry rest ih =>
    rw [List.foldl_cons, ih, get?_put, List.reverse_cons, List.lookup_append, Option.or_assoc]
    congr 1
    by_cases hk : key = entry.1
    · rw [if_pos hk, hk, List.lookup_cons_self]
      rfl
    · have hne : (key == entry.1) = false := by simp [hk]
      rw [if_neg hk, List.lookup_cons, hne]
      rfl

theorem get?_ofList_eq_some_iff {entries : List (κ × α)} (h : (entries.map Prod.fst).Nodup)
    (key : κ) (value : α) : (ofList entries).get? key = some value ↔ (key, value) ∈ entries := by
  have hempty : (empty : Table κ α).get? key = none := rfl
  rw [ofList, get?_putAll, hempty, Option.or_none, lookup_reverse_eq_some_iff h]

theorem putEntry_of_notMem {key : κ} {entries : List (κ × α)} (h : key ∉ entries.map Prod.fst)
    (value : α) : putEntry key value entries = entries ++ [(key, value)] := by
  induction entries with
  | nil => rfl
  | cons entry rest ih =>
    rw [List.map_cons, List.mem_cons, not_or] at h
    rw [putEntry, if_neg (Ne.symm h.1), ih h.2]
    rfl

theorem entries_putAll (t : Table κ α) (entries : List (κ × α))
    (h : ((t.entries ++ entries).map Prod.fst).Nodup) :
    (t.putAll entries).entries = t.entries ++ entries := by
  unfold putAll
  induction entries generalizing t with
  | nil => simp
  | cons entry rest ih =>
    have hnew : entry.1 ∉ t.entries.map Prod.fst := by
      intro hm
      rw [List.map_append, List.map_cons, List.nodup_append] at h
      exact h.2.2 _ hm _ List.mem_cons_self rfl
    have hput : (t.put entry.1 entry.2).entries = t.entries ++ [entry] :=
      putEntry_of_notMem hnew entry.2
    rw [List.foldl_cons, ih, hput, List.append_assoc]
    · rfl
    · rw [hput, List.append_assoc]
      exact h

theorem entries_ofList {entries : List (κ × α)} (h : (entries.map Prod.fst).Nodup) :
    (ofList entries).entries = entries :=
  entries_putAll empty entries h

/-! ### Counts -/

theorem getD_counts (keys : List κ) (key : κ) :
    ((counts keys).get? key).getD 0 = keys.count key := by
  have hrun : ∀ t : Table κ Nat,
      ((keys.foldl (fun t k => t.put k ((t.get? k).getD 0 + 1)) t).get? key).getD 0 =
        (t.get? key).getD 0 + keys.count key := by
    induction keys with
    | nil => simp
    | cons k rest ih =>
      intro t
      rw [List.foldl_cons, ih, get?_put, List.count_cons]
      by_cases hk : key = k
      · subst hk
        simp
        omega
      · have hne : (k == key) = false := by simp [Ne.symm hk]
        simp [hk, hne]
  have h := hrun empty
  rw [counts, h]
  simp [empty, get?]

end TagAudit.Table
