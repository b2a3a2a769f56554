import Mathlib.Data.List.Nodup
import TagAudit.Proofs.StableSort
import TagAudit.Proofs.Table

/-!
# Groups of a list

A list is grouped when its entries stand under their keys, those of one key as they stood in the
list. Then none is lost and none stands twice. One pass over the list makes such groups when it puts
each entry at the end of its group, whether it starts with no group or with empty ones.
-/

namespace TagAudit

/-- `groups` have the entries of `xs` under their keys: no key stands twice, the key of no entry is
missing, and a group has the entries of its key in the order of `xs`. -/
structure Grouping {α κ : Type} [DecidableEq κ] (key : α → κ) (xs : List α)
    (groups : List (κ × List α)) : Prop where
  distinct : (groups.map Prod.fst).Nodup
  known : ∀ x ∈ xs, key x ∈ groups.map Prod.fst
  group : ∀ g ∈ groups, g.2 = xs.filter (key · = g.1)

namespace Grouping

variable {α κ : Type} [DecidableEq κ] {key : α → κ} {xs : List α} {groups groups' : List (κ × List α)}

/-! ### What groups hold -/

theorem of_keys {keys : List κ} (hkeys : keys.Nodup) (hknown : ∀ x ∈ xs, key x ∈ keys) :
    Grouping key xs (keys.map fun k => (k, xs.filter (key · = k))) := by
  have hfst : (keys.map fun k => (k, xs.filter (key · = k))).map Prod.fst = keys := by
    simp [Function.comp_def]
  refine ⟨?_, ?_, ?_⟩
  · rw [hfst]
    exact hkeys
  · rw [hfst]
    exact hknown
  · intro g hg
    obtain ⟨k, -, rfl⟩ := List.mem_map.1 hg
    rfl

/-- Groups are told by their keys. -/
theorem eq_map (h : Grouping key xs groups) :
    groups = (groups.map Prod.fst).map fun k => (k, xs.filter (key · = k)) := by
  have hgroup : ∀ g ∈ groups, id g = (g.1, xs.filter (key · = g.1)) := by
    intro g hg
    exact Prod.ext rfl (h.group g hg)
  rw [List.map_map]
  exact (List.map_id groups).symm.trans (List.map_congr_left hgroup)

theorem eq_of_keys (h : Grouping key xs groups) (h' : Grouping key xs groups')
    (hkeys : groups.map Prod.fst = groups'.map Prod.fst) : groups = groups' := by
  rw [h.eq_map, h'.eq_map, hkeys]

theorem existsUnique (h : Grouping key xs groups) {x : α} (hx : x ∈ xs) :
    ∃! g, g ∈ groups ∧ x ∈ g.2 := by
  obtain ⟨g, hg, hkey⟩ := List.mem_map.1 (h.known x hx)
  refine ⟨g, ⟨hg, ?_⟩, ?_⟩
  · rw [h.group g hg, List.mem_filter]
    exact ⟨hx, by simp [hkey]⟩
  · intro g' hg'
    obtain ⟨hmem, hx'⟩ := hg'
    rw [h.group g' hmem, List.mem_filter, decide_eq_true_eq] at hx'
    exact List.inj_on_of_nodup_map h.distinct hmem hg (hx'.2.symm.trans hkey.symm)

theorem sublist (h : Grouping key xs groups) {g : κ × List α} (hg : g ∈ groups) :
    g.2.Sublist xs := by
  rw [h.group g hg]
  exact List.filter_sublist

/-- What is looked up under a key are the entries of that key, also when there is no such group. -/
theorem getD_lookup (h : Grouping key xs groups) (k : κ) :
    (groups.lookup k).getD [] = xs.filter (key · = k) := by
  cases hlookup : groups.lookup k with
  | some items => exact h.group (k, items) (mem_of_lookup hlookup)
  | none =>
    symm
    rw [Option.getD_none, List.filter_eq_nil_iff]
    intro x hx hkey
    obtain ⟨g, hg, hfst⟩ := List.mem_map.1 (h.known x hx)
    have hne : k ≠ g.1 := by simpa using List.lookup_eq_none_iff.1 hlookup g hg
    exact hne ((of_decide_eq_true hkey).symm.trans hfst.symm)

theorem flatMap_keys_perm (key : α → κ) (xs : List α) {keys : List κ} (h : keys.Nodup) :
    (keys.flatMap fun k => xs.filter (key · = k)).Perm (xs.filter (key · ∈ keys)) := by
  induction keys with
  | nil => simp
  | cons k keys ih =>
    obtain ⟨hk, hkeys⟩ := List.nodup_cons.1 h
    have hfirst : (xs.filter (key · ∈ k :: keys)).filter (key · = k) = xs.filter (key · = k) := by
      rw [List.filter_filter]
      refine List.filter_congr fun x _ => ?_
      by_cases hx : key x = k <;> simp [hx]
    have hrest : (xs.filter (key · ∈ k :: keys)).filter (fun x => !decide (key x = k)) =
        xs.filter (key · ∈ keys) := by
      rw [List.filter_filter]
      refine List.filter_congr fun x _ => ?_
      by_cases hx : key x = k <;> simp [hx, hk]
    have hsplit := List.filter_append_perm (key · = k) (xs.filter (key · ∈ k :: keys))
    rw [hfirst, hrest] at hsplit
    rw [List.flatMap_cons]
    exact ((ih hkeys).append_left _).trans hsplit

/-- One group after the other, the groups have every entry as often as the list has it. -/
theorem flatMap_perm (h : Grouping key xs groups) : (groups.flatMap Prod.snd).Perm xs := by
  have hall : xs.filter (key · ∈ groups.map Prod.fst) = xs := by
    rw [List.filter_eq_self]
    intro x hx
    exact decide_eq_true (h.known x hx)
  have hperm := flatMap_keys_perm key xs h.distinct
  rw [hall, ← List.flatMap_map (fun k => (k, xs.filter (key · = k))) Prod.snd, ← h.eq_map] at hperm
  exact hperm

theorem sumOf_length (h : Grouping key xs groups) :
    sumOf (fun g => g.2.length) groups = xs.length := by
  rw [← length_flatMap_eq, h.flatMap_perm.length_eq]

/-! ### Groups in the order of their keys -/

section Ordered

variable {μ : Type} [LinearOrder μ] {rank : κ → μ}

theorem filter_flatMap_keys (key : α → κ) (xs : List α) {keys : List κ}
    (h : keys.Pairwise fun k k' => rank k < rank k') (m : μ) :
    (keys.flatMap fun k => xs.filter (key · = k)).filter (fun x => rank (key x) = m) =
      xs.filter fun x => key x ∈ keys ∧ rank (key x) = m := by
  induction keys with
  | nil => simp
  | cons k keys ih =>
    obtain ⟨hk, hkeys⟩ := List.pairwise_cons.1 h
    rw [List.flatMap_cons, List.filter_append, ih hkeys, List.filter_filter]
    by_cases hm : rank k = m
    · -- The later keys have larger ranks, so only the first group is left.
      have hlater : ∀ x, ¬ (key x ∈ keys ∧ rank (key x) = m) := by
        intro x hx
        have hlt := hk (key x) hx.1
        rw [hm, hx.2] at hlt
        exact lt_irrefl m hlt
      have hnone : xs.filter (fun x => key x ∈ keys ∧ rank (key x) = m) = [] := by
        rw [List.filter_eq_nil_iff]
        intro x _
        simpa using hlater x
      rw [hnone, List.append_nil]
      refine List.filter_congr fun x _ => ?_
      by_cases hx : key x = k
      · simp [hx, hm]
      · have hnot := hlater x
        simp [hx, hnot]
    · have hnone : xs.filter (fun x => decide (rank (key x) = m) && decide (key x = k)) = [] := by
        rw [List.filter_eq_nil_iff]
        intro x _ hx
        rw [Bool.and_eq_true, decide_eq_true_eq, decide_eq_true_eq] at hx
        exact hm (hx.2 ▸ hx.1)
      rw [hnone, List.nil_append]
      refine List.filter_congr fun x _ => ?_
      by_cases hx : key x = k
      · simp [hx, hm]
      · simp [hx]

/-- Groups in the order of their keys, one after the other, are the list sorted by its keys. -/
theorem stableSort (h : Grouping key xs groups) (rank : κ → μ)
    (hrank : (groups.map Prod.fst).Pairwise fun k k' => rank k < rank k') :
    StableSort (fun x => rank (key x)) xs (groups.flatMap Prod.snd) := by
  have hgroup : ∀ g ∈ groups, ∀ x ∈ g.2, key x = g.1 := by
    intro g hg x hx
    rw [h.group g hg] at hx
    simpa using (List.mem_filter.1 hx).2
  refine ⟨List.pairwise_flatMap.2 ⟨?_, ?_⟩, fun m => ?_⟩
  · intro g hg
    refine List.Pairwise.imp_of_mem ?_ (List.pairwise_of_forall fun _ _ => trivial)
    intro x y hx hy _
    rw [hgroup g hg x hx, hgroup g hg y hy]
  · refine List.Pairwise.imp_of_mem ?_ (List.pairwise_map.1 hrank)
    intro g g' hg hg' hlt x hx y hy
    rw [hgroup g hg x hx, hgroup g' hg' y hy]
    exact le_of_lt hlt
  · have hfilter := filter_flatMap_keys key xs hrank m
    rw [← List.flatMap_map (fun k => (k, xs.filter (key · = k))) Prod.snd, ← h.eq_map] at hfilter
    rw [hfilter]
    refine List.filter_congr fun x hx => ?_
    simp [h.known x hx]

end Ordered

/-! ### Groups made in one pass -/

/-- Groups with one more entry, at the end of the group of its key; a new group comes last. -/
def enter (key : α → κ) (groups : List (κ × List α)) (x : α) : List (κ × List α) :=
  putEntry (key x) ((groups.lookup (key x)).getD [] ++ [x]) groups

theorem of_nil (key : α → κ) {keys : List κ} (h : keys.Nodup) :
    Grouping key [] (keys.map fun k => (k, ([] : List α))) :=
  of_keys h (by simp)

theorem enter_append (h : Grouping key xs groups) (x : α) :
    Grouping key (xs ++ [x]) (enter key groups x) := by
  have hkeys := keys_putEntry (key x) ((groups.lookup (key x)).getD [] ++ [x]) groups
  have hdistinct := nodup_putEntry (key x) ((groups.lookup (key x)).getD [] ++ [x]) groups h.distinct
  have hmem : ∀ k ∈ groups.map Prod.fst ++ [key x], k ∈ (enter key groups x).map Prod.fst := by
    intro k hk
    rw [enter, hkeys]
    split
    · rename_i hknown
      rcases List.mem_append.1 hk with hk | hk
      · exact hk
      · rw [List.mem_singleton.1 hk]
        exact hknown
    · exact hk
  refine ⟨hdistinct, ?_, ?_⟩
  · intro y hy
    apply hmem
    rcases List.mem_append.1 hy with hy | hy
    · exact List.mem_append_left _ (h.known y hy)
    · rw [List.mem_singleton.1 hy]
      exact List.mem_append_right _ (List.mem_singleton.2 rfl)
  · intro g hg
    have hlookup : (enter key groups x).lookup g.1 = some g.2 :=
      (Table.get?_eq_some_iff ⟨enter key groups x, hdistinct⟩ g.1 g.2).2 hg
    rw [enter, lookup_putEntry, h.getD_lookup] at hlookup
    rw [List.filter_append]
    by_cases hkey : g.1 = key x
    · rw [if_pos hkey, Option.some.injEq] at hlookup
      rw [← hlookup, hkey]
      simp
    · rw [if_neg hkey] at hlookup
      have hold := h.group (g.1, g.2) (mem_of_lookup hlookup)
      simpa [Ne.symm hkey] using hold

/-- What one entry preserves, a pass over a list preserves. -/
theorem enter_foldl (h : Grouping key xs groups) (ys : List α) :
    Grouping key (xs ++ ys) (ys.foldl (enter key) groups) := by
  induction ys generalizing xs groups with
  | nil =>
    rw [List.append_nil]
    exact h
  | cons y ys ih =>
    have hstep := ih (h.enter_append y)
    rw [List.append_assoc] at hstep
    exact hstep

theorem keys_foldl (h : (groups.map Prod.fst).Nodup) (ys : List α) :
    (ys.foldl (enter key) groups).map Prod.fst =
      (groups.map Prod.fst ++ ys.map key).eraseDups := by
  induction ys generalizing groups with
  | nil =>
    rw [List.map_nil, List.append_nil, eraseDups_of_nodup _ h]
    rfl
  | cons y ys ih =>
    have hnodup : ((enter key groups y).map Prod.fst).Nodup := nodup_putEntry _ _ groups h
    rw [List.foldl_cons, ih hnodup, enter, keys_putEntry, List.map_cons]
    split
    · rename_i hy
      have hskip : (key y :: ys.map key).removeAll (groups.map Prod.fst) =
          (ys.map key).removeAll (groups.map Prod.fst) := by
        rw [List.cons_removeAll, if_neg (by simpa using hy)]
      rw [List.eraseDups_append, List.eraseDups_append, hskip]
    · rw [List.append_assoc]
      rfl

/-- Groups are what one pass makes of empty groups when the keys come in the same order. -/
theorem eq_foldl (h : Grouping key xs groups) {keys : List κ} (hkeys : keys.Nodup)
    (horder : groups.map Prod.fst = (keys ++ xs.map key).eraseDups) :
    groups = xs.foldl (enter key) (keys.map fun k => (k, [])) := by
  have hfst : (keys.map fun k => (k, ([] : List α))).map Prod.fst = keys := by
    simp [Function.comp_def]
  have hpass := (of_nil key hkeys).enter_foldl xs
  refine h.eq_of_keys hpass ?_
  rw [keys_foldl (by rw [hfst]; exact hkeys), hfst]
  exact horder

end Grouping

end TagAudit
