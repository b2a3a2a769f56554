import TagAudit.Proofs.Tag.Statistics

/-!
# Profiles of wanted tags (`TagExtractor.extract_specific`)

The profile of wanted tags holds those of them that the profile of the file holds, with the same
details, and its counts by origin are true. Its total counts a tag as often as it is wanted, so it
is the number of tags exactly when no tag that is there is wanted twice.
-/

namespace TagAudit.Tag

namespace Profile

variable (p : Profile) (wanted : List String)

/-- The entries of the wanted tags that are there, one for each time that a tag is wanted. -/
def wantedEntries : List (String × Detail) :=
  (wanted.filter p.has).filterMap fun tag => (p.details.get? tag).map (tag, ·)

theorem has_iff (name : String) : p.has name = true ↔ name ∈ p.tags := by
  unfold has
  exact decide_eq_true_iff

theorem mem_tags_only (name : String) :
    name ∈ (p.only wanted).tags ↔ name ∈ wanted ∧ name ∈ p.tags := by
  unfold only
  rw [List.mem_eraseDups, List.mem_filter, has_iff]

section Detailed

variable {p} (hp : p.Detailed)

include hp

theorem mem_wantedEntries (name : String) (d : Detail) :
    (name, d) ∈ p.wantedEntries wanted ↔ name ∈ wanted ∧ p.details.get? name = some d := by
  unfold wantedEntries
  rw [List.mem_filterMap]
  constructor
  · intro h
    obtain ⟨tag, htag, hentry⟩ := h
    obtain ⟨d', hd', heq⟩ := Option.map_eq_some_iff.1 hentry
    obtain ⟨rfl, rfl⟩ := Prod.mk.inj heq
    exact ⟨(List.mem_filter.1 htag).1, hd'⟩
  · intro h
    have htag : name ∈ p.tags := (hp.mem_tags_iff name).2 ⟨d, h.2⟩
    refine ⟨name, List.mem_filter.2 ⟨h.1, (p.has_iff name).2 htag⟩, ?_⟩
    rw [h.2]
    rfl

theorem get?_only (name : String) :
    (p.only wanted).details.get? name = if name ∈ wanted then p.details.get? name else none := by
  have hget : (p.only wanted).details.get? name = (p.wantedEntries wanted).reverse.lookup name := by
    have hempty : (Table.empty : Table String Detail).get? name = none := rfl
    unfold only wantedEntries
    dsimp only
    rw [Table.ofList, Table.get?_putAll, hempty, Option.or_none]
  rw [hget]
  cases hlookup : (p.wantedEntries wanted).reverse.lookup name with
  | some d =>
    have hmem := List.mem_reverse.1 (mem_of_lookup hlookup)
    obtain ⟨hwanted, hd⟩ := (mem_wantedEntries wanted hp name d).1 hmem
    rw [if_pos hwanted, hd]
  | none =>
    -- A wanted tag that is there would have an entry.
    by_cases hwanted : name ∈ wanted
    · rw [if_pos hwanted]
      cases hd : p.details.get? name with
      | none => rfl
      | some d =>
        have hmem := List.mem_reverse.2 ((mem_wantedEntries wanted hp name d).2 ⟨hwanted, hd⟩)
        have hne := List.lookup_eq_none_iff.1 hlookup _ hmem
        exact absurd hne (by simp)
    · rw [if_neg hwanted]

theorem Detailed.only : (p.only wanted).Detailed := by
  intro name
  rw [mem_tags_only, Table.mem_keys_iff, get?_only wanted hp, hp.mem_tags_iff]
  by_cases hwanted : name ∈ wanted
  · simp [hwanted]
  · simp [hwanted]

end Detailed

theorem totalTags_only : (p.only wanted).totalTags = (wanted.filter p.has).length := rfl

theorem mem_tags_only_iff_filter (name : String) :
    name ∈ (p.only wanted).tags ↔ name ∈ wanted.filter p.has := by
  rw [mem_tags_only, List.mem_filter, has_iff]

theorem totalTags_only_eq_iff :
    (p.only wanted).totalTags = (p.only wanted).tags.length ↔ (wanted.filter p.has).Nodup := by
  have hnodup := (p.only wanted).tags_nodup
  have hmem := p.mem_tags_only_iff_filter wanted
  rw [totalTags_only]
  constructor
  · intro hlength
    have hsubperm := List.subperm_of_subset hnodup fun name hname => (hmem name).1 hname
    exact (hsubperm.perm_of_length_le (Nat.le_of_eq hlength)).nodup_iff.1 hnodup
  · intro hfound
    have hperm := (List.perm_ext_iff_of_nodup hfound hnodup).2 fun name => (hmem name).symm
    exact hperm.length_eq

end Profile

/-- The profile of wanted tags holds the wanted tags that the file has, with the same details, and
its counts by origin are true and sum to the number of tags. The total is the number of times that a
tag of the file is wanted: it is the number of tags, and the sum of the counts, exactly when no tag
of the file is wanted twice. -/
theorem extractOnly_restricts (r : Registry) (text : List Char) (wanted : List String)
    (summary : Option Syntax.Summary) :
    let p := r.extract text summary
    let q := r.extractOnly text wanted summary
    (∀ name, name ∈ q.tags ↔ name ∈ wanted ∧ name ∈ p.tags) ∧
    (∀ name ∈ q.tags, q.details.get? name = p.details.get? name) ∧
    (∀ k, q.statedCount k = q.originCount k) ∧
    Origin.all.foldl (fun total k => total + q.statedCount k) 0 = q.tags.length ∧
    q.totalTags = wanted.countP (· ∈ p.tags) ∧
    (q.totalTags = q.tags.length ↔ (wanted.filter (· ∈ p.tags)).Nodup) := by
  intro p q
  have hp : p.Detailed := r.detailed_extract text summary
  have hcounts : ∀ k, q.statedCount k = q.originCount k := Profile.statedCount_of_counts rfl
  refine ⟨p.mem_tags_only wanted, ?_, hcounts, ?_, ?_, p.totalTags_only_eq_iff wanted⟩
  · intro name hname
    have hwanted := ((p.mem_tags_only wanted name).1 hname).1
    have hget := Profile.get?_only wanted hp name
    rw [if_pos hwanted] at hget
    exact hget
  · simp only [hcounts]
    rw [q.sum_originCount]
    exact (hp.only wanted).length_tags.symm
  · rw [List.countP_eq_length_filter]
    rfl

/-- A tag that is wanted twice is there once and counts as two. -/
theorem extractOnly_counts_twice :
    let q := (⟨"", [], []⟩ : Registry).extractOnly "do\x7bdo\x7bdo\x7bdo\x7b".toList
      ["NESTING_DEEP", "NESTING_DEEP"] none
    q.tags = ["NESTING_DEEP"] ∧ q.totalTags = 2 ∧ q.statedCount .metric = 1 := by
  decide +kernel

end TagAudit.Tag
