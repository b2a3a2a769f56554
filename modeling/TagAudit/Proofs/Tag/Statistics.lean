import Mathlib.Data.List.Perm.Subperm
import TagAudit.Compound
import TagAudit.Proofs.Tag.Extraction

/-!
# The statistics of a profile (`TagProfile.with_compound_tags`)

Compound tags are added to a profile in rounds. The total always counts the tags. The counts by
origin are those of the base tags and of the last round that found something: they describe the
profile exactly when no compound tag took the name of a base tag and every compound tag of an
earlier round is found again in that last round.
-/

namespace TagAudit.Tag

open Compound (Result)

namespace Profile

/-- The number of tags of an origin that the statistics state. -/
def statedCount (p : Profile) (k : Origin) : Nat := (p.byOrigin.get? k).getD 0

def originCount (p : Profile) (k : Origin) : Nat := p.details.values.countP (·.origin = k)

/-- What found a tag, if it is present. -/
def originOf (p : Profile) (name : String) : Option Origin := (p.details.get? name).map Detail.origin

theorem mem_keys_iff (p : Profile) (name : String) :
    name ∈ p.details.keys ↔ ∃ k, p.originOf name = some k := by
  unfold originOf
  rw [Table.mem_keys_iff]
  constructor
  · rintro ⟨d, hd⟩
    exact ⟨d.origin, by rw [hd]; rfl⟩
  · rintro ⟨k, hk⟩
    obtain ⟨d, hd, -⟩ := Option.map_eq_some_iff.1 hk
    exact ⟨d, hd⟩

theorem originCount_eq (p : Profile) (k : Origin) :
    p.originCount k = p.details.keys.countP (p.originOf · = some k) := by
  unfold originCount originOf
  rw [Table.countP_values]
  refine List.countP_congr fun name _ => ?_
  cases p.details.get? name <;> simp

/-- Counts of the details are true. -/
theorem statedCount_of_counts {p : Profile}
    (h : p.byOrigin = Table.counts (p.details.values.map Detail.origin)) (k : Origin) :
    p.statedCount k = p.originCount k := by
  unfold statedCount originCount
  rw [h, Table.getD_counts, List.count, List.countP_map]
  rfl

theorem sum_originCount (p : Profile) :
    Origin.all.foldl (fun total k => total + p.originCount k) 0 = p.details.size := by
  have hvalues : ∀ values : List Detail,
      Origin.all.foldl (fun total k => total + values.countP (·.origin = k)) 0 = values.length := by
    intro values
    induction values with
    | nil => rfl
    | cons d rest ih =>
      simp only [Origin.all, List.foldl_cons, List.foldl_nil, List.countP_cons,
        List.length_cons] at ih ⊢
      cases horigin : d.origin <;> simp <;> omega
  unfold originCount
  rw [hvalues]
  simp [Table.values, Table.size]

end Profile

/-! ### Rounds -/

def addedNames (results : Table String Result) : List String :=
  (Compound.present results).map Prod.fst

def allAdded (rounds : List (Table String Result)) : List String := rounds.flatMap addedNames

/-- The compound tags of the last round that adds any; `last` were those before. -/
def lastAdded (last : List String) (rounds : List (Table String Result)) : List String :=
  rounds.foldl (fun last results => if addedNames results = [] then last else addedNames results)
    last

theorem mem_allAdded_cons (results : Table String Result) (rounds : List (Table String Result))
    (name : String) :
    name ∈ allAdded (results :: rounds) ↔ name ∈ addedNames results ∨ name ∈ allAdded rounds := by
  simp [allAdded]

theorem addedNames_nodup (results : Table String Result) : (addedNames results).Nodup := by
  unfold addedNames Compound.present
  rw [List.map_map]
  exact results.nodup.sublist (List.filter_sublist.map _)

/-- What a round does to a profile. -/
theorem extend_eq (p : Profile) (results : Table String Result) :
    (Compound.extend p results).details =
      p.details.putAll ((Compound.present results).map fun c => (c.1, .compound c.2)) ∧
    (addedNames results = [] → Compound.extend p results = p) ∧
    (addedNames results ≠ [] →
      (Compound.extend p results).totalTags = (Compound.extend p results).tags.length ∧
      (Compound.extend p results).byOrigin =
        p.byOrigin.put .compound (addedNames results).length) := by
  unfold Compound.extend Profile.withCompounds addedNames
  cases h : Compound.present results with
  | nil => simp [Table.putAll]
  | cons c rest => simp

theorem mem_tags_extend (p : Profile) (results : Table String Result) (name : String) :
    name ∈ (Compound.extend p results).tags ↔ name ∈ p.tags ∨ name ∈ addedNames results := by
  unfold Compound.extend Profile.withCompounds addedNames
  cases Compound.present results with
  | nil => simp
  | cons c rest => simp

theorem originOf_putAll (t : Table String Detail) (compounds : List (String × String))
    (name : String) :
    (((t.putAll (compounds.map fun c => (c.1, .compound c.2))).get? name).map Detail.origin) =
      if name ∈ compounds.map Prod.fst then some .compound
      else (t.get? name).map Detail.origin := by
  unfold Table.putAll
  induction compounds generalizing t with
  | nil => simp
  | cons c rest ih =>
    rw [List.map_cons, List.foldl_cons, ih, Table.get?_put, List.map_cons]
    by_cases hrest : name ∈ rest.map Prod.fst
    · simp [hrest]
    · by_cases hname : name = c.1
      · simp [hname, Detail.origin]
      · simp [hname, hrest]

theorem originOf_extend (p : Profile) (results : Table String Result) (name : String) :
    (Compound.extend p results).originOf name =
      if name ∈ addedNames results then some .compound else p.originOf name := by
  unfold Profile.originOf
  rw [(extend_eq p results).1, originOf_putAll]
  rfl

theorem statedCount_extend (p : Profile) (results : Table String Result) (k : Origin) :
    (Compound.extend p results).statedCount k =
      if k = .compound ∧ addedNames results ≠ [] then (addedNames results).length
      else p.statedCount k := by
  by_cases hnil : addedNames results = []
  · rw [(extend_eq p results).2.1 hnil]
    simp [hnil]
  · unfold Profile.statedCount
    rw [((extend_eq p results).2.2 hnil).2, Table.get?_put]
    by_cases hk : k = .compound
    · simp [hk, hnil]
    · simp [hk]

/-- A round gives every tag that it adds its detail. -/
theorem Profile.Detailed.extend {p : Profile} (h : p.Detailed) (results : Table String Result) :
    (Compound.extend p results).Detailed := by
  intro name
  rw [mem_tags_extend, h, Profile.mem_keys_iff, Profile.mem_keys_iff, originOf_extend]
  by_cases hadded : name ∈ addedNames results
  · simp [hadded]
  · simp [hadded]

/-! ### Runs of rounds -/

theorem Profile.Detailed.run {p : Profile} (h : p.Detailed) (rounds : List (Table String Result)) :
    (rounds.foldl Compound.extend p).Detailed := by
  induction rounds generalizing p with
  | nil => exact h
  | cons results rounds ih => exact ih (h.extend results)

theorem originOf_run (rounds : List (Table String Result)) (p : Profile) (name : String) :
    (rounds.foldl Compound.extend p).originOf name =
      if name ∈ allAdded rounds then some .compound else p.originOf name := by
  induction rounds generalizing p with
  | nil => simp [allAdded]
  | cons results rounds ih =>
    rw [List.foldl_cons, ih, originOf_extend]
    by_cases hlater : name ∈ allAdded rounds
    · simp [mem_allAdded_cons, hlater]
    · simp [mem_allAdded_cons, hlater]

theorem statedCount_run (rounds : List (Table String Result)) (p : Profile) (k : Origin)
    (hk : k ≠ .compound) : (rounds.foldl Compound.extend p).statedCount k = p.statedCount k := by
  induction rounds generalizing p with
  | nil => rfl
  | cons results rounds ih =>
    rw [List.foldl_cons, ih, statedCount_extend, if_neg (by simp [hk])]

theorem statedCount_compound_run (rounds : List (Table String Result)) (p : Profile)
    (last : List String) (h : p.statedCount .compound = last.length) :
    (rounds.foldl Compound.extend p).statedCount .compound = (lastAdded last rounds).length := by
  unfold lastAdded
  induction rounds generalizing p last with
  | nil => exact h
  | cons results rounds ih =>
    rw [List.foldl_cons, List.foldl_cons]
    apply ih
    rw [statedCount_extend]
    by_cases hnil : addedNames results = []
    · simp [hnil, h]
    · simp [hnil]

theorem totalTags_run (rounds : List (Table String Result)) (p : Profile)
    (h : p.totalTags = p.tags.length) :
    (rounds.foldl Compound.extend p).totalTags = (rounds.foldl Compound.extend p).tags.length := by
  induction rounds generalizing p with
  | nil => exact h
  | cons results rounds ih =>
    rw [List.foldl_cons]
    apply ih
    by_cases hnil : addedNames results = []
    · rw [(extend_eq p results).2.1 hnil]
      exact h
    · exact ((extend_eq p results).2.2 hnil).1

/-! ### Tags of an origin -/

theorem originCount_run (rounds : List (Table String Result)) (p : Profile) (k : Origin)
    (hk : k ≠ .compound) :
    (rounds.foldl Compound.extend p).originCount k =
      p.details.keys.countP fun name => name ∉ allAdded rounds ∧ p.originOf name = some k := by
  rw [Profile.originCount_eq, List.countP_eq_length_filter, List.countP_eq_length_filter]
  apply List.Perm.length_eq
  rw [List.perm_ext_iff_of_nodup ((Table.nodup_keys _).filter _) (p.details.nodup_keys.filter _)]
  intro name
  simp only [List.mem_filter, Profile.mem_keys_iff, originOf_run, decide_eq_true_eq]
  by_cases hadded : name ∈ allAdded rounds
  · simp [hadded, Ne.symm hk]
  · simp [hadded]

theorem originCount_compound_run (rounds : List (Table String Result)) (p : Profile)
    (hbase : ∀ name, p.originOf name ≠ some .compound) :
    (rounds.foldl Compound.extend p).originCount .compound =
      (allAdded rounds).eraseDups.length := by
  rw [Profile.originCount_eq, List.countP_eq_length_filter]
  apply List.Perm.length_eq
  rw [List.perm_ext_iff_of_nodup ((Table.nodup_keys _).filter _) (nodup_eraseDups _)]
  intro name
  simp only [List.mem_filter, Profile.mem_keys_iff, originOf_run, decide_eq_true_eq,
    List.mem_eraseDups]
  by_cases hadded : name ∈ allAdded rounds
  · simp [hadded]
  · simp [hadded, hbase name]

theorem countP_and_eq_iff {α : Type} (p q : α → Prop) [DecidablePred p] [DecidablePred q]
    (l : List α) :
    l.countP (fun a => q a) = l.countP (fun a => p a ∧ q a) ↔ ∀ a ∈ l, q a → p a := by
  induction l with
  | nil => simp
  | cons a l ih =>
    have hle : l.countP (fun a => p a ∧ q a) ≤ l.countP (fun a => q a) :=
      List.countP_mono_left fun a _ h => by simp_all
    rw [List.countP_cons, List.countP_cons, List.forall_mem_cons, ← ih]
    by_cases hp : p a
    · simp only [hp, true_and, implies_true]
      omega
    · by_cases hq : q a
      · simp only [hp, hq, decide_true, decide_false, false_and, if_true, Bool.false_eq_true,
          if_false, imp_false, not_true_eq_false, iff_false]
        omega
      · simp [hp, hq]

theorem length_eq_eraseDups_iff {α : Type} [DecidableEq α] {l m : List α} (hl : l.Nodup)
    (hsub : ∀ a ∈ l, a ∈ m) : l.length = m.eraseDups.length ↔ ∀ a ∈ m, a ∈ l := by
  constructor
  · intro hlength a ha
    have hsubperm : l.Subperm m.eraseDups :=
      List.subperm_of_subset hl fun a ha => List.mem_eraseDups.2 (hsub a ha)
    have hperm := hsubperm.perm_of_length_le (Nat.le_of_eq hlength.symm)
    exact hperm.mem_iff.2 (List.mem_eraseDups.2 ha)
  · intro hall
    refine List.Perm.length_eq ((List.perm_ext_iff_of_nodup hl (nodup_eraseDups m)).2 ?_)
    intro a
    rw [List.mem_eraseDups]
    exact ⟨hsub a, hall a⟩

theorem lastAdded_nodup (rounds : List (Table String Result)) (last : List String)
    (h : last.Nodup) : (lastAdded last rounds).Nodup := by
  unfold lastAdded
  induction rounds generalizing last with
  | nil => exact h
  | cons results rounds ih =>
    rw [List.foldl_cons]
    apply ih
    split
    · exact h
    · exact addedNames_nodup results

theorem lastAdded_subset (rounds : List (Table String Result)) (last : List String) :
    ∀ name ∈ lastAdded last rounds, name ∈ last ∨ name ∈ allAdded rounds := by
  unfold lastAdded
  induction rounds generalizing last with
  | nil => exact fun name hname => .inl hname
  | cons results rounds ih =>
    intro name hname
    rw [List.foldl_cons] at hname
    rw [mem_allAdded_cons]
    rcases ih _ name hname with h | h
    · split at h
      · exact .inl h
      · exact .inr (.inl h)
    · exact .inr (.inr h)

theorem statedCount_compound {p : Profile} (hcounts : ∀ k, p.statedCount k = p.originCount k)
    (hbase : ∀ name, p.originOf name ≠ some .compound) : p.statedCount .compound = 0 := by
  rw [hcounts, Profile.originCount_eq, List.countP_eq_zero]
  intro name _
  simpa using hbase name

/-- The counts by origin describe the profile after rounds exactly when no compound tag took the
name of a tag that was there before and the last round that added tags added all of them. -/
theorem counts_run_iff (rounds : List (Table String Result)) (p : Profile)
    (hcounts : ∀ k, p.statedCount k = p.originCount k)
    (hbase : ∀ name, p.originOf name ≠ some .compound) :
    (∀ k, (rounds.foldl Compound.extend p).statedCount k =
        (rounds.foldl Compound.extend p).originCount k) ↔
      ∀ name ∈ allAdded rounds, name ∉ p.details.keys ∧ name ∈ lastAdded [] rounds := by
  have hother : ∀ k, k ≠ .compound →
      ((rounds.foldl Compound.extend p).statedCount k =
        (rounds.foldl Compound.extend p).originCount k ↔
      ∀ name ∈ p.details.keys, p.originOf name = some k → name ∉ allAdded rounds) := by
    intro k hk
    rw [statedCount_run rounds p k hk, originCount_run rounds p k hk, hcounts,
      Profile.originCount_eq]
    exact countP_and_eq_iff (· ∉ allAdded rounds) (p.originOf · = some k) p.details.keys
  have hcompound : (rounds.foldl Compound.extend p).statedCount .compound =
        (rounds.foldl Compound.extend p).originCount .compound ↔
      ∀ name ∈ allAdded rounds, name ∈ lastAdded [] rounds := by
    rw [statedCount_compound_run rounds p [] (statedCount_compound hcounts hbase),
      originCount_compound_run rounds p hbase]
    refine length_eq_eraseDups_iff (lastAdded_nodup rounds [] List.nodup_nil) ?_
    intro name hname
    rcases lastAdded_subset rounds [] name hname with h | h
    · exact absurd h (by simp)
    · exact h
  constructor
  · intro hall name hname
    refine ⟨?_, hcompound.1 (hall .compound) name hname⟩
    intro htag
    obtain ⟨k, hk⟩ := (p.mem_keys_iff name).1 htag
    have hne : k ≠ .compound := fun h => hbase name (h ▸ hk)
    exact (hother k hne).1 (hall k) name htag hk hname
  · intro hadded k
    by_cases hk : k = .compound
    · rw [hk]
      exact hcompound.2 fun name hname => (hadded name hname).2
    · exact (hother k hk).2 fun name htag _ hname => (hadded name hname).1 htag

/-! ### The profile of a file -/

theorem statedCount_extract (r : Registry) (text : List Char) (summary : Option Syntax.Summary)
    (k : Origin) :
    (r.extract text summary).statedCount k = (r.extract text summary).originCount k :=
  Profile.statedCount_of_counts rfl k

theorem originOf_extract (r : Registry) (text : List Char) (summary : Option Syntax.Summary)
    (name : String) : (r.extract text summary).originOf name ≠ some .compound := by
  unfold Profile.originOf
  intro h
  obtain ⟨d, hd, horigin⟩ := Option.map_eq_some_iff.1 h
  exact origin_extract hd horigin

/-- The statistics of the profile of a file after rounds of compound tags. The total counts the tags.
The counts of other origins than compound tags are those of the file, and the count of compound tags
is that of the last round that added any. So the counts are true just when no compound tag took the
name of a tag of the file and that last round added every compound tag; then they sum to the
total. -/
theorem statistics_after_rounds (r : Registry) (text : List Char)
    (summary : Option Syntax.Summary) (rounds : List (Table String Result)) :
    let base := r.extract text summary
    let p := rounds.foldl Compound.extend base
    p.totalTags = p.tags.length ∧ p.tags.length = p.details.size ∧
    (∀ k, k ≠ .compound → p.statedCount k = base.originCount k) ∧
    p.statedCount .compound = (lastAdded [] rounds).length ∧
    ((∀ k, p.statedCount k = p.originCount k) ↔
      ∀ name ∈ allAdded rounds, name ∉ base.tags ∧ name ∈ lastAdded [] rounds) ∧
    ((∀ k, p.statedCount k = p.originCount k) →
      Origin.all.foldl (fun total k => total + p.statedCount k) 0 = p.totalTags) := by
  intro base p
  have hdetailed : p.Detailed := (r.detailed_extract text summary).run rounds
  have hsize : p.tags.length = p.details.size := hdetailed.length_tags
  have htotal : p.totalTags = p.tags.length :=
    totalTags_run rounds base (Table.length_keys base.details).symm
  have hcounts := statedCount_extract r text summary
  have hbase := originOf_extract r text summary
  refine ⟨htotal, hsize, ?_, ?_, counts_run_iff rounds base hcounts hbase, ?_⟩
  · intro k hk
    rw [statedCount_run rounds base k hk, hcounts]
  · exact statedCount_compound_run rounds base [] (statedCount_compound hcounts hbase)
  · intro htrue
    simp only [htrue]
    rw [p.sum_originCount, htotal, hsize]

/-- Two rounds that each add a compound tag leave two compound tags and a count of one. -/
theorem statistics_two_rounds :
    let added (name : String) : Table String Result :=
      Table.ofList [(name, ⟨"A", "", .medium, true, none⟩)]
    let p := [added "FIRST", added "SECOND"].foldl Compound.extend
      ((⟨"", [], []⟩ : Registry).extract [] none)
    p.tags = ["FIRST", "SECOND"] ∧ p.totalTags = 2 ∧
      p.statedCount .compound = 1 ∧ p.originCount .compound = 2 := by
  decide

end TagAudit.Tag
