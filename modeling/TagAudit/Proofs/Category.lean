import TagAudit.Proofs.Rule.Matching
import TagAudit.Proofs.Text.Lowercase

/-!
# Categories in their uniform spelling (`normalize_category`)

A name in its uniform spelling is spelled as it is: it has no blanks around it, its characters are
lower-case and its words are joined. The names that aliases stand for are no aliases. So a category
is its own category, with one exception: a name of blanks only has the empty spelling, and the empty
name is the unknown category.
-/

namespace TagAudit

namespace Category

/-! ### The uniform spelling -/

/-- A name that is spelled as it is. -/
def Uniform (cs : List Char) : Prop :=
  (∀ c ∈ cs, Text.lowerOf c = [c] ∧ joined c = c) ∧ Text.Trimmed cs

theorem joined_joined (c : Char) : joined (joined c) = joined c := by
  unfold joined
  split <;> rfl

theorem lowerOf_joined {c : Char} (h : Text.lowerOf c = [c]) :
    Text.lowerOf (joined c) = [joined c] := by
  unfold joined
  split
  · decide
  · exact h

theorem isBlank_joined {c : Char} (h : Text.isBlank c = false) :
    Text.isBlank (joined c) = false := by
  unfold joined
  split
  · decide
  · exact h

theorem toList_spelling (name : String) :
    (spelling name).toList =
      (Text.lowercaseFrom [] (Text.trim name.toList)).map joined := by
  rw [spelling, String.toList_map, Text.lowercase, String.toList_ofList, Text.trimmed,
    String.toList_ofList]

theorem trimmed_map_joined {cs : List Char} (h : Text.Trimmed cs) :
    Text.Trimmed (cs.map joined) := by
  constructor
  · intro d hd
    rw [List.head?_map] at hd
    obtain ⟨c, hc, rfl⟩ := Option.map_eq_some_iff.1 hd
    exact isBlank_joined (h.1 c hc)
  · intro d hd
    rw [List.getLast?_map] at hd
    obtain ⟨c, hc, rfl⟩ := Option.map_eq_some_iff.1 hd
    exact isBlank_joined (h.2 c hc)

theorem uniform_spelling (name : String) : Uniform (spelling name).toList := by
  rw [toList_spelling]
  constructor
  · intro d hd
    obtain ⟨c, hc, rfl⟩ := List.mem_map.1 hd
    exact ⟨lowerOf_joined (Text.lowerOf_of_mem_lowercaseFrom hc), joined_joined c⟩
  · exact trimmed_map_joined (Text.trimmed_lowercaseFrom (Text.trimmed_trim _) [])

theorem spelling_of_uniform {name : String} (h : Uniform name.toList) : spelling name = name := by
  have hjoined : name.toList.map joined = name.toList := by
    rw [List.map_congr_left fun c hc => (h.1 c hc).2, List.map_id']
  apply String.toList_injective
  rw [toList_spelling, Text.trim_of_trimmed h.2,
    Text.lowercaseFrom_eq_self fun c hc => (h.1 c hc).1, hjoined]

theorem spelling_spelling (name : String) : spelling (spelling name) = spelling name :=
  spelling_of_uniform (uniform_spelling name)

theorem spelling_eq_empty_iff (name : String) :
    spelling name = "" ↔ ∀ c ∈ name.toList, Text.isBlank c = true := by
  rw [← Text.trim_eq_nil_iff, ← String.toList_inj, toList_spelling]
  simp [Text.lowercaseFrom_eq_nil_iff]

/-! ### The category of a name -/

theorem normalize_of_ne {name : String} (h : name ≠ "") :
    normalize (some name) = resolve (spelling name) := by
  unfold normalize
  split
  · contradiction
  · rename_i heq
    exact absurd (Option.some.inj heq) h
  · rename_i heq
    rw [Option.some.inj heq]

theorem normalize_alias : ∀ entry ∈ aliases, entry.2 ≠ "" ∧ normalize (some entry.2) = entry.2 := by
  decide +kernel

theorem resolve_cases (key : String) :
    resolve key = key ∨ ∃ entry ∈ aliases, resolve key = entry.2 := by
  unfold resolve
  cases hfound : aliases.lookup key with
  | none => exact .inl rfl
  | some category => exact .inr ⟨(key, category), mem_of_lookup hfound, rfl⟩

/-- Whatever the category of a name is, its own category is the same, unless it is empty. -/
theorem normalize_normalize (name : String) :
    normalize (some (normalize (some name))) =
      if normalize (some name) = "" then unknown else normalize (some name) := by
  by_cases hname : name = ""
  · subst hname
    decide +kernel
  · rw [normalize_of_ne hname]
    rcases resolve_cases (spelling name) with hkey | ⟨entry, hentry, hkey⟩
    · by_cases hempty : spelling name = ""
      · rw [hkey, hempty]
        rfl
      · rw [hkey, if_neg hempty, normalize_of_ne hempty, spelling_spelling, hkey]
    · obtain ⟨hne, hfixed⟩ := normalize_alias entry hentry
      rw [hkey, if_neg hne, hfixed]

theorem normalize_eq_empty_iff (name : String) :
    normalize (some name) = "" ↔ name ≠ "" ∧ ∀ c ∈ name.toList, Text.isBlank c = true := by
  by_cases hname : name = ""
  · subst hname
    decide +kernel
  · rw [normalize_of_ne hname, and_iff_right hname, ← spelling_eq_empty_iff]
    rcases resolve_cases (spelling name) with hkey | ⟨entry, hentry, hkey⟩
    · rw [hkey]
    · have hne := (normalize_alias entry hentry).1
      constructor
      · intro hempty
        exact absurd (hkey.symm.trans hempty) hne
      · intro hempty
        rw [hempty]
        rfl

theorem normalize_normalize_eq_iff (name : String) :
    normalize (some (normalize (some name))) = normalize (some name) ↔
      name = "" ∨ ∃ c ∈ name.toList, Text.isBlank c = false := by
  have hempty : normalize (some name) ≠ "" ↔
      name = "" ∨ ∃ c ∈ name.toList, Text.isBlank c = false := by
    rw [Ne, normalize_eq_empty_iff]
    simp [Classical.or_iff_not_imp_left]
  rw [normalize_normalize, ← hempty]
  by_cases h : normalize (some name) = ""
  · rw [h]
    decide
  · simp [h]

end Category

namespace Rule

theorem violation_group (r : Rule) (expression : String) (matchedTags : List String) :
    (r.violation expression matchedTags).group =
      Category.normalize (some (r.violation expression matchedTags).category) := by
  change (if r.normalizedCategory.isEmpty then Category.unknown else r.normalizedCategory) =
    Category.normalize (some r.normalizedCategory)
  rw [normalizedCategory, Category.normalize_normalize]
  simp only [String.isEmpty_iff]

theorem exists_rule_of_mem_violations {tags : List String} {rules : List Rule}
    {options : MatchOptions} {v : Violation} (h : v ∈ (matchRules tags rules options).violations) :
    ∃ r ∈ rules, ∃ expression matchedTags, v = r.violation expression matchedTags := by
  rw [matchRules_violations] at h
  obtain ⟨⟨r, v'⟩, hm, rfl⟩ := List.mem_map.1 h
  have hreported := (options.cut_sublist _).subset hm
  rw [(arranged_perm options _).mem_iff, mem_reported] at hreported
  obtain ⟨hr, hverdict⟩ := hreported
  rcases (verdict_eq_reported hverdict).2 with ⟨-, hv⟩ | ⟨-, e, -, -, hv⟩
  · exact ⟨r, hr, _, _, hv⟩
  · exact ⟨r, hr, _, _, hv⟩

end Rule

namespace Category

/-- Taking the category of a category changes nothing for a name that is empty or has a character
other than blanks, and for no other name: a name of blanks has the empty category, which is then
taken for the unknown one. The violations of a match are listed under the category of the category
that they report, so they are listed elsewhere exactly when the category of their rule is blank. -/
theorem normalize_again (name : String) (tags : List String) (rules : List Rule)
    (options : Rule.MatchOptions) :
    (normalize (some (normalize (some name))) = normalize (some name) ↔
      name = "" ∨ ∃ c ∈ name.toList, Text.isBlank c = false) ∧
    (name ≠ "" ∧ (∀ c ∈ name.toList, Text.isBlank c = true) ↔ normalize (some name) = "") ∧
    ∀ v ∈ (Rule.matchRules tags rules options).violations,
      v.group = normalize (some v.category) ∧
      ∃ r ∈ rules, v.ruleId = r.id ∧ v.category = normalize (some r.category) ∧
        (v.group = v.category ↔
          r.category = "" ∨ ∃ c ∈ r.category.toList, Text.isBlank c = false) := by
  refine ⟨normalize_normalize_eq_iff name, (normalize_eq_empty_iff name).symm, ?_⟩
  intro v hv
  obtain ⟨r, hr, expression, matchedTags, rfl⟩ := Rule.exists_rule_of_mem_violations hv
  have hgroup := Rule.violation_group r expression matchedTags
  refine ⟨hgroup, r, hr, rfl, rfl, ?_⟩
  rw [hgroup]
  exact normalize_normalize_eq_iff r.category

theorem normalize_again_for_alias :
    ∃ v ∈ (Rule.matchRules ["A"] [⟨"R", "", "\tError-Handling ", .high, some "A", "", "", none⟩]
        {}).violations,
      v.category = "exception_handling" ∧ v.group = normalize (some v.category) ∧
      (v.group = v.category ↔
        "\tError-Handling " = "" ∨ ∃ c ∈ "\tError-Handling ".toList, Text.isBlank c = false) := by
  have hv : Rule.violation ⟨"R", "", "\tError-Handling ", .high, some "A", "", "", none⟩ "A" ["A"] ∈
      (Rule.matchRules ["A"] [⟨"R", "", "\tError-Handling ", .high, some "A", "", "", none⟩]
        {}).violations := by
    decide +kernel
  obtain ⟨hgroup, r, hr, -, -, hsame⟩ := (normalize_again "" _ _ _).2.2 _ hv
  obtain rfl := List.mem_singleton.1 hr
  exact ⟨_, hv, by decide +kernel, hgroup, hsame⟩

/-- A rule with a blank category: its violation reports the empty category and is listed under the
unknown one. -/
theorem blank_category_listed_elsewhere :
    normalize (some (normalize (some " "))) ≠ normalize (some " ") ∧
    ∃ v ∈ (Rule.matchRules ["A"] [⟨"R", "", " ", .medium, some "A", "", "", none⟩] {}).violations,
      v.category = "" ∧ v.group = "unknown" := by
  have hfound : Rule.violation ⟨"R", "", " ", .medium, some "A", "", "", none⟩ "A" ["A"] ∈
      (Rule.matchRules ["A"] [⟨"R", "", " ", .medium, some "A", "", "", none⟩] {}).violations := by
    decide +kernel
  exact ⟨by decide +kernel, _, hfound, by decide +kernel, by decide +kernel⟩

end Category

end TagAudit
