import TagAudit.Proofs.Grouping
import TagAudit.Proofs.Tag.Registry

/-!
# The indexes of a registry (`TagRegistry`, `compile_patterns`)

Whatever compiles the patterns, a registry is built exactly when the names of its base tags are
distinct, the names of its compound tags are distinct and none of them is that of a base tag, and each
pattern compiles or can be left out.
Otherwise the first repeated name is reported. Once it is built, its lists by kind and by category
and its patterns all say of each tag what its definition says.
-/

namespace TagAudit.Tag

/-! ### Repeated names -/

/-- `name` is the first of `names` that is taken: it is among `seen` or stands earlier in the list,
and no name before it is taken. -/
def IsFirstRepeat (seen names : List String) (name : String) : Prop :=
  ∃ before after, names = before ++ name :: after ∧ (name ∈ seen ∨ name ∈ before) ∧
    before.Nodup ∧ ∀ n ∈ before, n ∉ seen

theorem isFirstRepeat_cons_iff {seen : List String} {n : String} (hn : n ∉ seen)
    (names : List String) (name : String) :
    IsFirstRepeat seen (n :: names) name ↔ IsFirstRepeat (n :: seen) names name := by
  constructor
  · intro h
    obtain ⟨before, after, hnames, htaken, hnodup, hfree⟩ := h
    cases before with
    | nil =>
      -- The first name itself is not taken.
      obtain ⟨rfl, -⟩ := List.cons.inj hnames
      exact absurd htaken (by simp [hn])
    | cons m before =>
      obtain ⟨rfl, hrest⟩ := List.cons.inj hnames
      obtain ⟨hnew, hdistinct⟩ := List.nodup_cons.1 hnodup
      refine ⟨before, after, hrest, ?_, hdistinct, ?_⟩
      · rcases htaken with hseen | hbefore
        · exact .inl (List.mem_cons_of_mem _ hseen)
        · rcases List.mem_cons.1 hbefore with rfl | hbefore
          · exact .inl List.mem_cons_self
          · exact .inr hbefore
      · intro k hk hmem
        rcases List.mem_cons.1 hmem with rfl | hmem
        · exact hnew hk
        · exact hfree k (List.mem_cons_of_mem _ hk) hmem
  · intro h
    obtain ⟨before, after, rfl, htaken, hnodup, hfree⟩ := h
    refine ⟨n :: before, after, rfl, ?_, List.nodup_cons.2 ⟨?_, hnodup⟩, ?_⟩
    · rcases htaken with hseen | hbefore
      · rcases List.mem_cons.1 hseen with rfl | hseen
        · exact .inr List.mem_cons_self
        · exact .inl hseen
      · exact .inr (List.mem_cons_of_mem _ hbefore)
    · exact fun hmem => hfree n hmem List.mem_cons_self
    · intro k hk hmem
      rcases List.mem_cons.1 hk with rfl | hk
      · exact hn hmem
      · exact hfree k hk (List.mem_cons_of_mem _ hmem)

theorem firstRepeated?_eq_some_iff (seen names : List String) (name : String) :
    firstRepeated? seen names = some name ↔ IsFirstRepeat seen names name := by
  induction names generalizing seen with
  | nil => simp [firstRepeated?, IsFirstRepeat]
  | cons n names ih =>
    rw [firstRepeated?]
    by_cases hn : n ∈ seen
    · rw [if_pos hn]
      constructor
      · intro h
        obtain rfl := Option.some.inj h
        exact ⟨[], names, rfl, .inl hn, List.nodup_nil, by simp⟩
      · intro h
        obtain ⟨before, after, hnames, -, -, hfree⟩ := h
        cases before with
        | nil =>
          obtain ⟨rfl, -⟩ := List.cons.inj hnames
          rfl
        | cons m before =>
          obtain ⟨rfl, -⟩ := List.cons.inj hnames
          exact absurd hn (hfree n List.mem_cons_self)
    · rw [if_neg hn, ih, isFirstRepeat_cons_iff hn]

/-! ### Patterns -/

section Patterns

variable (compiler : Pattern.Compiler)

/-- Why a pattern can neither be used nor left out; none if it can. -/
def unusable? (caseSensitive : Bool) (p : String) : Option Pattern.PatternFault :=
  match compiler.run caseSensitive p with
  | .ok _ => none
  | .error fault => if fault = .malformed then none else some fault

/-- The fault of the first pattern of a definition that can neither be used nor left out. -/
def Definition.unusablePattern? (d : Definition) : Option Pattern.PatternFault :=
  d.detection.patternSet?.bind fun set =>
    set.patterns.findSome? (unusable? compiler set.caseSensitive)

/-- The patterns of a definition that can be used, in order. -/
def Definition.usablePatterns (d : Definition) : List Pattern :=
  (d.detection.patternSet?.map fun set =>
    set.patterns.filterMap fun p => (compiler.run set.caseSensitive p).toOption).getD []

/-- What becomes of the first of several patterns. -/
theorem readPatterns_cons (caseSensitive : Bool) (p : String) (rest : List String) :
    (∃ fault, unusable? compiler caseSensitive p = some fault ∧
      readPatterns compiler caseSensitive (p :: rest) = .error (.unusablePattern fault)) ∨
    (unusable? compiler caseSensitive p = none ∧
      readPatterns compiler caseSensitive (p :: rest) =
        (readPatterns compiler caseSensitive rest).map
          ((compiler.run caseSensitive p).toOption.toList ++ ·)) := by
  rw [unusable?, readPatterns]
  cases compiler.run caseSensitive p with
  | ok pattern => exact .inr ⟨rfl, rfl⟩
  | error fault =>
    cases fault with
    | malformed =>
      refine .inr ⟨rfl, ?_⟩
      cases readPatterns compiler caseSensitive rest <;> rfl
    | repetitionTooLarge => exact .inl ⟨_, rfl, rfl⟩
    | countTooLong digits => exact .inl ⟨_, rfl, rfl⟩
    | switchesConflict => exact .inl ⟨_, rfl, rfl⟩
    | other report => exact .inl ⟨_, rfl, rfl⟩

theorem readPatterns_cases (caseSensitive : Bool) (patterns : List String) :
    (∃ fault, patterns.findSome? (unusable? compiler caseSensitive) = some fault ∧
      readPatterns compiler caseSensitive patterns = .error (.unusablePattern fault)) ∨
    (patterns.findSome? (unusable? compiler caseSensitive) = none ∧
      readPatterns compiler caseSensitive patterns =
        .ok (patterns.filterMap fun p => (compiler.run caseSensitive p).toOption)) := by
  induction patterns with
  | nil => exact .inr ⟨rfl, rfl⟩
  | cons p rest ih =>
    rcases readPatterns_cons compiler caseSensitive p rest with ⟨fault, hp, hread⟩ | ⟨hp, hread⟩
    · refine .inl ⟨fault, ?_, hread⟩
      rw [List.findSome?_cons, hp]
    · rw [List.findSome?_cons, hp, hread]
      rcases ih with ⟨fault, hfault, hrest⟩ | ⟨hnone, hrest⟩
      · exact .inl ⟨fault, hfault, by rw [hrest]; rfl⟩
      · refine .inr ⟨hnone, ?_⟩
        rw [hrest, List.filterMap_cons]
        cases (compiler.run caseSensitive p).toOption <;> rfl

theorem ofDefinition_cases (d : Definition) :
    (∃ fault, d.unusablePattern? compiler = some fault ∧
      Entry.ofDefinition compiler d = .error (.unusablePattern fault)) ∨
    (d.unusablePattern? compiler = none ∧
      Entry.ofDefinition compiler d = .ok ⟨d, d.usablePatterns compiler⟩) := by
  unfold Definition.unusablePattern? Definition.usablePatterns Entry.ofDefinition
  cases d.detection.patternSet? with
  | none => exact .inr ⟨rfl, rfl⟩
  | some set =>
    rcases readPatterns_cases compiler set.caseSensitive set.patterns with ⟨fault, hfault, hread⟩ |
      ⟨hnone, hread⟩
    · exact .inl ⟨fault, hfault, by dsimp only; rw [hread]; rfl⟩
    · exact .inr ⟨hnone, by dsimp only; rw [hread]; rfl⟩

theorem mapM_ofDefinition_cases (tags : List Definition) :
    (∃ fault, tags.findSome? (Definition.unusablePattern? compiler) = some fault ∧
      tags.mapM (Entry.ofDefinition compiler) = .error (.unusablePattern fault)) ∨
    (tags.findSome? (Definition.unusablePattern? compiler) = none ∧
      tags.mapM (Entry.ofDefinition compiler) =
        .ok (tags.map fun d => ⟨d, d.usablePatterns compiler⟩)) := by
  induction tags with
  | nil => exact .inr ⟨rfl, rfl⟩
  | cons d tags ih =>
    rw [List.findSome?_cons, List.mapM_cons]
    rcases ofDefinition_cases compiler d with ⟨fault, hfault, hentry⟩ | ⟨hnone, hentry⟩
    · rw [hfault, hentry]
      exact .inl ⟨fault, rfl, rfl⟩
    · rw [hnone, hentry]
      rcases ih with ⟨fault, hfault, hrest⟩ | ⟨hrest, hentries⟩
      · refine .inl ⟨fault, hfault, ?_⟩
        rw [hrest]
        rfl
      · refine .inr ⟨hrest, ?_⟩
        rw [hentries]
        rfl

theorem unusablePattern?_eq_none_iff (d : Definition) :
    d.unusablePattern? compiler = none ↔ ∀ set, d.detection.patternSet? = some set →
      ∀ p ∈ set.patterns, ∀ fault, compiler.run set.caseSensitive p = .error fault →
        fault = .malformed := by
  have hone : ∀ caseSensitive p, unusable? compiler caseSensitive p = none ↔
      ∀ fault, compiler.run caseSensitive p = .error fault → fault = .malformed := by
    intro caseSensitive p
    rw [unusable?]
    cases compiler.run caseSensitive p with
    | ok pattern => simp
    | error fault => simp
  rw [Definition.unusablePattern?, Option.bind_eq_none_iff]
  simp only [List.findSome?_eq_none_iff, hone]

theorem usablePatterns_of_some {d : Definition} {set : PatternSet}
    (h : d.detection.patternSet? = some set) :
    d.usablePatterns compiler =
      set.patterns.filterMap fun p => (compiler.run set.caseSensitive p).toOption := by
  rw [Definition.usablePatterns, h]
  rfl

theorem usablePatterns_of_none {d : Definition} (h : d.detection.patternSet? = none) :
    d.usablePatterns compiler = [] := by
  rw [Definition.usablePatterns, h]
  rfl

theorem map_text_readable (caseSensitive : Bool) (patterns : List String) :
    (patterns.filterMap fun p => (compiler.run caseSensitive p).toOption).map Pattern.text =
      patterns.filter fun p => (compiler.run caseSensitive p).isOk := by
  rw [List.map_filterMap, ← List.filterMap_eq_filter]
  refine List.filterMap_congr fun p _ => ?_
  cases hcompile : compiler.run caseSensitive p with
  | error fault => simp [Option.guard, hcompile, Except.toOption, Except.isOk, Except.toBool]
  | ok pattern =>
    have htext := compiler.text_run hcompile
    simp [Option.guard, hcompile, Except.toOption, Except.isOk, Except.toBool, htext]

end Patterns

/-! ### When a registry is built -/

/-- The names of base tags are distinct, those of compound tags are, and no name is in both. -/
structure DistinctNames (tags : List Definition) (compounds : List CompoundDefinition) : Prop where
  tagNames : (tags.map Definition.name).Nodup
  compoundNames : (compounds.map CompoundDefinition.name).Nodup
  apart : ∀ name ∈ compounds.map CompoundDefinition.name, name ∉ tags.map Definition.name

namespace Registry

variable {compiler : Pattern.Compiler} {version : String} {tags : List Definition}
  {compounds : List CompoundDefinition} {r : Registry}

theorem build_of_repeated_tag {name : String}
    (h : IsFirstRepeat [] (tags.map Definition.name) name) :
    Registry.build version tags compounds compiler = .error (.duplicateTag name) := by
  rw [← firstRepeated?_eq_some_iff] at h
  simp only [Registry.build, h]

theorem build_of_repeated_compound (hnames : (tags.map Definition.name).Nodup) {name : String}
    (h : IsFirstRepeat (tags.map Definition.name) (compounds.map CompoundDefinition.name) name) :
    Registry.build version tags compounds compiler = .error (.duplicateCompound name) := by
  have hnone : firstRepeated? [] (tags.map Definition.name) = none :=
    (firstRepeated?_eq_none_iff [] _).2 ⟨hnames, by simp⟩
  rw [← firstRepeated?_eq_some_iff] at h
  simp only [Registry.build, hnone, h]

theorem build_of_distinct (version : String) (h : DistinctNames tags compounds) :
    (∃ fault, tags.findSome? (Definition.unusablePattern? compiler) = some fault ∧
      Registry.build version tags compounds compiler = .error (.unusablePattern fault)) ∨
    (tags.findSome? (Definition.unusablePattern? compiler) = none ∧
      Registry.build version tags compounds compiler =
        .ok ⟨version, tags.map fun d => ⟨d, d.usablePatterns compiler⟩, compounds⟩) := by
  have hnone : firstRepeated? [] (tags.map Definition.name) = none :=
    (firstRepeated?_eq_none_iff [] _).2 ⟨h.tagNames, by simp⟩
  have hnone' : firstRepeated? (tags.map Definition.name)
      (compounds.map CompoundDefinition.name) = none :=
    (firstRepeated?_eq_none_iff _ _).2 ⟨h.compoundNames, h.apart⟩
  simp only [Registry.build, hnone, hnone']
  rcases mapM_ofDefinition_cases compiler tags with ⟨fault, hfault, hentries⟩ | ⟨husable, hentries⟩
  · exact .inl ⟨fault, hfault, by rw [hentries]; rfl⟩
  · exact .inr ⟨husable, by rw [hentries]; rfl⟩

theorem distinctNames_or_repeated (tags : List Definition) (compounds : List CompoundDefinition) :
    (∃ name, IsFirstRepeat [] (tags.map Definition.name) name) ∨
    ((tags.map Definition.name).Nodup ∧ ∃ name,
      IsFirstRepeat (tags.map Definition.name) (compounds.map CompoundDefinition.name) name) ∨
    DistinctNames tags compounds := by
  cases hfirst : firstRepeated? [] (tags.map Definition.name) with
  | some name => exact .inl ⟨name, (firstRepeated?_eq_some_iff _ _ _).1 hfirst⟩
  | none =>
    have hnames := ((firstRepeated?_eq_none_iff _ _).1 hfirst).1
    cases hsecond : firstRepeated? (tags.map Definition.name)
        (compounds.map CompoundDefinition.name) with
    | some name => exact .inr (.inl ⟨hnames, name, (firstRepeated?_eq_some_iff _ _ _).1 hsecond⟩)
    | none =>
      obtain ⟨hcompounds, hapart⟩ := (firstRepeated?_eq_none_iff _ _).1 hsecond
      exact .inr (.inr ⟨hnames, hcompounds, hapart⟩)

/-- All that can come of building a registry, and what decides it. -/
theorem build_cases (compiler : Pattern.Compiler) (version : String) (tags : List Definition)
    (compounds : List CompoundDefinition) :
    (∃ name, IsFirstRepeat [] (tags.map Definition.name) name ∧
      Registry.build version tags compounds compiler = .error (.duplicateTag name)) ∨
    ((tags.map Definition.name).Nodup ∧ ∃ name,
      IsFirstRepeat (tags.map Definition.name) (compounds.map CompoundDefinition.name) name ∧
      Registry.build version tags compounds compiler = .error (.duplicateCompound name)) ∨
    (DistinctNames tags compounds ∧ ∃ fault,
      tags.findSome? (Definition.unusablePattern? compiler) = some fault ∧
      Registry.build version tags compounds compiler = .error (.unusablePattern fault)) ∨
    (DistinctNames tags compounds ∧ tags.findSome? (Definition.unusablePattern? compiler) = none ∧
      Registry.build version tags compounds compiler =
        .ok ⟨version, tags.map fun d => ⟨d, d.usablePatterns compiler⟩, compounds⟩) := by
  rcases distinctNames_or_repeated tags compounds with ⟨name, h⟩ | ⟨hnames, name, h⟩ | hdistinct
  · exact .inl ⟨name, h, build_of_repeated_tag h⟩
  · exact .inr (.inl ⟨hnames, name, h, build_of_repeated_compound hnames h⟩)
  · rcases build_of_distinct version hdistinct with hfault | hbuilt
    · exact .inr (.inr (.inl ⟨hdistinct, hfault⟩))
    · exact .inr (.inr (.inr ⟨hdistinct, hbuilt⟩))

theorem build_eq_ok_iff :
    Registry.build version tags compounds compiler = .ok r ↔
      DistinctNames tags compounds ∧ tags.findSome? (Definition.unusablePattern? compiler) = none ∧
        r = ⟨version, tags.map fun d => ⟨d, d.usablePatterns compiler⟩, compounds⟩ := by
  constructor
  · intro h
    rcases build_cases compiler version tags compounds with ⟨_, -, hbuild⟩ | ⟨-, _, -, hbuild⟩ |
      ⟨-, _, -, hbuild⟩ | ⟨hdistinct, hnone, hbuild⟩
    · exact absurd (h.symm.trans hbuild) (by simp)
    · exact absurd (h.symm.trans hbuild) (by simp)
    · exact absurd (h.symm.trans hbuild) (by simp)
    · exact ⟨hdistinct, hnone, Except.ok.inj (h.symm.trans hbuild)⟩
  · intro h
    obtain ⟨hdistinct, hnone, rfl⟩ := h
    rcases build_of_distinct version hdistinct with ⟨fault, hfault, -⟩ | ⟨-, hbuild⟩
    · exact absurd (hnone.symm.trans hfault) (by simp)
    · exact hbuild

theorem build_eq_error_iff (fault : RegistryFault) :
    Registry.build version tags compounds compiler = .error fault ↔
      (∃ name, IsFirstRepeat [] (tags.map Definition.name) name ∧ fault = .duplicateTag name) ∨
      ((tags.map Definition.name).Nodup ∧ ∃ name,
        IsFirstRepeat (tags.map Definition.name) (compounds.map CompoundDefinition.name) name ∧
        fault = .duplicateCompound name) ∨
      (DistinctNames tags compounds ∧ ∃ f,
        tags.findSome? (Definition.unusablePattern? compiler) = some f ∧
          fault = .unusablePattern f) := by
  constructor
  · intro h
    rcases build_cases compiler version tags compounds with ⟨name, hname, hbuild⟩ |
      ⟨hnames, name, hname, hbuild⟩ | ⟨hdistinct, f, hf, hbuild⟩ | ⟨-, -, hbuild⟩
    · exact .inl ⟨name, hname, Except.error.inj (h.symm.trans hbuild)⟩
    · exact .inr (.inl ⟨hnames, name, hname, Except.error.inj (h.symm.trans hbuild)⟩)
    · exact .inr (.inr ⟨hdistinct, f, hf, Except.error.inj (h.symm.trans hbuild)⟩)
    · exact absurd (h.symm.trans hbuild) (by simp)
  · intro h
    rcases h with ⟨name, hname, rfl⟩ | ⟨hnames, name, hname, rfl⟩ | ⟨hdistinct, f, hf, rfl⟩
    · exact build_of_repeated_tag hname
    · exact build_of_repeated_compound hnames hname
    · rcases build_of_distinct version hdistinct with ⟨f', hf', hbuild⟩ | ⟨hnone, -⟩
      · obtain rfl := Option.some.inj (hf.symm.trans hf')
        exact hbuild
      · exact absurd (hf.symm.trans hnone) (by simp)

/-! ### Kinds -/

theorem map_definition_ofKind (h : r.entries.map Entry.definition = tags) (kind : DetectionKind) :
    (r.ofKind kind).map Entry.definition = tags.filter (·.detection.kind = kind) := by
  rw [← h, List.filter_map]
  rfl

theorem ofKind_perm (r : Registry) :
    (r.ofKind .pattern ++ r.ofKind .metric ++ r.ofKind .node ++ r.ofKind .contextual).Perm
      r.entries := by
  have hall : ∀ kind : DetectionKind, kind ∈ [.pattern, .metric, .node, .contextual] := by
    intro kind
    cases kind <;> decide
  have hgroups : Grouping (fun e : Entry => e.definition.detection.kind) r.entries
      (([.pattern, .metric, .node, .contextual] : List DetectionKind).map fun kind =>
        (kind, r.ofKind kind)) :=
    Grouping.of_keys (by decide) fun e _ => hall _
  have hperm := hgroups.flatMap_perm
  simpa [List.append_assoc] using hperm

/-! ### Categories -/

theorem categories_eq (h : r.entries.map Entry.definition = tags) :
    r.categories = (tags.map Definition.category).eraseDups := by
  rw [← h, List.map_map]
  rfl

theorem tagsInCategory_eq (h : r.entries.map Entry.definition = tags) (c : String) :
    r.tagsInCategory c = (tags.filter (·.category = c)).map Definition.name := by
  rw [← h, List.filter_map, List.map_map]
  rfl

theorem categoryOf?_eq_some_iff (h : Registry.build version tags compounds compiler = .ok r)
    (name c : String) :
    r.categoryOf? name = some c ↔ ∃ d ∈ tags, d.name = name ∧ d.category = c := by
  rw [categoryOf?, Option.map_eq_some_iff]
  simp only [definition?_eq_some_iff h, and_assoc]

/-- A name is listed under the category that is looked up for it. -/
theorem mem_tagsInCategory_iff (h : Registry.build version tags compounds compiler = .ok r)
    (name c : String) : name ∈ r.tagsInCategory c ↔ r.categoryOf? name = some c := by
  rw [categoryOf?_eq_some_iff h, tagsInCategory_eq (entries_of_build h).1, List.mem_map]
  simp only [List.mem_filter, decide_eq_true_eq]
  constructor
  · intro hd
    obtain ⟨d, ⟨hd, hc⟩, hname⟩ := hd
    exact ⟨d, hd, hname, hc⟩
  · intro hd
    obtain ⟨d, hd, hname, hc⟩ := hd
    exact ⟨d, ⟨hd, hc⟩, hname⟩

theorem tagsInCategory_eq_filter (h : Registry.build version tags compounds compiler = .ok r)
    (c : String) :
    r.tagsInCategory c = (tags.map Definition.name).filter fun name =>
      r.categoryOf? name = some c := by
  have hnames := (build_ok_iff.1 h).1
  rw [tagsInCategory_eq (entries_of_build h).1, List.filter_map]
  congr 1
  refine List.filter_congr fun d hd => ?_
  rw [Function.comp_apply, decide_eq_decide, categoryOf?_eq_some_iff h]
  constructor
  · intro hc
    exact ⟨d, hd, rfl, hc⟩
  · intro hother
    obtain ⟨d', hd', hname, hc⟩ := hother
    rw [← List.inj_on_of_nodup_map hnames hd' hd hname]
    exact hc

theorem mem_categories_iff (h : r.entries.map Entry.definition = tags) (c : String) :
    c ∈ r.categories ↔ ∃ d ∈ tags, d.category = c := by
  rw [categories_eq h, List.mem_eraseDups, List.mem_map]

theorem existsUnique_category (h : Registry.build version tags compounds compiler = .ok r)
    {name : String} (hname : name ∈ tags.map Definition.name) :
    ∃! c, c ∈ r.categories ∧ name ∈ r.tagsInCategory c := by
  obtain ⟨d, hd, rfl⟩ := List.mem_map.1 hname
  have hcategory : r.categoryOf? d.name = some d.category :=
    (categoryOf?_eq_some_iff h _ _).2 ⟨d, hd, rfl, rfl⟩
  refine ⟨d.category, ⟨?_, ?_⟩, ?_⟩
  · exact (mem_categories_iff (entries_of_build h).1 _).2 ⟨d, hd, rfl⟩
  · exact (mem_tagsInCategory_iff h _ _).2 hcategory
  · intro c hc
    have hother := (mem_tagsInCategory_iff h _ _).1 hc.2
    exact Option.some.inj (hother.symm.trans hcategory)

/-- The categories with their tags are what one pass over the definitions makes. -/
theorem categories_eq_foldl (h : r.entries.map Entry.definition = tags) :
    (r.categories.map fun c => (c, r.tagsInCategory c)) =
      (tags.foldl (Grouping.enter Definition.category) []).map fun g =>
        (g.1, g.2.map Definition.name) := by
  have hknown : ∀ d ∈ tags, d.category ∈ r.categories := by
    intro d hd
    exact (mem_categories_iff h _).2 ⟨d, hd, rfl⟩
  have hnodup : r.categories.Nodup := nodup_eraseDups _
  have hgroups := Grouping.of_keys hnodup hknown
  have hpass := hgroups.eq_foldl List.nodup_nil (by
    rw [List.map_map, List.nil_append, ← categories_eq h]
    exact List.map_id _)
  rw [List.map_nil] at hpass
  rw [← hpass, List.map_map]
  refine List.map_congr_left fun c _ => ?_
  rw [tagsInCategory_eq h]
  rfl

/-! ### Patterns of a tag -/

theorem patternsOf_eq (h : Registry.build version tags compounds compiler = .ok r) {d : Definition}
    (hd : d ∈ tags) : r.patternsOf d.name = d.usablePatterns compiler := by
  have hentry : r.entry? d.name = some ⟨d, d.usablePatterns compiler⟩ := by
    rw [entry?_eq_some_iff (entries_of_build h).2, (build_eq_ok_iff.1 h).2.2]
    exact ⟨List.mem_map_of_mem hd, rfl⟩
  rw [patternsOf, hentry]
  rfl

theorem patternsOf_of_notMem {name : String} (h : name ∉ r.tagNames) : r.patternsOf name = [] := by
  rw [patternsOf, (entry?_eq_none_iff r name).2 h]
  rfl

/-! ### The laws of indexes -/

/-- What the look-ups of a registry say is what the definitions say that it was built from. -/
structure Indexes (compiler : Pattern.Compiler) (r : Registry) (tags : List Definition)
    (compounds : List CompoundDefinition) : Prop where
  tagNames : r.tagNames = tags.map Definition.name
  compounds : r.compounds = compounds
  /-- The tags of a kind come in the order of their definitions. -/
  kind : ∀ kind, (r.ofKind kind).map Entry.definition = tags.filter (·.detection.kind = kind)
  /-- The lists by kind together have every tag exactly once. -/
  kinds : ((r.ofKind .pattern ++ r.ofKind .metric ++ r.ofKind .node
    ++ r.ofKind .contextual).map Entry.definition).Perm tags
  categories : r.categories.Nodup
  category : ∀ c, c ∈ r.categories ↔ ∃ d ∈ tags, d.category = c
  categoryOf : ∀ name c,
    r.categoryOf? name = some c ↔ ∃ d ∈ tags, d.name = name ∧ d.category = c
  tagsInCategory : ∀ c, r.tagsInCategory c =
    r.tagNames.filter fun name => r.categoryOf? name = some c
  oneCategory : ∀ name ∈ r.tagNames, ∃! c, c ∈ r.categories ∧ name ∈ r.tagsInCategory c
  /-- The categories with their tags are made in one pass over the definitions. -/
  pass : (r.categories.map fun c => (c, r.tagsInCategory c)) =
    (tags.foldl (Grouping.enter Definition.category) []).map fun g =>
      (g.1, g.2.map Definition.name)
  /-- The patterns of a tag are those of its definition that can be read. -/
  patterns : ∀ d ∈ tags, ∀ set, d.detection.patternSet? = some set →
    (r.patternsOf d.name = set.patterns.filterMap fun p =>
      (compiler.run set.caseSensitive p).toOption) ∧
    (r.patternsOf d.name).map Pattern.text = set.patterns.filter fun p =>
      (compiler.run set.caseSensitive p).isOk
  noPatterns : ∀ d ∈ tags, d.detection.kind = .metric ∨ d.detection.kind = .node →
    r.patternsOf d.name = []
  unknown : ∀ name, name ∉ r.tagNames → r.patternsOf name = []

theorem patternSet?_of_kind {detection : Detection}
    (h : detection.kind = .metric ∨ detection.kind = .node) : detection.patternSet? = none := by
  cases detection with
  | metric | node => rfl
  | pattern | contextual => exact absurd h (by simp [Detection.kind])

theorem indexes_of_build (h : Registry.build version tags compounds compiler = .ok r) :
    r.Indexes compiler tags compounds := by
  obtain ⟨hdefinitions, -⟩ := entries_of_build h
  have hnames : r.tagNames = tags.map Definition.name := by
    rw [← hdefinitions, List.map_map]
    rfl
  have hkinds := (ofKind_perm r).map Entry.definition
  rw [hdefinitions] at hkinds
  exact {
    tagNames := hnames
    compounds := (compounds_of_build h).1
    kind := map_definition_ofKind hdefinitions
    kinds := hkinds
    categories := nodup_eraseDups _
    category := mem_categories_iff hdefinitions
    categoryOf := categoryOf?_eq_some_iff h
    tagsInCategory := by
      rw [hnames]
      exact tagsInCategory_eq_filter h
    oneCategory := by
      rw [hnames]
      exact fun name hname => existsUnique_category h hname
    pass := categories_eq_foldl hdefinitions
    patterns := by
      intro d hd set hset
      rw [patternsOf_eq h hd, usablePatterns_of_some compiler hset]
      exact ⟨rfl, map_text_readable compiler set.caseSensitive set.patterns⟩
    noPatterns := by
      intro d hd hkind
      rw [patternsOf_eq h hd, usablePatterns_of_none compiler (patternSet?_of_kind hkind)]
    unknown := fun name => patternsOf_of_notMem }

/-- Whatever compiler is used, a registry is built exactly when all names are distinct and each
pattern compiles or is malformed, and then its indexes are exact. Otherwise the first repeated name
of a base tag is reported, then the first name of a compound tag that is repeated or is that of a
base tag, and then the first pattern that can neither be used nor left out. -/
theorem build_exactly (compiler : Pattern.Compiler) (version : String) (tags : List Definition)
    (compounds : List CompoundDefinition) :
    ((∃ r, Registry.build version tags compounds compiler = .ok r) ↔
      DistinctNames tags compounds ∧ ∀ d ∈ tags, ∀ set, d.detection.patternSet? = some set →
        ∀ p ∈ set.patterns, ∀ fault, compiler.run set.caseSensitive p = .error fault →
          fault = .malformed) ∧
    (∀ fault, Registry.build version tags compounds compiler = .error fault ↔
      (∃ name, IsFirstRepeat [] (tags.map Definition.name) name ∧ fault = .duplicateTag name) ∨
      ((tags.map Definition.name).Nodup ∧ ∃ name,
        IsFirstRepeat (tags.map Definition.name) (compounds.map CompoundDefinition.name) name ∧
        fault = .duplicateCompound name) ∨
      (DistinctNames tags compounds ∧ ∃ f,
        tags.findSome? (Definition.unusablePattern? compiler) = some f ∧ fault = .unusablePattern f)) ∧
    (∀ name, (RegistryFault.duplicateTag name).message = "Duplicate tag definition: " ++ name ∧
      (RegistryFault.duplicateCompound name).message =
        "Duplicate compound tag definition: " ++ name) ∧
    ∀ r, Registry.build version tags compounds compiler = .ok r →
      r.version = version ∧ r.Indexes compiler tags compounds := by
  refine ⟨?built, build_eq_error_iff, fun _ => ⟨rfl, rfl⟩, ?indexes⟩
  case built =>
    simp only [build_eq_ok_iff, exists_and_left, exists_eq, and_true, List.findSome?_eq_none_iff,
      unusablePattern?_eq_none_iff]
  case indexes =>
    intro r h
    obtain ⟨-, -, hr⟩ := build_eq_ok_iff.1 h
    exact ⟨by rw [hr], indexes_of_build h⟩

/-- Three tags of three kinds in two categories; the first of the patterns is malformed. -/
def threeKinds : List Definition :=
  [⟨"READ", "io", "", .pattern .any ⟨["(", "read"], true, false⟩⟩,
    ⟨"LONG", "size", "", .metric .lineCount .atLeast 300⟩,
    ⟨"WRITE_IN_LOOP", "io", "", .contextual .loopBody ⟨["write"], true, false⟩⟩]

theorem build_threeKinds : ∃ r, Registry.build "1" threeKinds [] = .ok r ∧
    r.Indexes Pattern.compiler threeKinds [] ∧ r.tagsInCategory "io" = ["READ", "WRITE_IN_LOOP"] ∧
    (r.patternsOf "READ").map Pattern.text = ["read"] := by
  have hok : (Registry.build "1" threeKinds []).isOk = true := by decide +kernel
  cases hbuild : Registry.build "1" threeKinds [] with
  | error fault =>
    rw [hbuild] at hok
    exact absurd hok (by simp [Except.isOk, Except.toBool])
  | ok r =>
    have hindexes := ((build_exactly Pattern.compiler "1" threeKinds []).2.2.2 r hbuild).2
    have hpatterns := (hindexes.patterns _ List.mem_cons_self _ rfl).2
    have hread : (["(", "read"].filter fun p => (Pattern.compiler.run true p).isOk) = ["read"] := by
      decide +kernel
    refine ⟨r, rfl, hindexes, ?_, hpatterns.trans hread⟩
    rw [tagsInCategory_eq (entries_of_build hbuild).1]
    decide

def tooManyRepetitions : Definition :=
  ⟨"A", "general", "", .pattern .any ⟨["a\x7b4294967296\x7d", "b"], true, true⟩⟩

/-- One such pattern prevents a registry although all names are distinct. -/
theorem build_tooManyRepetitions :
    DistinctNames [tooManyRepetitions] [] ∧
    Registry.build "unknown" [tooManyRepetitions] [] =
      .error (.unusablePattern .repetitionTooLarge) := by
  have hdistinct : DistinctNames [tooManyRepetitions] [] := ⟨by simp, by simp, by simp⟩
  have hunusable : [tooManyRepetitions].findSome? (Definition.unusablePattern? Pattern.compiler) =
      some .repetitionTooLarge := by decide +kernel
  exact ⟨hdistinct, (build_eq_error_iff _).2 (.inr (.inr ⟨hdistinct, _, hunusable, rfl⟩))⟩

end Registry

end TagAudit.Tag
