import TagAudit.Expression.Evaluation
import TagAudit.Proofs.Expression.Parsing

/-!
# Evaluation (`evaluate`)

The value of a condition is that of its parts, and so are the tags that explain it. The same holds
of the texts of conditions that are put together: parentheses, `!` and `&&` around groups give the
tree of the parts, and `||` between two texts without parentheses gives a tree of another shape with
the same outcome.
-/

namespace TagAudit.Expression

section Witness

variable (tags : List String)

/-! ### Explanations of the parts -/

theorem witness_tag (name : String) :
    (atom name false).witness tags = if name ∈ tags then some [name] else none := rfl

theorem witness_negatedTag (name : String) :
    (atom name true).witness tags = if name ∈ tags then none else some [] := rfl

theorem witness_not (e : Expression) :
    e.not.witness tags = if (e.witness tags).isSome then none else some [] := by
  cases he : e.witness tags with
  | none => simp [witness, he]
  | some a => simp [witness, he]

theorem witness_and (l r : Expression) :
    (l.and r).witness tags = (l.witness tags).bind fun a => (r.witness tags).map (a ++ ·) := by
  cases hl : l.witness tags with
  | none => simp [witness, hl]
  | some a =>
    cases hr : r.witness tags with
    | none => simp [witness, hl, hr]
    | some b => simp [witness, hl, hr]

theorem witness_or (l r : Expression) :
    (l.or r).witness tags = (l.witness tags).or (r.witness tags) := by
  cases hl : l.witness tags with
  | none => simp [witness, hl]
  | some a => simp [witness, hl]

/-! ### Truth values -/

theorem holds_eq (e : Expression) : e.holds tags = (e.witness tags).isSome := rfl

@[simp] theorem holds_tag (name : String) : (atom name false).holds tags = decide (name ∈ tags) := by
  rw [holds_eq, witness_tag]
  by_cases h : name ∈ tags
  · simp [h]
  · simp [h]

@[simp] theorem holds_negatedTag (name : String) :
    (atom name true).holds tags = !decide (name ∈ tags) := by
  rw [holds_eq, witness_negatedTag]
  by_cases h : name ∈ tags
  · simp [h]
  · simp [h]

@[simp] theorem holds_not (e : Expression) : e.not.holds tags = !e.holds tags := by
  rw [holds_eq, holds_eq, witness_not]
  cases e.witness tags with
  | none => rfl
  | some a => rfl

@[simp] theorem holds_and (l r : Expression) :
    (l.and r).holds tags = (l.holds tags && r.holds tags) := by
  rw [holds_eq, holds_eq, holds_eq, witness_and]
  cases l.witness tags with
  | none => rfl
  | some a =>
    cases r.witness tags with
    | none => rfl
    | some b => rfl

@[simp] theorem holds_or (l r : Expression) :
    (l.or r).holds tags = (l.holds tags || r.holds tags) := by
  rw [holds_eq, holds_eq, holds_eq, witness_or]
  cases l.witness tags with
  | none => rfl
  | some a => rfl

end Witness

/-! ### Outcomes -/

/-- The tags that explain a condition are present. -/
theorem witness_present {tags : List String} {e : Expression} {found : List String}
    (h : e.witness tags = some found) : ∀ t ∈ found, t ∈ tags := by
  induction e generalizing found with
  | atom name negated =>
    by_cases hn : name ∈ tags
    · cases negated with
      | false =>
        rw [witness_tag, if_pos hn, Option.some.injEq] at h
        subst h
        simpa using hn
      | true =>
        rw [witness_negatedTag, if_pos hn] at h
        exact absurd h (by simp)
    · cases negated with
      | false =>
        rw [witness_tag, if_neg hn] at h
        exact absurd h (by simp)
      | true =>
        rw [witness_negatedTag, if_neg hn, Option.some.injEq] at h
        subst h
        simp
  | not e _ =>
    rw [witness_not] at h
    split at h
    · exact absurd h (by simp)
    · rw [Option.some.injEq] at h
      subst h
      simp
  | and l r ihl ihr =>
    rw [witness_and, Option.bind_eq_some_iff] at h
    obtain ⟨a, ha, hmap⟩ := h
    obtain ⟨b, hb, rfl⟩ := Option.map_eq_some_iff.1 hmap
    intro t ht
    rcases List.mem_append.1 ht with ht | ht
    · exact ihl ha t ht
    · exact ihr hb t ht
  | or l r ihl ihr =>
    rw [witness_or, Option.or_eq_some_iff] at h
    rcases h with h | ⟨-, h⟩
    · exact ihl h
    · exact ihr h

theorem outcome_eq (tags : List String) (e : Expression) :
    e.outcome tags = ⟨(e.witness tags).isSome, ((e.witness tags).getD []).eraseDups⟩ := rfl

theorem outcome_of_some (tags : List String) (e : Expression) (found : List String)
    (h : e.witness tags = some found) : e.outcome tags = ⟨true, found.eraseDups⟩ := by
  rw [outcome_eq, h, Option.isSome_some, Option.getD_some]

theorem outcome_of_none (tags : List String) (e : Expression) (h : e.witness tags = none) :
    e.outcome tags = ⟨false, []⟩ := by
  rw [outcome_eq, h, Option.isSome_none, Option.getD_none, List.eraseDups_nil]

theorem matchedTags_of_false {tags : List String} {e : Expression}
    (h : (e.outcome tags).result = false) : (e.outcome tags).matchedTags = [] := by
  cases hw : e.witness tags with
  | none => rw [outcome_of_none tags e hw]
  | some found =>
    rw [outcome_of_some tags e found hw] at h
    exact absurd h (by simp)

theorem matchedTags_nodup (tags : List String) (e : Expression) :
    (e.outcome tags).matchedTags.Nodup :=
  nodup_eraseDups _

theorem matchedTags_present (tags : List String) (e : Expression) :
    ∀ t ∈ (e.outcome tags).matchedTags, t ∈ tags := by
  intro t ht
  cases hw : e.witness tags with
  | none =>
    rw [outcome_of_none tags e hw] at ht
    exact absurd ht (by simp)
  | some found =>
    rw [outcome_of_some tags e found hw, List.mem_eraseDups] at ht
    exact witness_present hw t ht

/-! ### Outcomes of the parts -/

theorem outcome_not (tags : List String) (e : Expression) :
    e.not.outcome tags = ⟨!(e.outcome tags).result, []⟩ := by
  cases hw : e.witness tags with
  | none =>
    rw [outcome_of_none tags e hw, outcome_of_some tags e.not [] (by simp [witness_not, hw])]
    rfl
  | some found =>
    rw [outcome_of_some tags e found hw, outcome_of_none tags e.not (by simp [witness_not, hw])]
    rfl

theorem outcome_and (tags : List String) (l r : Expression) :
    (l.and r).outcome tags =
      ⟨(l.outcome tags).result && (r.outcome tags).result,
        if (l.outcome tags).result && (r.outcome tags).result then
          ((l.outcome tags).matchedTags ++ (r.outcome tags).matchedTags).eraseDups
        else []⟩ := by
  cases hl : l.witness tags with
  | none =>
    rw [outcome_of_none tags l hl, outcome_of_none tags (l.and r) (by simp [witness_and, hl])]
    rfl
  | some a =>
    cases hr : r.witness tags with
    | none =>
      rw [outcome_of_some tags l a hl, outcome_of_none tags r hr,
        outcome_of_none tags (l.and r) (by simp [witness_and, hl, hr])]
      rfl
    | some b =>
      rw [outcome_of_some tags l a hl, outcome_of_some tags r b hr,
        outcome_of_some tags (l.and r) (a ++ b) (by simp [witness_and, hl, hr])]
      simp [eraseDups_append_eraseDups]

/-- The outcome of a disjunction is that of its first true side. -/
theorem outcome_of_or_witness (tags : List String) (e l r : Expression)
    (h : e.witness tags = (l.witness tags).or (r.witness tags)) :
    e.outcome tags =
      ⟨(l.outcome tags).result || (r.outcome tags).result,
        if (l.outcome tags).result then (l.outcome tags).matchedTags
        else (r.outcome tags).matchedTags⟩ := by
  cases hl : l.witness tags with
  | none =>
    rw [hl, Option.none_or] at h
    have he : e.outcome tags = r.outcome tags := by rw [outcome_eq, outcome_eq, h]
    rw [he, outcome_of_none tags l hl]
    rfl
  | some a =>
    rw [hl, Option.some_or] at h
    rw [outcome_of_some tags e a h, outcome_of_some tags l a hl]
    rfl

theorem outcome_tag (tags : List String) (name : String) :
    (atom name false).outcome tags =
      ⟨decide (name ∈ tags), if name ∈ tags then [name] else []⟩ := by
  by_cases h : name ∈ tags
  · rw [outcome_of_some tags _ [name] (by simp [witness_tag, h])]
    simp [h, List.eraseDups_cons]
  · rw [outcome_of_none tags _ (by simp [witness_tag, h])]
    simp [h]

/-! ### Texts that are put together -/

theorem evaluate_of_parse {a : String} {ea : Expression} (ha : parse a = .ok ea)
    (tags : List String) : evaluate a tags = .ok (ea.outcome tags) := by
  rw [evaluate, ha]
  rfl

theorem Spells.group {cs rest : List Char} {ts rs : List Token} (h : Spells cs ts)
    (hrest : Spells rest rs) :
    Spells ("(".toList ++ (cs ++ (")".toList ++ rest))) (.opening :: (ts ++ .closing :: rs)) := by
  have hclosing : Spells (")".toList ++ rest) (.closing :: rs) :=
    @Spells.token .closing rest rs trivial hrest
  have hinside : Spells (cs ++ (")".toList ++ rest)) (ts ++ .closing :: rs) :=
    h.append hclosing (endsTag_cons ')' rest (by decide))
  exact @Spells.token .opening _ _ trivial hinside

theorem Derives.of_group {w : List Token} {e : Expression} (h : Derives .disjunction w e) :
    Derives .negation (.opening :: w ++ [.closing]) e :=
  .primary (.group h)

theorem parse_group (a : String) (ea : Expression) (ha : parse a = .ok ea) :
    parse ("(" ++ a ++ ")") = .ok ea := by
  obtain ⟨ts, hspell, hderive⟩ := (parse_ok_iff a ea).1 ha
  refine (parse_ok_iff _ ea).2 ⟨.opening :: ts ++ [.closing], ?_,
    .conjunction (.negation hderive.of_group)⟩
  rw [String.toList_append, String.toList_append, List.append_assoc]
  exact hspell.group .nil

theorem parse_not_group (a : String) (ea : Expression) (ha : parse a = .ok ea) :
    parse ("!(" ++ a ++ ")") = .ok ea.not := by
  obtain ⟨ts, hspell, hderive⟩ := (parse_ok_iff a ea).1 ha
  refine (parse_ok_iff _ _).2 ⟨.not :: (.opening :: ts ++ [.closing]), ?_,
    .conjunction (.negation (.not hderive.of_group))⟩
  rw [String.toList_append, String.toList_append, List.append_assoc]
  exact @Spells.token .not _ _ trivial (hspell.group .nil)

theorem parse_and_groups (a b : String) (ea eb : Expression) (ha : parse a = .ok ea)
    (hb : parse b = .ok eb) : parse ("(" ++ a ++ ") && (" ++ b ++ ")") = .ok (ea.and eb) := by
  obtain ⟨ts, hspella, hderivea⟩ := (parse_ok_iff a ea).1 ha
  obtain ⟨us, hspellb, hderiveb⟩ := (parse_ok_iff b eb).1 hb
  have htail : Spells (" && (".toList ++ (b.toList ++ ")".toList))
      (.and :: (.opening :: us ++ [.closing])) :=
    .blank (by decide) (@Spells.token .and _ _ trivial (.blank (by decide) (hspellb.group .nil)))
  refine (parse_ok_iff _ _).2 ⟨_, ?_,
    .conjunction (.and (.negation hderivea.of_group) hderiveb.of_group)⟩
  simp only [String.toList_append, List.append_assoc, List.cons_append, List.nil_append]
  exact hspella.group htail

/-- A disjunction between two conditions takes in the disjuncts of the second one by one; its
explanation is still that of the first true side. -/
theorem Derives.or_join {u v : List Token} {l r : Expression} (hl : Derives .disjunction u l)
    (hr : Derives .disjunction v r) :
    ∃ e, Derives .disjunction (u ++ .or :: v) e ∧
      ∀ tags, e.witness tags = (l.witness tags).or (r.witness tags) := by
  -- Along the left recursion of the second condition; only its first disjunct meets `l` directly.
  generalize hn : Nonterminal.disjunction = n at hr
  induction hr with
  | @conjunction v r h _ => exact ⟨l.or r, .or hl h, fun tags => witness_or tags l r⟩
  | @or v v' r r' _ hr' ih _ =>
    obtain ⟨e, he, hwitness⟩ := ih hn
    refine ⟨e.or r', ?_, fun tags => ?_⟩
    · have hjoin := Derives.or he hr'
      rwa [List.append_assoc, List.cons_append] at hjoin
    · rw [witness_or, witness_or, hwitness, Option.or_assoc]
  | negation | and | not | primary | tag | group => cases hn

theorem parse_or (a b : String) (ea eb : Expression) (ha : parse a = .ok ea)
    (hb : parse b = .ok eb) :
    ∃ e, parse (a ++ " || " ++ b) = .ok e ∧
      ∀ tags, e.witness tags = (ea.witness tags).or (eb.witness tags) := by
  obtain ⟨ts, hspella, hderivea⟩ := (parse_ok_iff a ea).1 ha
  obtain ⟨us, hspellb, hderiveb⟩ := (parse_ok_iff b eb).1 hb
  obtain ⟨e, hderive, hwitness⟩ := hderivea.or_join hderiveb
  refine ⟨e, (parse_ok_iff _ e).2 ⟨ts ++ .or :: us, ?_, hderive⟩, hwitness⟩
  rw [String.toList_append, String.toList_append, List.append_assoc]
  have htail : Spells (" || ".toList ++ b.toList) (.or :: us) :=
    .blank (by decide) (@Spells.token .or _ _ trivial (.blank (by decide) hspellb))
  exact hspella.append htail (endsTag_cons ' ' _ (by decide))

theorem endsTag_of_blank (cs : List Char) (h : cs.all Text.isBlank = true) : EndsTag cs := by
  cases cs with
  | nil => exact endsTag_nil
  | cons c cs =>
    rw [List.all_cons, Bool.and_eq_true] at h
    refine endsTag_cons c cs ?_
    cases hc : isTagChar c with
    | false => rfl
    | true =>
      rw [isBlank_of_isTagChar c hc] at h
      exact absurd h.1 (by simp)

/-- A tag with nothing but blanks after it. -/
theorem spells_tag_blank (name : String) (hn : IsTagName name) (cs : List Char)
    (hcs : cs.all Text.isBlank = true) : Spells (name.toList ++ cs) [.tag name] :=
  @Spells.token (.tag name) _ _ ⟨hn, endsTag_of_blank cs hcs⟩ (spells_of_blank cs hcs)

theorem parse_tag_blank (text name : String) (hn : IsTagName name) (cs : List Char)
    (hcs : cs.all Text.isBlank = true) (htext : text.toList = name.toList ++ cs) :
    parse text = .ok (.atom name false) := by
  refine (parse_ok_iff text _).2 ⟨[.tag name], ?_, .conjunction (.negation (.primary (.tag name)))⟩
  rw [htext]
  exact spells_tag_blank name hn cs hcs

theorem parse_tag (name : String) (hn : IsTagName name) : parse name = .ok (.atom name false) :=
  parse_tag_blank name name hn [] rfl (List.append_nil _).symm

/-- Texts that parse can be put together, and the outcome is that of the parts. -/
theorem evaluate_compositional (a b : String) (tags : List String)
    (ha : ∃ e, parse a = .ok e) (hb : ∃ e, parse b = .ok e) :
    ∃ oa ob, evaluate a tags = .ok oa ∧ evaluate b tags = .ok ob ∧
      evaluate ("(" ++ a ++ ")") tags = .ok oa ∧
      evaluate ("!(" ++ a ++ ")") tags = .ok ⟨!oa.result, []⟩ ∧
      evaluate ("(" ++ a ++ ") && (" ++ b ++ ")") tags =
        .ok ⟨oa.result && ob.result,
          if oa.result && ob.result then (oa.matchedTags ++ ob.matchedTags).eraseDups else []⟩ ∧
      evaluate (a ++ " || " ++ b) tags =
        .ok ⟨oa.result || ob.result, if oa.result then oa.matchedTags else ob.matchedTags⟩ ∧
      (∀ t, IsTagName t →
        evaluate t tags = .ok ⟨decide (t ∈ tags), if t ∈ tags then [t] else []⟩) ∧
      (oa.result = false → oa.matchedTags = []) ∧
      oa.matchedTags.Nodup ∧ ∀ t ∈ oa.matchedTags, t ∈ tags := by
  obtain ⟨ea, ha⟩ := ha
  obtain ⟨eb, hb⟩ := hb
  obtain ⟨e, hor, hwitness⟩ := parse_or a b ea eb ha hb
  refine ⟨ea.outcome tags, eb.outcome tags, evaluate_of_parse ha tags, evaluate_of_parse hb tags,
    evaluate_of_parse (parse_group a ea ha) tags, ?_, ?_, ?_, ?_, matchedTags_of_false,
    matchedTags_nodup tags ea, matchedTags_present tags ea⟩
  · rw [evaluate_of_parse (parse_not_group a ea ha), outcome_not]
  · rw [evaluate_of_parse (parse_and_groups a b ea eb ha hb), outcome_and]
  · rw [evaluate_of_parse hor, outcome_of_or_witness tags e ea eb (hwitness tags)]
  · intro t ht
    rw [evaluate_of_parse (parse_tag t ht), outcome_tag]

theorem evaluate_group_and_group :
    (∃ e, parse "A || B" = .ok e) ∧ (∃ e, parse "B && !C" = .ok e) ∧
      evaluate "(A || B) && (B && !C)" ["D", "B"] = .ok ⟨true, ["B"]⟩ := by
  refine ⟨⟨_, rfl⟩, ⟨_, rfl⟩, ?_⟩
  obtain ⟨oa, ob, ha, hb, -, -, hand, -⟩ :=
    evaluate_compositional "A || B" "B && !C" ["D", "B"] ⟨_, rfl⟩ ⟨_, rfl⟩
  have hoa : oa = ⟨true, ["B"]⟩ := (Except.ok.inj ha).symm
  have hob : ob = ⟨true, ["B"]⟩ := (Except.ok.inj hb).symm
  rw [hoa, hob] at hand
  exact hand

end TagAudit.Expression
