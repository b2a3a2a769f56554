import TagAudit.Proofs.Table
import TagAudit.Risk

/-!
# The risk of a file (`compute_risk`)

A score is a sum of points, one summand for each compound tag that is present and for each
violation, and no summand is zero. So it does not depend on the order of either, it grows with each
of them, and the level, which a larger score never lowers, follows it.
-/

namespace TagAudit.Risk

/-! ### Levels -/

/-- The place of a level in the order from low to critical. -/
def Level.rank : Level → Nat
  | .low => 0
  | .medium => 1
  | .high => 2
  | .critical => 3

instance : LE Level := ⟨fun a b => a.rank ≤ b.rank⟩

theorem Level.rank_ofScore (score : Int) :
    (Level.ofScore score).rank =
      if score ≥ 15 then 3 else if score ≥ 8 then 2 else if score ≥ 3 then 1 else 0 := by
  unfold Level.ofScore
  repeat' split
  all_goals rfl

theorem Level.ofScore_le {score score' : Int} (h : score ≤ score') :
    Level.ofScore score ≤ Level.ofScore score' := by
  change (Level.ofScore score).rank ≤ (Level.ofScore score').rank
  rw [rank_ofScore, rank_ofScore]
  repeat' split
  all_goals omega

/-! ### Contributions -/

def ofMatched (name : String) (result : Compound.Result) : Contribution :=
  ⟨.compoundTag, name, result.severity, compoundPoints result.severity⟩

theorem ofCompound?_of_matched {entry : String × Compound.Result} (h : entry.2.matched = true) :
    ofCompound? entry = some (ofMatched entry.1 entry.2) := if_pos h

theorem ofCompound?_of_not_matched {entry : String × Compound.Result}
    (h : entry.2.matched = false) : ofCompound? entry = none := if_neg (by simp [h])

theorem filterMap_ofCompound? (results : List (String × Compound.Result)) :
    results.filterMap ofCompound? =
      (results.filter (·.2.matched)).map fun entry => ofMatched entry.1 entry.2 := by
  induction results with
  | nil => rfl
  | cons entry results ih =>
    rw [List.filter_cons]
    by_cases h : entry.2.matched = true
    · rw [List.filterMap_cons_some (ofCompound?_of_matched h), if_pos h, List.map_cons, ih]
    · have hnone := ofCompound?_of_not_matched (Bool.eq_false_iff.2 h)
      rw [List.filterMap_cons_none hnone, if_neg h, ih]

theorem contributions_eq (results : List (String × Compound.Result))
    (violations : List Violation) :
    contributions results violations =
      ((results.filter (·.2.matched)).map fun entry => ofMatched entry.1 entry.2) ++
        violations.map ofViolation := by
  rw [contributions, filterMap_ofCompound?]

theorem filter_compoundTag (results : List (String × Compound.Result))
    (violations : List Violation) :
    (contributions results violations).filter (·.kind = .compoundTag) =
      (results.filter (·.2.matched)).map fun entry => ofMatched entry.1 entry.2 := by
  rw [contributions_eq, List.filter_append, List.filter_map, List.filter_map]
  simp [Function.comp_def, ofMatched, ofViolation]

theorem filter_violation (results : List (String × Compound.Result))
    (violations : List Violation) :
    (contributions results violations).filter (·.kind = .violation) =
      violations.map ofViolation := by
  rw [contributions_eq, List.filter_append, List.filter_map, List.filter_map]
  simp [Function.comp_def, ofMatched, ofViolation]

/-- A compound tag contributes once if it is present, and not at all if it is not. -/
theorem filter_compoundTag_name (results : Table String Compound.Result)
    (violations : List Violation) (name : String) :
    ((contributions results.entries violations).filter (·.kind = .compoundTag)).filter
        (·.name = name) =
      ((results.get? name).filter (·.matched)).toList.map (ofMatched name) := by
  have hkey : results.entries.filter
        ((·.name = name : Contribution → Bool) ∘ fun entry => ofMatched entry.1 entry.2) =
      (results.get? name).toList.map (name, ·) := results.filter_key name
  rw [filter_compoundTag, List.filter_map, List.filter_comm, hkey]
  cases results.get? name with
  | none => rfl
  | some result => cases h : result.matched <;> simp [Option.filter, h]

theorem countP_compoundTag (results : List (String × Compound.Result))
    (violations : List Violation) :
    (contributions results violations).countP (·.kind = .compoundTag) =
      results.countP (·.2.matched) := by
  rw [List.countP_eq_length_filter, filter_compoundTag, List.length_map,
    List.countP_eq_length_filter]

theorem length_contributions (results : List (String × Compound.Result))
    (violations : List Violation) :
    (contributions results violations).length =
      results.countP (·.2.matched) + violations.length := by
  rw [contributions_eq, List.length_append, List.length_map, List.length_map,
    List.countP_eq_length_filter]

theorem contributions_perm {results results' : List (String × Compound.Result)}
    {violations violations' : List Violation} (hresults : results.Perm results')
    (hviolations : violations.Perm violations') :
    (contributions results violations).Perm (contributions results' violations') :=
  (hresults.filterMap ofCompound?).append (hviolations.map ofViolation)

theorem contributions_violation_perm (results : List (String × Compound.Result)) {v : Violation}
    {violations violations' : List Violation} (h : violations'.Perm (v :: violations)) :
    (contributions results violations').Perm
      (ofViolation v :: contributions results violations) :=
  (contributions_perm (.refl results) h).trans List.perm_middle

/-- A compound tag that comes to be present adds its contribution to the others. -/
theorem contributions_put_perm {results : Table String Compound.Result} {name : String}
    {result result' : Compound.Result} (h : results.get? name = some result)
    (hbefore : result.matched = false) (hafter : result'.matched = true)
    (violations : List Violation) :
    (contributions (results.put name result').entries violations).Perm
      (ofMatched name result' :: contributions results.entries violations) := by
  obtain ⟨l, m, hentries, hput⟩ := Table.entries_put_of_get? h result'
  have hnone : ofCompound? (name, result) = none := ofCompound?_of_not_matched hbefore
  have hsome : ofCompound? (name, result') = some (ofMatched name result') :=
    ofCompound?_of_matched hafter
  rw [contributions, contributions, hentries, hput, List.filterMap_append, List.filterMap_append,
    List.filterMap_cons_none hnone, List.filterMap_cons_some hsome]
  exact List.perm_middle.append_right _

/-! ### Points -/

theorem compoundPoints_pos (severity : Severity) : 0 < compoundPoints severity := by
  cases severity <;> decide

theorem violationPoints_pos (severity : Severity) : 0 < violationPoints severity := by
  cases severity <;> decide

theorem points_pos {results : List (String × Compound.Result)} {violations : List Violation}
    {c : Contribution} (h : c ∈ contributions results violations) : 0 < c.points := by
  rw [contributions_eq] at h
  rcases List.mem_append.1 h with h | h
  · obtain ⟨entry, -, rfl⟩ := List.mem_map.1 h
    exact compoundPoints_pos entry.2.severity
  · obtain ⟨v, -, rfl⟩ := List.mem_map.1 h
    exact violationPoints_pos v.severity

theorem score_eq_sumOf (parts : List Contribution) :
    score parts = sumOf Contribution.points parts := by
  induction parts with
  | nil => rfl
  | cons c parts ih => rw [sumOf, ← ih, score, score, List.foldr_cons]

theorem score_perm {parts parts' : List Contribution} (h : parts.Perm parts') :
    score parts = score parts' := by
  rw [score_eq_sumOf, score_eq_sumOf, sumOf_perm _ h]

theorem score_eq_zero_iff {parts : List Contribution} (h : ∀ c ∈ parts, 0 < c.points) :
    score parts = 0 ↔ parts = [] := by
  constructor
  · intro hzero
    cases parts with
    | nil => rfl
    | cons c parts =>
      have hpos := h c List.mem_cons_self
      rw [score_eq_sumOf, sumOf] at hzero
      omega
  · rintro rfl
    rfl

/-- One risk is above another: its score is larger, and its level is not below. -/
def Assessment.Exceeds (risk risk' : Assessment) : Prop :=
  risk'.score < risk.score ∧ risk'.level ≤ risk.level

theorem assess_exceeds {results results' : List (String × Compound.Result)}
    {violations violations' : List Violation} {c : Contribution} (hpos : 0 < c.points)
    (h : (contributions results' violations').Perm (c :: contributions results violations)) :
    (assess results' violations').Exceeds (assess results violations) := by
  have hscore : score (contributions results' violations') =
      c.points + score (contributions results violations) := by
    rw [score_perm h, score, List.foldr_cons, score]
  refine ⟨?_, Level.ofScore_le ?_⟩
  · change score _ < score _
    omega
  · omega

/-! ### The summary -/

theorem sumOf_countP_severity (parts : List Contribution) :
    sumOf (fun severity => parts.countP (·.severity = severity)) Severity.all = parts.length := by
  induction parts with
  | nil => rfl
  | cons c parts ih =>
    simp only [List.countP_cons, List.length_cons, ← ih]
    cases c.severity <;> simp [Severity.all, sumOf] <;> omega

theorem sumOf_severityCounts (parts : List Contribution) :
    sumOf Prod.snd (severityCounts parts) = parts.length := by
  rw [severityCounts, sumOf_filter_ne_zero, sumOf_map, sumOf_countP_severity]

theorem mem_severityCounts_iff (parts : List Contribution) (severity : Severity) (count : Nat) :
    (severity, count) ∈ severityCounts parts ↔
      count = parts.countP (·.severity = severity) ∧ count ≠ 0 := by
  rw [severityCounts, List.mem_filter, decide_eq_true_iff]
  refine and_congr_left fun _ => ?_
  constructor
  · intro h
    obtain ⟨severity', -, heq⟩ := List.mem_map.1 h
    obtain ⟨rfl, rfl⟩ := Prod.mk.injEq .. ▸ heq
    rfl
  · rintro rfl
    exact List.mem_map.2 ⟨severity, severity.mem_all, rfl⟩

def sentence (level : Level) (score compounds violations : Nat) (counts : List (Severity × Nat)) :
    String :=
  "Risk " ++ level.name ++ " (score " ++ toString score ++ ") from " ++ toString compounds
    ++ " compound tags and " ++ toString violations ++ " violations ("
    ++ ", ".intercalate (counts.map fun (severity, count) => toString count ++ " " ++ severity.word)
    ++ ")."

theorem summary_assess {results : List (String × Compound.Result)} {violations : List Violation}
    (h : contributions results violations ≠ []) :
    (assess results violations).summary =
      sentence (assess results violations).level (assess results violations).score
        (results.countP (·.2.matched)) violations.length
        (severityCounts (assess results violations).contributions) := by
  have hrest : (contributions results violations).length - results.countP (·.2.matched) =
      violations.length := by
    rw [length_contributions]
    omega
  change summarize (contributions results violations) = _
  unfold summarize
  dsimp only
  rw [if_neg (by simpa using h), countP_compoundTag, hrest]
  rfl

/-! ### The laws of risk -/

/-- Risk adds up over its contributions, one for each compound tag that is present and one for each
violation. It depends on no order, and it grows with each contribution. -/
theorem assess_adds_and_grows (results : Table String Compound.Result)
    (violations : List Violation) :
    let risk := assess results.entries violations
    let compounds := results.entries.countP (·.2.matched)
    risk.score = sumOf Contribution.points risk.contributions ∧
    (∀ name, (risk.contributions.filter (·.kind = .compoundTag)).filter (·.name = name) =
      ((results.get? name).filter (·.matched)).toList.map (ofMatched name)) ∧
    risk.contributions.filter (·.kind = .violation) = violations.map ofViolation ∧
    (∀ (results' : Table String Compound.Result) violations',
      results'.entries.Perm results.entries → violations'.Perm violations →
        (assess results'.entries violations').score = risk.score ∧
        (assess results'.entries violations').level = risk.level) ∧
    (∀ v violations', violations'.Perm (v :: violations) →
      (assess results.entries violations').Exceeds risk) ∧
    (∀ name result result', results.get? name = some result →
      result.matched = false → result'.matched = true →
        (assess (results.put name result').entries violations).Exceeds risk) ∧
    (risk.score = 0 ↔ risk.contributions = []) ∧
    (∀ severity count, (severity, count) ∈ severityCounts risk.contributions ↔
      count = risk.contributions.countP (·.severity = severity) ∧ count ≠ 0) ∧
    sumOf Prod.snd (severityCounts risk.contributions) = compounds + violations.length ∧
    (risk.contributions ≠ [] → risk.summary =
      sentence risk.level risk.score compounds violations.length
        (severityCounts risk.contributions)) := by
  intro risk compounds
  refine ⟨score_eq_sumOf _, filter_compoundTag_name results violations,
    filter_violation results.entries violations, ?order, ?violation, ?compound,
    score_eq_zero_iff fun c hc => points_pos hc, mem_severityCounts_iff _,
    (sumOf_severityCounts _).trans (length_contributions _ _), fun h => summary_assess h⟩
  case order =>
    intro results' violations' hresults hviolations
    have hscore := score_perm (contributions_perm hresults hviolations)
    exact ⟨hscore, congrArg (fun score : Nat => Level.ofScore score) hscore⟩
  case violation =>
    intro v violations' h
    exact assess_exceeds (violationPoints_pos v.severity)
      (contributions_violation_perm results.entries h)
  case compound =>
    intro name result result' hget hbefore hafter
    exact assess_exceeds (compoundPoints_pos result'.severity)
      (contributions_put_perm hget hbefore hafter violations)

def oneOfTwo : Table String Compound.Result :=
  .ofList [("WRITE_IN_LOOP", ⟨"WRITE & LOOP", "", .high, true, none⟩),
    ("LOCKED_READ", ⟨"LOCK & READ", "", .low, false, none⟩)]

def writeInLoop : Violation := ⟨"R1", "", "loops", .high, "WRITE & LOOP", ["WRITE"], 50, "", ""⟩

theorem assess_of_oneOfTwo :
    oneOfTwo.get? "LOCKED_READ" = some ⟨"LOCK & READ", "", .low, false, none⟩ ∧
    (assess (oneOfTwo.put "LOCKED_READ" ⟨"LOCK & READ", "", .low, true, none⟩).entries
      []).Exceeds (assess oneOfTwo.entries []) ∧
    (assess oneOfTwo.entries [writeInLoop]).Exceeds (assess oneOfTwo.entries []) ∧
    (assess (Table.ofList oneOfTwo.entries.reverse).entries []).score = 5 ∧
    (assess oneOfTwo.entries []).summary = sentence .medium 5 1 0 [(.high, 1)] := by
  have hget : oneOfTwo.get? "LOCKED_READ" = some ⟨"LOCK & READ", "", .low, false, none⟩ := by
    decide
  obtain ⟨-, -, -, horder, hviolation, hcompound, -, -, -, hsummary⟩ :=
    assess_adds_and_grows oneOfTwo []
  exact ⟨hget, hcompound _ _ _ hget rfl rfl, hviolation writeInLoop _ (.refl _),
    (horder (.ofList oneOfTwo.entries.reverse) [] (by decide) (.refl _)).1, hsummary (by decide)⟩

end TagAudit.Risk
