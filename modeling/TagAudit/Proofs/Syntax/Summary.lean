import Mathlib.Order.Bounds.Basic
import TagAudit.Proofs.Syntax.Order

/-!
# The summary of a tree (`summarize_tree`)

The measures that a traversal reports are those that the nodes and their ancestors say, they do not
depend on the order of children, and loops account for levels and decisions among them.
-/

namespace TagAudit.Syntax

/-! ### What the measures mean -/

theorem finish_start (source : List Char) (t : Tree) :
    (Traversal.start t).finish source =
      (({ tree := t } : Visit).all.map (Visit.sighting source)).foldl Tally.note {} := by
  rw [Traversal.finish_eq, Traversal.start, List.flatMap_singleton]

section Measures

variable (source : List Char) (lineCount : Nat) (t : Tree)

theorem methodCount_summary :
    ((t.summary source lineCount).methodCount : ℕ∞) =
      {path | t.IsAt path (·.kind = .method)}.encard := by
  have hcounts := (Tally.foldl_note_counts
    (({ tree := t } : Visit).all.map (Visit.sighting source)) {}).1
  rw [← Visit.countP_all t (·.kind = .method), Tree.summary, Tally.summary, finish_start]
  dsimp only
  rw [hcounts, List.countP_map, Nat.zero_add]
  rfl

theorem cyclomaticComplexity_summary :
    ((t.summary source lineCount).cyclomaticComplexity : ℕ∞) =
      1 + {path | t.IsAt path (·.Decides source)}.encard := by
  have hcounts := (Tally.foldl_note_counts
    (({ tree := t } : Visit).all.map (Visit.sighting source)) {}).2.1
  have hset : {path | t.IsAt path (·.Decides source)} =
      {path | t.IsAt path (·.isDecision source = true)} := by
    simp only [Tree.isDecision_iff]
  rw [hset, ← Visit.countP_all t (·.isDecision source = true), Tree.summary, Tally.summary,
    finish_start]
  dsimp only
  rw [hcounts, List.countP_map, Nat.zero_add, Nat.cast_add, Nat.cast_one]
  simp only [Function.comp_def, Visit.sighting, Bool.decide_eq_true]

/-- No path goes through more levels than the deepest one that was noted. -/
theorem encard_along_le {levels : Nat}
    (h : ∀ v ∈ ({ tree := t } : Visit).all, v.opens = true → v.depth + 1 ≤ levels) (path : Path)
    (hpath : (t.at? path).isSome = true) : (along t.OpensLevel path).encard ≤ levels := by
  have hopens : ∀ path, (t.at? path).isSome = true → t.OpensLevel path →
      (along t.OpensLevel path).encard ≤ levels := by
    intro path hpath hlevel
    obtain ⟨v, hv, hof⟩ := Visit.exists_isOf hpath
    have hv' := hof.opens_iff.2 hlevel
    rw [hof.encard_along, if_pos hv']
    exact Nat.cast_le.2 (h v hv hv')
  induction path using List.reverseRecOn with
  | nil =>
    by_cases hlevel : t.OpensLevel []
    · exact hopens [] hpath hlevel
    · rw [along_of_not _ hlevel, above_nil, Set.encard_empty]
      exact zero_le
  | append_singleton path place ih =>
    by_cases hlevel : t.OpensLevel (path ++ [place])
    · exact hopens _ hpath hlevel
    · -- A node that opens no level goes through the levels of its parent.
      rw [along_of_not _ hlevel, above_concat]
      apply ih
      rw [Tree.at?_concat] at hpath
      exact Option.isSome_of_isSome_bind hpath

theorem maxNestingDepth_summary :
    IsGreatest
      {levels | ∃ path, (t.at? path).isSome = true ∧ levels = (along t.OpensLevel path).encard}
      ((t.summary source lineCount).maxNestingDepth : ℕ∞) := by
  have hle := Tally.deepest_foldl_note_le
    (({ tree := t } : Visit).all.map (Visit.sighting source)) {}
  simp only [List.forall_mem_map, Nat.zero_le, true_and, ← finish_start source t] at hle
  set deepest := ((Traversal.start t).finish source).deepest with hdeepest
  have hbound := encard_along_le t ((hle deepest).1 (Nat.le_refl deepest))
  have hsummary : (t.summary source lineCount).maxNestingDepth = deepest := rfl
  rw [hsummary]
  constructor
  · by_cases hzero : deepest = 0
    · refine ⟨[], rfl, ?_⟩
      have hroot := hbound [] rfl
      rw [hzero] at hroot ⊢
      exact (nonpos_iff_eq_zero.1 hroot).symm
    · -- Otherwise some node opens the deepest level, for a lower bound does not hold.
      have hlower : ¬ deepest ≤ deepest - 1 := by omega
      rw [hle (deepest - 1)] at hlower
      push Not at hlower
      obtain ⟨v, hv, hopens, hdepth⟩ := hlower
      have hupper := (hle deepest).1 (Nat.le_refl deepest) v hv hopens
      obtain ⟨path, hpath⟩ := (Visit.mem_all_iff _ v).1 hv
      have hof := Visit.isOf_of_at? hpath
      refine ⟨path, ?_, ?_⟩
      · rw [hof.tree]
        rfl
      · have heq : deepest = v.depth + 1 := by
          change v.depth + 1 ≤ deepest at hupper
          change deepest - 1 < v.depth + 1 at hdepth
          omega
        change v.opens = true at hopens
        rw [hof.encard_along, if_pos hopens, heq]
  · intro levels hlevels
    obtain ⟨path, hpath, rfl⟩ := hlevels
    exact hbound path hpath

theorem hasLoop_summary :
    (t.summary source lineCount).hasLoop = true ↔ ∃ path, t.LoopAt path := by
  have hcounts := (Tally.foldl_note_counts
    (({ tree := t } : Visit).all.map (Visit.sighting source)) {}).2.2.1
  have hsummary : (t.summary source lineCount).hasLoop =
      ((Traversal.start t).finish source).hasLoop := rfl
  have hvisits := Visit.exists_mem_all_iff (t := t) (fun v => v.tree.kind = .loop)
    (fun path (h : t.LoopAt path) => h.isSome) fun path v hof => hof.loopAt_iff.symm
  rw [hsummary, finish_start, hcounts, Bool.false_or, List.any_map, List.any_eq_true, ← hvisits]
  simp [Visit.sighting]

theorem hasNestedLoop_summary :
    (t.summary source lineCount).hasNestedLoop = true ↔
      ∃ outer inner, outer <+: inner ∧ outer ≠ inner ∧ t.LoopAt outer ∧ t.LoopAt inner := by
  have hcounts := (Tally.foldl_note_counts
    (({ tree := t } : Visit).all.map (Visit.sighting source)) {}).2.2.2
  have hsummary : (t.summary source lineCount).hasNestedLoop =
      ((Traversal.start t).finish source).hasNestedLoop := rfl
  have hvisits := Visit.exists_mem_all_iff (t := t) (fun v => v.tree.kind = .loop ∧ 0 < v.loops)
    (R := fun path => t.LoopAt path ∧ (above t.LoopAt path).Nonempty)
    (fun path h => h.1.isSome) fun path v hof => by
      rw [hof.loopAt_iff, ← Set.encard_ne_zero, ← hof.loops, Nat.cast_ne_zero, Nat.pos_iff_ne_zero]
  have hpaths : (∃ path, t.LoopAt path ∧ (above t.LoopAt path).Nonempty) ↔
      ∃ outer inner, outer <+: inner ∧ outer ≠ inner ∧ t.LoopAt outer ∧ t.LoopAt inner := by
    constructor
    · intro h
      obtain ⟨inner, hinner, outer, hpre, hne, houter⟩ := h
      exact ⟨outer, inner, hpre, hne, houter, hinner⟩
    · intro h
      obtain ⟨outer, inner, hpre, hne, houter, hinner⟩ := h
      exact ⟨inner, hinner, outer, hpre, hne, houter⟩
  rw [hsummary, finish_start, hcounts, Bool.false_or, List.any_map, List.any_eq_true, ← hpaths,
    ← hvisits]
  simp only [Function.comp_def, Bool.and_eq_true, beq_iff_eq, decide_eq_true_eq, gt_iff_lt]
  exact Iff.rfl

theorem describes_summary : Describes source t (t.summary source lineCount) where
  methodCount := methodCount_summary source lineCount t
  cyclomaticComplexity := cyclomaticComplexity_summary source lineCount t
  maxNestingDepth := maxNestingDepth_summary source lineCount t
  hasLoop := hasLoop_summary source lineCount t
  hasNestedLoop := hasNestedLoop_summary source lineCount t

end Measures

/-! ### Loops among the measures -/

section Loops

variable {source : List Char} {t : Tree} {s : Summary} {path : Path}

theorem Tree.LoopAt.opensLevel (h : t.LoopAt path) : t.OpensLevel path := by
  obtain ⟨node, hnode, hkind⟩ := h
  refine ⟨⟨node, hnode, by simp [hkind, NodeKind.isNesting]⟩, ?_⟩
  intro helse
  obtain ⟨⟨node', hnode', hif⟩, -⟩ := helse
  rw [hnode] at hnode'
  obtain rfl := Option.some.inj hnode'
  rw [hkind] at hif
  exact absurd hif (by decide)

theorem Tree.LoopAt.decides (h : t.LoopAt path) : t.IsAt path (·.Decides source) := by
  obtain ⟨node, hnode, hkind⟩ := h
  exact ⟨node, hnode, .inl (by simp [hkind, NodeKind.isBranch])⟩

/-- Loops on one path are levels and decisions. -/
theorem Describes.encard_le (h : Describes source t s) {loops : Set Path}
    (hloops : loops ⊆ along t.LoopAt path) (hpath : (t.at? path).isSome = true) :
    loops.encard ≤ s.maxNestingDepth ∧ 1 + loops.encard ≤ s.cyclomaticComplexity := by
  have hlevels : loops ⊆ along t.OpensLevel path := by
    intro p hp
    exact ⟨(hloops hp).1, (hloops hp).2.opensLevel⟩
  have hdecisions : loops ⊆ {p | t.IsAt p (·.Decides source)} := by
    intro p hp
    exact (hloops hp).2.decides
  constructor
  · exact (Set.encard_le_encard hlevels).trans (h.maxNestingDepth.2 ⟨path, hpath, rfl⟩)
  · rw [h.cyclomaticComplexity]
    exact add_le_add_right (Set.encard_le_encard hdecisions) 1

theorem Describes.of_hasLoop (h : Describes source t s) (hloop : s.hasLoop = true) :
    1 ≤ s.maxNestingDepth ∧ 2 ≤ s.cyclomaticComplexity := by
  obtain ⟨path, hpath⟩ := h.hasLoop.1 hloop
  have hloops : ({path} : Set Path) ⊆ along t.LoopAt path := by
    rw [Set.singleton_subset_iff]
    exact ⟨List.prefix_rfl, hpath⟩
  have hle := h.encard_le hloops hpath.isSome
  rw [Set.encard_singleton] at hle
  have hlevels : 1 ≤ s.maxNestingDepth := by exact_mod_cast hle.1
  have hdecisions : 1 + 1 ≤ s.cyclomaticComplexity := by exact_mod_cast hle.2
  exact ⟨hlevels, hdecisions⟩

theorem Describes.of_hasNestedLoop (h : Describes source t s) (hnested : s.hasNestedLoop = true) :
    2 ≤ s.maxNestingDepth ∧ 3 ≤ s.cyclomaticComplexity := by
  obtain ⟨outer, inner, hpre, hne, houter, hinner⟩ := h.hasNestedLoop.1 hnested
  have hloops : ({outer, inner} : Set Path) ⊆ along t.LoopAt inner := by
    rw [Set.pair_subset_iff]
    exact ⟨⟨hpre, houter⟩, ⟨List.prefix_rfl, hinner⟩⟩
  have hle := h.encard_le hloops hinner.isSome
  rw [Set.encard_pair hne] at hle
  have hlevels : 2 ≤ s.maxNestingDepth := by exact_mod_cast hle.1
  have hdecisions : 1 + 2 ≤ s.cyclomaticComplexity := by exact_mod_cast hle.2
  exact ⟨hlevels, hdecisions⟩

end Loops

/-! ### Turns for nodes -/

theorem encard_nodes (t : Tree) : {path | (t.at? path).isSome = true}.encard = t.size := by
  have hset : {path | (t.at? path).isSome = true} = {path | t.IsAt path fun _ => True} := by
    simp [Tree.IsAt, Option.isSome_iff_exists]
  have hall : (t.paths.countP fun path => (t.at? path).any fun _ => decide True) = t.paths.length := by
    rw [List.countP_eq_length]
    intro path hpath
    have hsome := (t.mem_paths path).1 hpath
    simpa [Option.isSome_iff_exists] using hsome
  rw [hset, t.encard_isAt fun _ => True, hall, t.length_paths]

/-- The traversal of a tree ends: it has taken its last turn just when there was one for each node,
and then its tally is the summary. The summary is what the nodes and their ancestors say, in
whatever order children stand. A loop counts as a level and as a decision, and a loop in a loop as
two of each. -/
theorem summary_of_nodes_and_ancestors (source : List Char) (lineCount : Nat) (t : Tree) :
    (∀ turns : Nat,
      (((Traversal.step source)^[turns] (Traversal.start t)).waiting = [] ↔
        {path | (t.at? path).isSome = true}.encard ≤ turns) ∧
      (((Traversal.step source)^[turns] (Traversal.start t)).waiting = [] →
        ((Traversal.step source)^[turns] (Traversal.start t)).tally.summary lineCount =
          t.summary source lineCount)) ∧
    Describes source t (t.summary source lineCount) ∧
    (∀ t', Rearranged t t' → t'.summary source lineCount = t.summary source lineCount) ∧
    ((t.summary source lineCount).hasNestedLoop = true →
      2 ≤ (t.summary source lineCount).maxNestingDepth ∧
        3 ≤ (t.summary source lineCount).cyclomaticComplexity) ∧
    ((t.summary source lineCount).hasLoop = true →
      1 ≤ (t.summary source lineCount).maxNestingDepth ∧
        2 ≤ (t.summary source lineCount).cyclomaticComplexity) := by
  have hdescribes := describes_summary source lineCount t
  have hsize : (Traversal.start t).size = t.size := by
    simp [Traversal.size, Traversal.start, sizeAll]
  refine ⟨?_, hdescribes, ?_, hdescribes.of_hasNestedLoop, hdescribes.of_hasLoop⟩
  · intro turns
    constructor
    · rw [← Traversal.size_eq_zero_iff, Traversal.size_iterate, hsize, encard_nodes, Nat.cast_le]
      omega
    · intro hdone
      rw [Traversal.tally_of_finished source hdone, Traversal.finish_iterate]
      rfl
  · intro t' h
    unfold Tree.summary
    rw [h.finish_eq source]

end TagAudit.Syntax
