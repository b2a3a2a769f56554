import Mathlib.Data.ENat.Basic
import Mathlib.Data.List.Induction
import Mathlib.Logic.Function.Iterate
import TagAudit.Proofs.Syntax.Path

/-!
# The traversal of a tree (`summarize_tree`)

A traversal gives every node one turn and then has none left. A node that waits carries the number
of levels and loops among its ancestors, because each turn hands them on to the children; so what is
noted on its turn is what its path says.
-/

namespace TagAudit.Syntax

/-! ### Turns -/

namespace Traversal

variable (source : List Char)

theorem step_of_nil {s : Traversal} (h : s.waiting = []) : s.step source = s := by
  unfold step
  rw [h]

theorem step_of_cons {s : Traversal} {v : Visit} {rest : List Visit} (h : s.waiting = v :: rest) :
    s.step source = ⟨v.below ++ rest, s.tally.note (v.sighting source)⟩ := by
  unfold step
  rw [h]

theorem size_eq_zero_iff (s : Traversal) : s.size = 0 ↔ s.waiting = [] := by
  unfold size
  cases s.waiting with
  | nil => simp [sizeAll]
  | cons v rest =>
    have hsize := v.tree.size_eq
    rw [List.map_cons, sizeAll]
    simp only [List.cons_ne_nil, iff_false]
    omega

theorem size_iterate (turns : Nat) (s : Traversal) :
    ((step source)^[turns] s).size = s.size - turns := by
  induction turns generalizing s with
  | zero => rfl
  | succ turns ih =>
    rw [Function.iterate_succ_apply, ih]
    by_cases hwaiting : s.waiting = []
    · have hzero := (size_eq_zero_iff s).2 hwaiting
      rw [step_of_nil source hwaiting]
      omega
    · have hstep := size_step source s hwaiting
      omega

theorem finish_step (s : Traversal) : (s.step source).finish source = s.finish source := by
  by_cases hwaiting : s.waiting = []
  · rw [step_of_nil source hwaiting]
  · rw [finish.eq_1 source s, if_neg hwaiting]

theorem finish_iterate (turns : Nat) (s : Traversal) :
    ((step source)^[turns] s).finish source = s.finish source := by
  induction turns generalizing s with
  | zero => rfl
  | succ turns ih => rw [Function.iterate_succ_apply, ih, finish_step]

theorem tally_of_finished {s : Traversal} (h : s.waiting = []) : s.tally = s.finish source := by
  rw [finish.eq_1, if_pos h]

end Traversal

/-! ### Visits by paths -/

namespace Visit

/-- The visit of the node at the end of a path that starts at the node of a visit. -/
def at? (v : Visit) (path : Path) : Option Visit :=
  path.foldlM (fun w place => w.below[place]?) v

/-- The visits of a node and of all nodes below it, in the order of their turns. -/
def all (v : Visit) : List Visit := v.tree.paths.filterMap v.at?

theorem at?_nil (v : Visit) : v.at? [] = some v := rfl

theorem at?_cons (v : Visit) (place : Nat) (path : Path) :
    v.at? (place :: path) = v.below[place]?.bind fun w => w.at? path := rfl

theorem getElem?_below (v : Visit) (place : Nat) :
    v.below[place]? = v.tree.children[place]?.map (v.child place) := by
  rw [below, List.getElem?_mapIdx]

theorem at?_concat (v : Visit) (path : Path) (place : Nat) :
    v.at? (path ++ [place]) = (v.at? path).bind fun w => w.below[place]? := by
  unfold at?
  rw [List.foldlM_append]
  simp

theorem map_tree_at? (v : Visit) (path : Path) : (v.at? path).map tree = v.tree.at? path := by
  induction path generalizing v with
  | nil => rfl
  | cons place path ih =>
    rw [at?_cons, Tree.at?_cons, getElem?_below]
    cases v.tree.children[place]? with
    | none => rfl
    | some child => exact ih (v.child place child)

theorem mem_all_iff (v w : Visit) : w ∈ v.all ↔ ∃ path, v.at? path = some w := by
  unfold all
  rw [List.mem_filterMap]
  constructor
  · intro h
    obtain ⟨path, -, hpath⟩ := h
    exact ⟨path, hpath⟩
  · intro h
    obtain ⟨path, hpath⟩ := h
    refine ⟨path, ?_, hpath⟩
    rw [Tree.mem_paths, ← map_tree_at?, hpath]
    rfl

theorem filterMap_pathsFrom (v : Visit) (first : Nat) (trees : List Tree)
    (h : ∀ place child, trees[place]? = some child → v.tree.children[first + place]? = some child) :
    (pathsFrom first trees).filterMap v.at? =
      (trees.mapIdx fun place child => v.child (first + place) child).flatMap all := by
  induction trees generalizing first with
  | nil => rfl
  | cons tree trees ih =>
    have hat : ∀ path, v.at? (first :: path) = (v.child first tree).at? path := by
      intro path
      have hchild := h 0 tree rfl
      rw [Nat.add_zero] at hchild
      rw [at?_cons, getElem?_below, hchild]
      rfl
    have hfirst : (tree.paths.map (first :: ·)).filterMap v.at? = (v.child first tree).all := by
      rw [List.filterMap_map]
      exact List.filterMap_congr fun path _ => hat path
    have hrest := ih (first + 1) fun place child hplace => by
      have hnext := h (place + 1) child hplace
      rwa [show first + 1 + place = first + (place + 1) by omega]
    rw [pathsFrom, List.filterMap_append, hfirst, hrest, List.mapIdx_cons, List.flatMap_cons]
    simp only [Nat.add_zero, Nat.add_assoc, Nat.add_comm 1]

theorem all_eq (v : Visit) : v.all = v :: v.below.flatMap all := by
  have hbelow := filterMap_pathsFrom v 0 v.tree.children fun place child hplace => by
    rwa [Nat.zero_add]
  simp only [Nat.zero_add] at hbelow
  unfold all
  rw [v.tree.paths_eq, List.filterMap_cons_some (at?_nil v), hbelow]
  rfl

end Visit

/-- A traversal notes each node that waits, and after it all nodes below. -/
theorem Traversal.finish_eq (source : List Char) (s : Traversal) :
    s.finish source =
      ((s.waiting.flatMap Visit.all).map (Visit.sighting source)).foldl Tally.note s.tally := by
  induction hsize : s.size using Nat.strongRecOn generalizing s with
  | ind n ih =>
    cases hwaiting : s.waiting with
    | nil =>
      rw [← tally_of_finished source hwaiting]
      rfl
    | cons v rest =>
      have hne : s.waiting ≠ [] := by simp [hwaiting]
      have hstep := size_step source s hne
      rw [← finish_step, ih (s.step source).size (by omega) (s.step source) rfl,
        step_of_cons source hwaiting, List.flatMap_cons, v.all_eq, List.flatMap_append]
      rfl

/-! ### What has been noted -/

namespace Tally

theorem foldl_note_counts (sightings : List Sighting) (tally : Tally) :
    (sightings.foldl note tally).methods =
        tally.methods + sightings.countP (·.kind = .method) ∧
      (sightings.foldl note tally).decisions = tally.decisions + sightings.countP (·.isDecision) ∧
      (sightings.foldl note tally).hasLoop = (tally.hasLoop || sightings.any (·.kind == .loop)) ∧
      (sightings.foldl note tally).hasNestedLoop =
        (tally.hasNestedLoop || sightings.any fun s => s.kind == .loop && s.loops > 0) := by
  induction sightings generalizing tally with
  | nil => simp
  | cons s sightings ih =>
    obtain ⟨hmethods, hdecisions, hloop, hnested⟩ := ih (tally.note s)
    rw [List.foldl_cons, hmethods, hdecisions, hloop, hnested, List.countP_cons, List.countP_cons,
      List.any_cons, List.any_cons]
    refine ⟨?_, ?_, ?_, ?_⟩
    · simp only [note, decide_eq_true_eq]
      omega
    · simp only [note]
      omega
    · simp only [note, Bool.or_assoc]
    · simp only [note, Bool.or_assoc]

theorem deepest_foldl_note_le (sightings : List Sighting) (tally : Tally) (levels : Nat) :
    (sightings.foldl note tally).deepest ≤ levels ↔
      tally.deepest ≤ levels ∧ ∀ s ∈ sightings, s.opens = true → s.depth + 1 ≤ levels := by
  induction sightings generalizing tally with
  | nil => simp
  | cons s sightings ih =>
    rw [List.foldl_cons, ih, List.forall_mem_cons]
    cases hopens : s.opens with
    | false => simp [note, hopens]
    | true =>
      simp only [note, hopens, if_true, Nat.max_le, forall_const]
      exact and_assoc

end Tally

/-! ### What a visit carries -/

/-- A visit of the node of a path that carries what the ancestors of the node say. -/
structure Visit.IsOf (v : Visit) (t : Tree) (path : Path) : Prop where
  tree : t.at? path = some v.tree
  elseIf : v.tree.kind = .ifStatement ∧ v.isAlternative = true ↔ t.ElseIf path
  depth : (v.depth : ℕ∞) = (above t.OpensLevel path).encard
  loops : (v.loops : ℕ∞) = (above t.LoopAt path).encard

namespace Visit.IsOf

variable {v : Visit} {t : Tree} {path : Path}

theorem isAt_iff (h : v.IsOf t path) (P : Tree → Prop) : t.IsAt path P ↔ P v.tree := by
  unfold Tree.IsAt
  rw [h.tree]
  simp

theorem opens_iff (h : v.IsOf t path) : v.opens = true ↔ t.OpensLevel path := by
  have hflag : (v.tree.kind == .ifStatement && v.isAlternative) = true ↔
      v.tree.kind = .ifStatement ∧ v.isAlternative = true := by simp
  unfold Tree.OpensLevel
  rw [h.isAt_iff, ← h.elseIf, ← hflag, opens, Bool.and_eq_true, Bool.not_eq_true', Bool.not_eq_true]

theorem loopAt_iff (h : v.IsOf t path) : t.LoopAt path ↔ v.tree.kind = .loop :=
  h.isAt_iff _

theorem root (t : Tree) : Visit.IsOf { tree := t } t [] where
  tree := rfl
  elseIf := by
    constructor
    · intro h
      exact absurd h.2 (by simp)
    · intro h
      obtain ⟨-, up, place, hnil, -⟩ := h
      exact absurd hnil (by simp)
  depth := by simp [above_nil]
  loops := by simp [above_nil]

/-- The levels along a path are those above its node and the one that the node may open. -/
theorem encard_along (h : v.IsOf t path) :
    (along t.OpensLevel path).encard = ((if v.opens then v.depth + 1 else v.depth : Nat) : ℕ∞) := by
  by_cases hopens : v.opens = true
  · rw [encard_along_of _ (h.opens_iff.1 hopens), ← h.depth, if_pos hopens, Nat.cast_add_one]
  · have hnot : ¬ t.OpensLevel path := fun hlevel => hopens (h.opens_iff.2 hlevel)
    rw [along_of_not _ hnot, ← h.depth, if_neg hopens]

theorem encard_along_loops (h : v.IsOf t path) :
    (along t.LoopAt path).encard =
      ((if v.tree.kind = .loop then v.loops + 1 else v.loops : Nat) : ℕ∞) := by
  by_cases hloop : v.tree.kind = .loop
  · rw [encard_along_of _ (h.loopAt_iff.2 hloop), ← h.loops, if_pos hloop, Nat.cast_add_one]
  · have hnot : ¬ t.LoopAt path := fun hat => hloop (h.loopAt_iff.1 hat)
    rw [along_of_not _ hnot, ← h.loops, if_neg hloop]

theorem at?_child (h : v.IsOf t path) {place : Nat} {node : Tree}
    (hnode : v.tree.children[place]? = some node) : t.at? (path ++ [place]) = some node := by
  rw [Tree.at?_concat, h.tree]
  exact hnode

/-- A turn hands on to each child what the child's ancestors say. -/
theorem child (h : v.IsOf t path) {place : Nat} {node : Tree}
    (hnode : v.tree.children[place]? = some node) :
    (v.child place node).IsOf t (path ++ [place]) where
  tree := h.at?_child hnode
  elseIf := by
    have hat := h.at?_child hnode
    have hif : t.IsAt (path ++ [place]) (·.kind = .ifStatement) ↔ node.kind = .ifStatement := by
      simp [Tree.IsAt, hat]
    have hup := h.isAt_iff fun n => n.kind = .ifStatement ∧ n.placeIn? .alternative = some place
    unfold Tree.ElseIf
    rw [hif]
    refine and_congr_right fun _ => ?_
    constructor
    · intro hflag
      refine ⟨path, place, rfl, hup.2 ?_⟩
      simpa [Visit.child] using hflag
    · intro hflag
      obtain ⟨up, place', heq, hup'⟩ := hflag
      obtain ⟨rfl, hplace⟩ := List.append_inj' heq rfl
      obtain rfl := List.singleton_inj.1 hplace
      simpa [Visit.child] using hup.1 hup'
  depth := by
    rw [above_concat, h.encard_along]
    rfl
  loops := by
    rw [above_concat, h.encard_along_loops]
    rfl

end Visit.IsOf

theorem Visit.isOf_of_at? {t : Tree} {path : Path} {v : Visit}
    (h : ({ tree := t } : Visit).at? path = some v) : v.IsOf t path := by
  -- From the top down: the last place of a path is the last turn that hands something on.
  induction path using List.reverseRecOn generalizing v with
  | nil =>
    obtain rfl := Option.some.inj h
    exact .root t
  | append_singleton path place ih =>
    rw [Visit.at?_concat, Option.bind_eq_some_iff] at h
    obtain ⟨up, hup, hbelow⟩ := h
    rw [Visit.getElem?_below, Option.map_eq_some_iff] at hbelow
    obtain ⟨node, hnode, rfl⟩ := hbelow
    exact (ih hup).child hnode

theorem Visit.exists_isOf {t : Tree} {path : Path} (h : (t.at? path).isSome = true) :
    ∃ v ∈ ({ tree := t } : Visit).all, v.IsOf t path := by
  have hat := map_tree_at? ({ tree := t } : Visit) path
  rw [← hat, Option.isSome_map, Option.isSome_iff_exists] at h
  obtain ⟨v, hv⟩ := h
  exact ⟨v, (mem_all_iff _ v).2 ⟨path, hv⟩, isOf_of_at? hv⟩

theorem Visit.exists_mem_all_iff {t : Tree} {R : Path → Prop} (Q : Visit → Prop)
    (hR : ∀ path, R path → (t.at? path).isSome = true)
    (h : ∀ path v, v.IsOf t path → (Q v ↔ R path)) :
    (∃ v ∈ ({ tree := t } : Visit).all, Q v) ↔ ∃ path, R path := by
  constructor
  · intro hv
    obtain ⟨v, hv, hQ⟩ := hv
    obtain ⟨path, hpath⟩ := (mem_all_iff _ v).1 hv
    exact ⟨path, (h path v (isOf_of_at? hpath)).1 hQ⟩
  · intro hpath
    obtain ⟨path, hpath⟩ := hpath
    obtain ⟨v, hv, hof⟩ := exists_isOf (hR path hpath)
    exact ⟨v, hv, (h path v hof).2 hpath⟩

/-- Nodes are counted by their visits. -/
theorem Visit.countP_all (t : Tree) (P : Tree → Prop) [DecidablePred P] :
    (({ tree := t } : Visit).all.countP fun v => P v.tree : Nat) = {path | t.IsAt path P}.encard := by
  rw [t.encard_isAt P]
  unfold all
  rw [List.countP_filterMap]
  congr 1
  refine List.countP_congr fun path _ => ?_
  have hat := map_tree_at? ({ tree := t } : Visit) path
  rw [← hat]
  cases ({ tree := t } : Visit).at? path with
  | none => rfl
  | some v => rfl

end TagAudit.Syntax
