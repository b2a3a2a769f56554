import Mathlib.Data.List.Perm.Basic
import TagAudit.Proofs.Syntax.Traversal

/-!
# The order of children

The children of a node may stand in any order, as long as each field still holds the child that it
held. A traversal then meets the same sightings, only in another order, and a tally does not tell
orders apart.
-/

namespace TagAudit.Syntax

/-- Trees that differ in the order of children only, anywhere below the root. A field is looked up as
the first child in its role, so a new order keeps the first child in each role. -/
inductive Rearranged : Tree → Tree → Prop where
  | children {kind : NodeKind} {role : Role} {start stop : Nat} {before after : List Tree}
      (order : before.Perm after)
      (fields : ∀ field, field ≠ Role.plain →
        (Tree.node kind role start stop before).childIn? field =
          (Tree.node kind role start stop after).childIn? field) :
      Rearranged (.node kind role start stop before) (.node kind role start stop after)
  | inside {kind : NodeKind} {role : Role} {start stop : Nat} {left right : List Tree}
      {child child' : Tree} (h : Rearranged child child') :
      Rearranged (.node kind role start stop (left ++ child :: right))
        (.node kind role start stop (left ++ child' :: right))
  | trans {t t' t'' : Tree} (h : Rearranged t t') (h' : Rearranged t' t'') : Rearranged t t''

/-! ### Marked places -/

section Marked

variable {α β : Type} (p : α → Bool) (f : Bool → α → β)

theorem mapIdx_of_ne (l : List α) (place : Nat → Nat) (marked : Option Nat)
    (h : ∀ i, i < l.length → marked ≠ some (place i)) :
    (l.mapIdx fun i a => f (marked == some (place i)) a) = l.map (f false) := by
  apply List.ext_getElem?
  intro i
  rw [List.getElem?_mapIdx, List.getElem?_map]
  by_cases hi : i < l.length
  · have hne : (marked == some (place i)) = false := beq_eq_false_iff_ne.2 (h i hi)
    rw [hne]
  · rw [List.getElem?_eq_none (Nat.not_lt.1 hi)]
    rfl

theorem mapIdx_marked_none {l : List α} (h : l.find? p = none) :
    (l.mapIdx fun i a => f (l.findIdx? p == some i) a) = l.map (f false) := by
  have hnone : l.findIdx? p = none := by
    rw [List.findIdx?_eq_none_iff]
    intro a ha
    simpa using List.find?_eq_none.1 h a ha
  exact mapIdx_of_ne f l id (l.findIdx? p) fun i _ => by simp [hnone]

theorem mapIdx_marked_some {left right : List α} {a : α} (ha : p a = true)
    (hleft : ∀ b ∈ left, p b = false) :
    ((left ++ a :: right).mapIdx fun i b => f ((left ++ a :: right).findIdx? p == some i) b) =
      left.map (f false) ++ f true a :: right.map (f false) := by
  have hnone : left.findIdx? p = none := List.findIdx?_eq_none_iff.2 hleft
  have hplace : (left ++ a :: right).findIdx? p = some left.length := by
    rw [List.findIdx?_append, hnone, Option.none_or, List.findIdx?_cons, if_pos ha]
    simp
  have hbefore : (left.mapIdx fun i b => f (some left.length == some i) b) = left.map (f false) :=
    mapIdx_of_ne f left id (some left.length) fun i hi heq => by
      have := Option.some.inj heq
      dsimp only [id] at this
      omega
  have hbehind := mapIdx_of_ne f right (fun i => i + 1 + left.length) (some left.length)
    fun i _ heq => by
      have := Option.some.inj heq
      omega
  rw [hplace, List.mapIdx_append, List.mapIdx_cons, hbefore, hbehind]
  simp

/-- Marking the first element with a property does the same to any order that keeps it. -/
theorem mapIdx_marked_perm {l l' : List α} (h : l.Perm l') (hfirst : l.find? p = l'.find? p) :
    (l.mapIdx fun i a => f (l.findIdx? p == some i) a).Perm
      (l'.mapIdx fun i a => f (l'.findIdx? p == some i) a) := by
  cases hfound : l.find? p with
  | none =>
    rw [mapIdx_marked_none p f hfound, mapIdx_marked_none p f (hfirst.symm.trans hfound)]
    exact h.map _
  | some a =>
    obtain ⟨ha, left, right, rfl, hleft⟩ := List.find?_eq_some_iff_append.1 hfound
    obtain ⟨-, left', right', rfl, hleft'⟩ :=
      List.find?_eq_some_iff_append.1 (hfirst.symm.trans hfound)
    have hrest : (left ++ right).Perm (left' ++ right') :=
      (List.perm_middle.symm.trans (h.trans List.perm_middle)).cons_inv
    rw [mapIdx_marked_some p f ha (by simpa using hleft),
      mapIdx_marked_some p f ha (by simpa using hleft')]
    refine List.perm_middle.trans (.trans ?_ List.perm_middle.symm)
    rw [← List.map_append, ← List.map_append]
    exact (hrest.map _).cons _

end Marked

/-! ### Sightings in another order -/

/-- What a traversal notes from a visit on, in the order of the turns. -/
def Visit.sightings (source : List Char) (v : Visit) : List Sighting :=
  v.all.map (Visit.sighting source)

theorem Visit.sightings_eq (source : List Char) (v : Visit) :
    v.sightings source = v.sighting source :: v.below.flatMap (sightings source) := by
  unfold sightings
  rw [all_eq, List.map_cons, List.map_flatMap]

namespace Rearranged

theorem kind_eq {t t' : Tree} (h : Rearranged t t') : t.kind = t'.kind := by
  induction h with
  | children | inside => rfl
  | trans _ _ ih ih' => exact ih.trans ih'

theorem role_eq {t t' : Tree} (h : Rearranged t t') : t.role = t'.role := by
  induction h with
  | children | inside => rfl
  | trans _ _ ih ih' => exact ih.trans ih'

/-- A child that is rearranged keeps its place in the eyes of its parent. -/
theorem map_fields_eq {child child' : Tree} (h : Rearranged child child') (left right : List Tree) :
    (left ++ child :: right).map (fun c => (c.role, c.kind)) =
      (left ++ child' :: right).map (fun c => (c.role, c.kind)) := by
  rw [List.map_append, List.map_append, List.map_cons, List.map_cons, h.kind_eq, h.role_eq]

end Rearranged

section Fields

variable {t t' : Tree}

theorem placeIn?_congr (field : Role)
    (h : t.children.map (fun c => (c.role, c.kind)) = t'.children.map (fun c => (c.role, c.kind))) :
    t.placeIn? field = t'.placeIn? field := by
  have hmap : ∀ trees : List Tree, trees.findIdx? (·.role == field) =
      (trees.map fun c => (c.role, c.kind)).findIdx? (·.1 == field) := by
    intro trees
    rw [List.findIdx?_map]
    rfl
  unfold Tree.placeIn?
  rw [hmap, hmap, h]

theorem kind_childIn?_congr (field : Role)
    (h : t.children.map (fun c => (c.role, c.kind)) = t'.children.map (fun c => (c.role, c.kind))) :
    (t.childIn? field).map Tree.kind = (t'.childIn? field).map Tree.kind := by
  have hmap : ∀ trees : List Tree, (trees.find? (·.role == field)).map Tree.kind =
      ((trees.map fun c => (c.role, c.kind)).find? (·.1 == field)).map Prod.snd := by
    intro trees
    rw [List.find?_map, Option.map_map]
    rfl
  unfold Tree.childIn?
  rw [hmap, hmap, h]

theorem isDecision_congr (source : List Char) (hkind : t.kind = t'.kind) (hstart : t.start = t'.start)
    (hstop : t.stop = t'.stop)
    (hop : (t.childIn? .operator).map Tree.kind = (t'.childIn? .operator).map Tree.kind) :
    t.isDecision source = t'.isDecision source := by
  have hshort : ∀ node : Tree,
      (∃ op, node.childIn? .operator = some op ∧ op.kind = .shortCircuit) ↔
        (node.childIn? .operator).map Tree.kind = some .shortCircuit := by
    intro node
    rw [Option.map_eq_some_iff]
  rw [Bool.eq_iff_iff, Tree.isDecision_iff, Tree.isDecision_iff]
  unfold Tree.Decides Tree.text
  rw [hshort, hshort, hkind, hstart, hstop, hop]

end Fields

section Nodes

variable (source : List Char) {kind : NodeKind} {role : Role} {start stop : Nat}
  {children children' : List Tree} (isAlternative : Bool) (depth loops : Nat)

theorem Visit.below_eq :
    (⟨.node kind role start stop children, isAlternative, depth, loops⟩ : Visit).below =
      children.mapIdx fun place child =>
        ⟨child, kind == .ifStatement &&
            (Tree.node kind role start stop children).placeIn? .alternative == some place,
          if kind.isNesting && !(kind == .ifStatement && isAlternative) then depth + 1 else depth,
          if kind = .loop then loops + 1 else loops⟩ := rfl

theorem Visit.sighting_congr
    (hop : ((Tree.node kind role start stop children).childIn? .operator).map Tree.kind =
      ((Tree.node kind role start stop children').childIn? .operator).map Tree.kind) :
    (⟨.node kind role start stop children, isAlternative, depth, loops⟩ : Visit).sighting source =
      (⟨.node kind role start stop children', isAlternative, depth, loops⟩ : Visit).sighting
        source := by
  have hdecision : (Tree.node kind role start stop children).isDecision source =
      (Tree.node kind role start stop children').isDecision source :=
    isDecision_congr source rfl rfl rfl hop
  unfold sighting
  rw [hdecision]
  rfl

end Nodes

theorem Visit.sightings_perm {source : List Char} {v v' : Visit}
    (hsighting : v.sighting source = v'.sighting source)
    (hbelow : (v.below.flatMap (sightings source)).Perm (v'.below.flatMap (sightings source))) :
    (v.sightings source).Perm (v'.sightings source) := by
  rw [sightings_eq, sightings_eq, hsighting]
  exact hbelow.cons _

/-- From trees that differ in the order of children a traversal notes the same, in another order. -/
theorem Rearranged.sightings_perm (source : List Char) {t t' : Tree} (h : Rearranged t t')
    (isAlternative : Bool) (depth loops : Nat) :
    ((⟨t, isAlternative, depth, loops⟩ : Visit).sightings source).Perm
      ((⟨t', isAlternative, depth, loops⟩ : Visit).sightings source) := by
  induction h generalizing isAlternative depth loops with
  | @children kind role start stop before after order fields =>
    have hop := congrArg (Option.map Tree.kind) (fields .operator (by decide))
    refine Visit.sightings_perm (Visit.sighting_congr source _ _ _ hop) ?_
    rw [Visit.below_eq, Visit.below_eq]
    refine List.Perm.flatMap_right _ ?_
    exact mapIdx_marked_perm _
      (fun marked child => (⟨child, kind == .ifStatement && marked, _, _⟩ : Visit))
      order (fields .alternative (by decide))
  | @inside kind role start stop left right child child' h ih =>
    have hfields := h.map_fields_eq left right
    have hplace : (Tree.node kind role start stop (left ++ child :: right)).placeIn? .alternative =
        (Tree.node kind role start stop (left ++ child' :: right)).placeIn? .alternative :=
      placeIn?_congr .alternative hfields
    refine Visit.sightings_perm
      (Visit.sighting_congr source _ _ _ (kind_childIn?_congr .operator hfields)) ?_
    -- Only the visit of the rearranged child differs.
    rw [Visit.below_eq, Visit.below_eq, hplace, List.mapIdx_append, List.mapIdx_append,
      List.mapIdx_cons, List.mapIdx_cons, List.flatMap_append, List.flatMap_append,
      List.flatMap_cons, List.flatMap_cons]
    exact ((ih _ _ _).append_right _).append_left _
  | trans _ _ ih ih' => exact (ih isAlternative depth loops).trans (ih' isAlternative depth loops)

/-! ### Tallies -/

/-- A tally does not tell in which order two nodes were noted. -/
theorem Tally.note_right_comm (tally : Tally) (s s' : Sighting) :
    (tally.note s).note s' = (tally.note s').note s := by
  unfold note
  simp only [Tally.mk.injEq]
  refine ⟨by omega, by omega, ?_, Bool.or_right_comm _ _ _, Bool.or_right_comm _ _ _⟩
  cases s.opens with
  | false => rfl
  | true =>
    cases s'.opens with
    | false => rfl
    | true => exact max_right_comm _ _ _

theorem Rearranged.finish_eq (source : List Char) {t t' : Tree} (h : Rearranged t t') :
    (Traversal.start t).finish source = (Traversal.start t').finish source := by
  have hcomm : RightCommutative Tally.note := ⟨Tally.note_right_comm⟩
  rw [Traversal.finish_eq, Traversal.finish_eq, Traversal.start, Traversal.start,
    List.flatMap_singleton, List.flatMap_singleton]
  exact (h.sightings_perm source false 0 0).foldl_eq _

end TagAudit.Syntax
