import TagAudit.Expression.Cache
import TagAudit.Proofs.Basic

/-!
# The memory of parsed conditions (`parse_expression`, `clear_cache`)

A run of calls through the memory gives the answers that the calls have without it. What the memory
holds is told by the calls since it was last cleared: of the distinct texts that were parsed, the ones
used last, as many as it has room for.
-/

namespace TagAudit.Expression

/-! ### Runs of calls -/

/-- A use of the memory: a question about a text, or a request to forget everything. -/
inductive Call where
  | ask (query : Query) (text : Option String)
  | clear
  deriving DecidableEq, Repr

def Call.direct : Call → Option (Except SyntaxFault Answer)
  | .ask query text => some (query.answer (parse (text.getD "")))
  | .clear => none

/-- The text that a call parses, if it is a condition. -/
def Call.parsed? : Call → Option String
  | .ask _ text =>
    match parse (text.getD "") with
    | .ok _ => some (text.getD "")
    | .error _ => none
  | .clear => none

namespace Cache

def serve (cache : Cache) : Call → Option (Except SyntaxFault Answer) × Cache
  | .ask query text => (some (cache.ask query text).1, (cache.ask query text).2)
  | .clear => (none, .empty)

def run (cache : Cache) : List Call → List (Option (Except SyntaxFault Answer)) × Cache
  | [] => ([], cache)
  | call :: rest =>
    let (answers, last) := (cache.serve call).2.run rest
    ((cache.serve call).1 :: answers, last)

end Cache

/-- The calls after the last one that cleared the memory, of calls that are given the latest first. -/
def sinceClear (past : List Call) : List Call := past.takeWhile (· ≠ .clear)

/-- The distinct texts that were parsed since the memory was cleared, the one used last first. The
calls are given the latest first. -/
def recentTexts (past : List Call) : List String := ((sinceClear past).filterMap Call.parsed?).eraseDups

theorem sinceClear_ask (query : Query) (text : Option String) (past : List Call) :
    sinceClear (.ask query text :: past) = .ask query text :: sinceClear past := by
  simp [sinceClear]

theorem sinceClear_clear (past : List Call) : sinceClear (.clear :: past) = [] := by
  simp [sinceClear]

theorem recentTexts_nodup (past : List Call) : (recentTexts past).Nodup := nodup_eraseDups _

theorem mem_recentTexts (past : List Call) (t : String) :
    t ∈ recentTexts past ↔ ∃ call ∈ sinceClear past, call.parsed? = some t := by
  rw [recentTexts, List.mem_eraseDups, List.mem_filterMap]

theorem recentTexts_of_ok {text : Option String} {e : Expression} (h : parse (text.getD "") = .ok e)
    (query : Query) (past : List Call) :
    recentTexts (.ask query text :: past) =
      text.getD "" :: (recentTexts past).filter (· ≠ text.getD "") := by
  have hparsed : (Call.ask query text).parsed? = some (text.getD "") := by simp [Call.parsed?, h]
  have hfilter : ∀ l : List String, l.filter (fun t => !t == text.getD "") =
      l.filter (· ≠ text.getD "") := by
    intro l
    refine List.filter_congr fun t _ => ?_
    by_cases ht : t = text.getD "" <;> simp [ht]
  unfold recentTexts
  rw [sinceClear_ask, List.filterMap_cons_some hparsed, List.eraseDups_cons, ← filter_eraseDups,
    hfilter]

theorem recentTexts_of_error {text : Option String} {fault : SyntaxFault}
    (h : parse (text.getD "") = .error fault) (query : Query) (past : List Call) :
    recentTexts (.ask query text :: past) = recentTexts past := by
  have hparsed : (Call.ask query text).parsed? = none := by simp [Call.parsed?, h]
  unfold recentTexts
  rw [sinceClear_ask, List.filterMap_cons_none hparsed]

/-! ### Room for the texts used last -/

section Room

variable {α : Type} [DecidableEq α]

theorem take_filter_of_notMem (a : α) (l : List α) (n : Nat) (h : a ∉ l.take n) :
    (l.filter (· ≠ a)).take n = l.take n := by
  induction l generalizing n with
  | nil => rfl
  | cons b l ih =>
    cases n with
    | zero => rfl
    | succ n =>
      rw [List.take_succ_cons, List.mem_cons, not_or] at h
      have hb : decide (b ≠ a) = true := decide_eq_true (Ne.symm h.1)
      rw [List.filter_cons, if_pos hb, List.take_succ_cons, List.take_succ_cons, ih n h.2]

theorem take_filter_of_mem (a : α) (l : List α) (n : Nat) (hl : l.Nodup) (h : a ∈ l.take (n + 1)) :
    (l.filter (· ≠ a)).take n = (l.take (n + 1)).filter (· ≠ a) := by
  induction l generalizing n with
  | nil => exact absurd h (by simp)
  | cons b l ih =>
    obtain ⟨hb, hnodup⟩ := List.nodup_cons.1 hl
    rw [List.take_succ_cons]
    by_cases hba : b = a
    · -- The element comes first, and none of the others is left out.
      subst hba
      have hself : ∀ m : List α, b ∉ m → m.filter (· ≠ b) = m := by
        intro m hm
        refine List.filter_eq_self.2 fun c hc => decide_eq_true ?_
        rintro rfl
        exact hm hc
      have hneg : ¬ decide (b ≠ b) = true := by simp
      rw [List.filter_cons, if_neg hneg, List.filter_cons, if_neg hneg, hself l hb,
        hself (l.take n) fun hmem => hb (List.mem_of_mem_take hmem)]
    · rw [List.take_succ_cons, List.mem_cons] at h
      have hmem : a ∈ l.take n := h.resolve_left (Ne.symm hba)
      have hpos : decide (b ≠ a) = true := decide_eq_true hba
      cases n with
      | zero => exact absurd hmem (by simp)
      | succ n =>
        rw [List.filter_cons, if_pos hpos, List.filter_cons, if_pos hpos, List.take_succ_cons,
          ih n hnodup hmem]

end Room

/-! ### What the memory holds -/

namespace Cache

/-- The memory after calls, given the latest first: it holds the texts used last, each with its
condition, and has counted every call. -/
structure Follows (cache : Cache) (past : List Call) : Prop where
  texts : cache.entries.map Prod.fst = (recentTexts past).take cacheCapacity
  parsed : ∀ entry ∈ cache.entries, parse entry.1 = .ok entry.2
  counted : cache.hits + cache.misses = (sinceClear past).length

theorem empty_follows (past : List Call) (h : sinceClear past = []) : empty.Follows past where
  texts := by simp [empty, recentTexts, h]
  parsed := by simp [empty]
  counted := by simp [empty, h]

/-- All the ways in which a look-up goes. -/
theorem lookup_cases (cache : Cache) (text : Option String) :
    (∃ e, (text.getD "", e) ∈ cache.entries ∧
      cache.lookup text = (.ok e, { cache with
        entries := (text.getD "", e) :: cache.entries.filter (·.1 ≠ text.getD "")
        hits := cache.hits + 1 })) ∨
    (text.getD "" ∉ cache.entries.map Prod.fst ∧ ∃ e, parse (text.getD "") = .ok e ∧
      cache.lookup text = (.ok e, { cache with
        entries := ((text.getD "", e) :: cache.entries).take cacheCapacity
        misses := cache.misses + 1 })) ∨
    (text.getD "" ∉ cache.entries.map Prod.fst ∧ ∃ fault, parse (text.getD "") = .error fault ∧
      cache.lookup text = (.error fault, { cache with misses := cache.misses + 1 })) := by
  cases hlookup : cache.entries.lookup (text.getD "") with
  | some e =>
    refine .inl ⟨e, mem_of_lookup hlookup, ?_⟩
    simp [lookup, hlookup]
  | none =>
    have hnot : text.getD "" ∉ cache.entries.map Prod.fst := by
      intro hmem
      obtain ⟨entry, hentry, hkey⟩ := List.mem_map.1 hmem
      have hne := List.lookup_eq_none_iff.1 hlookup entry hentry
      rw [hkey] at hne
      exact absurd hne (by simp)
    cases hparse : parse (text.getD "") with
    | ok e => exact .inr (.inl ⟨hnot, e, rfl, by simp [lookup, hlookup, hparse]⟩)
    | error fault => exact .inr (.inr ⟨hnot, fault, rfl, by simp [lookup, hlookup, hparse]⟩)

theorem lookup_counted (cache : Cache) (text : Option String) :
    (cache.lookup text).2.hits + (cache.lookup text).2.misses = cache.hits + cache.misses + 1 := by
  rcases cache.lookup_cases text with ⟨e, -, heq⟩ | ⟨-, e, -, heq⟩ | ⟨-, fault, -, heq⟩
  · rw [heq]
    dsimp only
    omega
  · rw [heq, ← Nat.add_assoc]
  · rw [heq, ← Nat.add_assoc]

theorem lookup_of_held (cache : Cache) (text : Option String)
    (hheld : text.getD "" ∈ cache.entries.map Prod.fst) :
    (cache.lookup text).2.hits = cache.hits + 1 ∧ (cache.lookup text).2.misses = cache.misses := by
  rcases cache.lookup_cases text with ⟨e, -, heq⟩ | ⟨hnot, -⟩ | ⟨hnot, -⟩
  · rw [heq]
    exact ⟨rfl, rfl⟩
  · exact absurd hheld hnot
  · exact absurd hheld hnot

theorem lookup_of_not_held (cache : Cache) (text : Option String)
    (hnot : text.getD "" ∉ cache.entries.map Prod.fst) :
    (cache.lookup text).2.hits = cache.hits ∧ (cache.lookup text).2.misses = cache.misses + 1 := by
  rcases cache.lookup_cases text with ⟨e, hmem, -⟩ | ⟨-, e, -, heq⟩ | ⟨-, fault, -, heq⟩
  · exact absurd (List.mem_map_of_mem hmem) hnot
  · rw [heq]
    exact ⟨rfl, rfl⟩
  · rw [heq]
    exact ⟨rfl, rfl⟩

theorem ask_eq (cache : Cache) (query : Query) (text : Option String) :
    cache.ask query text = (query.answer (cache.lookup text).1, (cache.lookup text).2) := rfl

section Step

variable {cache : Cache} {past : List Call}

theorem Follows.lookup_fst (h : cache.Follows past) (text : Option String) :
    (cache.lookup text).1 = parse (text.getD "") := by
  rcases cache.lookup_cases text with ⟨e, hmem, heq⟩ | ⟨-, e, hparse, heq⟩ | ⟨-, fault, hparse, heq⟩
  · rw [heq]
    exact (h.parsed _ hmem).symm
  · rw [heq, hparse]
  · rw [heq, hparse]

/-- A text that is no condition is not held, so nothing but a miss is left of it. -/
theorem Follows.lookup_of_error (h : cache.Follows past) {text : Option String} {fault : SyntaxFault}
    (hfault : parse (text.getD "") = .error fault) :
    (cache.lookup text).2 = { cache with misses := cache.misses + 1 } := by
  have hok : ∀ e, parse (text.getD "") ≠ .ok e := by
    intro e hparse
    rw [hfault] at hparse
    exact absurd hparse (by simp)
  rcases cache.lookup_cases text with ⟨e, hmem, -⟩ | ⟨-, e, hparse, -⟩ | ⟨-, _, -, heq⟩
  · exact absurd (h.parsed _ hmem) (hok e)
  · exact absurd hparse (hok e)
  · rw [heq]

theorem Follows.parsed_lookup (h : cache.Follows past) (text : Option String) :
    ∀ entry ∈ (cache.lookup text).2.entries, parse entry.1 = .ok entry.2 := by
  intro entry hentry
  rcases cache.lookup_cases text with ⟨e, hmem, heq⟩ | ⟨-, e, hparse, heq⟩ | ⟨-, fault, -, heq⟩
  · rw [heq] at hentry
    rcases List.mem_cons.1 hentry with rfl | hentry
    · exact h.parsed _ hmem
    · exact h.parsed entry (List.mem_filter.1 hentry).1
  · rw [heq] at hentry
    rcases List.mem_cons.1 (List.mem_of_mem_take hentry) with rfl | hentry
    · exact hparse
    · exact h.parsed entry hentry
  · rw [heq] at hentry
    exact h.parsed entry hentry

theorem Follows.texts_lookup (h : cache.Follows past) (query : Query) (text : Option String) :
    (cache.lookup text).2.entries.map Prod.fst =
      (recentTexts (.ask query text :: past)).take cacheCapacity := by
  have hroom : cacheCapacity = 2047 + 1 := rfl
  rcases cache.lookup_cases text with ⟨e, hmem, heq⟩ | ⟨hnot, e, hparse, heq⟩ |
    ⟨-, fault, hparse, heq⟩
  · -- The text is held: it moves to the front, and no other one goes.
    have hheld : text.getD "" ∈ (recentTexts past).take cacheCapacity := by
      rw [← h.texts]
      exact List.mem_map_of_mem hmem
    rw [heq, recentTexts_of_ok (h.parsed _ hmem) query past, hroom, List.take_succ_cons,
      List.map_cons, take_filter_of_mem _ _ _ (recentTexts_nodup past) hheld, ← hroom, ← h.texts,
      List.filter_map]
    rfl
  · -- The text comes in at the front, and the one used longest ago goes if there is no room.
    have hout : text.getD "" ∉ (recentTexts past).take 2047 := by
      intro hin
      rw [h.texts] at hnot
      exact hnot (List.take_subset_take_left _ (by decide) hin)
    rw [heq, recentTexts_of_ok hparse query past, List.map_take, List.map_cons, h.texts, hroom,
      List.take_succ_cons, List.take_succ_cons, take_filter_of_notMem _ _ _ hout, List.take_take]
    rfl
  · rw [heq, recentTexts_of_error hparse query past]
    exact h.texts

theorem Follows.ask (h : cache.Follows past) (query : Query) (text : Option String) :
    (cache.ask query text).2.Follows (.ask query text :: past) where
  texts := h.texts_lookup query text
  parsed := h.parsed_lookup text
  counted := by
    rw [ask_eq, cache.lookup_counted, h.counted, sinceClear_ask, List.length_cons]

/-- One call: it is answered as without the memory, and the memory follows. -/
theorem Follows.serve (h : cache.Follows past) (call : Call) :
    (cache.serve call).1 = call.direct ∧ (cache.serve call).2.Follows (call :: past) := by
  cases call with
  | ask query text =>
    refine ⟨?_, h.ask query text⟩
    rw [Cache.serve, Call.direct, ask_eq, h.lookup_fst text]
  | clear => exact ⟨rfl, empty_follows _ (sinceClear_clear past)⟩

/-- A run of calls, from any memory that follows the calls before. -/
theorem Follows.run (h : cache.Follows past) (calls : List Call) :
    (cache.run calls).1 = calls.map Call.direct ∧
      (cache.run calls).2.Follows (calls.reverse ++ past) := by
  induction calls generalizing cache past with
  | nil => exact ⟨rfl, h⟩
  | cons call rest ih =>
    obtain ⟨hanswer, hnext⟩ := h.serve call
    obtain ⟨hanswers, hlast⟩ := ih hnext
    refine ⟨?_, ?_⟩
    · rw [Cache.run, List.map_cons, ← hanswer, ← hanswers]
    · rw [List.reverse_cons, List.append_assoc]
      exact hlast

end Step

theorem run_follows (calls : List Call) :
    (empty.run calls).1 = calls.map Call.direct ∧ (empty.run calls).2.Follows calls.reverse := by
  have h := (empty_follows [] rfl).run calls
  rwa [List.append_nil] at h

/-- The memory is never seen in an answer. After any calls it has counted those since it was cleared,
and it holds, each with its condition, as many of the texts parsed since then as it has room for, the
ones used last. The next question finds its text there or is counted as a miss, and one about a text
that is no condition leaves everything but that count as it is. -/
theorem run_transparent_lru (calls : List Call) :
    let cache := (empty.run calls).2
    let used := recentTexts calls.reverse
    (empty.run calls).1 = calls.map Call.direct ∧
    cache.hits + cache.misses = (sinceClear calls.reverse).length ∧
    used.Nodup ∧
    (∀ t, t ∈ used ↔ ∃ call ∈ sinceClear calls.reverse, call.parsed? = some t) ∧
    cache.entries.map Prod.fst = used.take 2048 ∧
    (∀ entry ∈ cache.entries, parse entry.1 = .ok entry.2) ∧
    cache.size = min 2048 used.length ∧ cache.size ≤ 2048 ∧
    ∀ query text,
      (text.getD "" ∈ used.take 2048 →
        (cache.ask query text).2.hits = cache.hits + 1 ∧
        (cache.ask query text).2.misses = cache.misses) ∧
      (text.getD "" ∉ used.take 2048 →
        (cache.ask query text).2.hits = cache.hits ∧
        (cache.ask query text).2.misses = cache.misses + 1) ∧
      ∀ fault, parse (text.getD "") = .error fault →
        (cache.ask query text).2 = { cache with misses := cache.misses + 1 } := by
  intro cache used
  obtain ⟨hanswers, h⟩ := run_follows calls
  have hsize : cache.size = min 2048 used.length := by
    rw [size, ← List.length_map Prod.fst, h.texts, List.length_take]
    rfl
  refine ⟨hanswers, h.counted, recentTexts_nodup _, mem_recentTexts _, h.texts, h.parsed, hsize,
    by omega, ?_⟩
  intro query text
  have hheld : text.getD "" ∈ cache.entries.map Prod.fst ↔ text.getD "" ∈ used.take 2048 := by
    rw [h.texts]
    rfl
  rw [← hheld, ask_eq]
  exact ⟨cache.lookup_of_held text, cache.lookup_of_not_held text, fun _ => h.lookup_of_error⟩

end Cache

end TagAudit.Expression
