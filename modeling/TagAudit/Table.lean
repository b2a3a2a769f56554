/-!
Tables: values under distinct keys, in the order in which the keys were first put. The keys of a
table, and every other set whose order is kept, are lists without repetition.

The mappings of the program are such tables: `details`, `by_source`, the tags of a registry.
-/

namespace TagAudit

theorem nodup_eraseDups {α : Type} [BEq α] [LawfulBEq α] (l : List α) : l.eraseDups.Nodup := by
  induction hlen : l.length using Nat.strongRecOn generalizing l with
  | ind n ih =>
    cases l with
    | nil => simp
    | cons a l =>
      have hle := List.length_filter_le (fun b => !b == a) l
      rw [List.length_cons] at hlen
      rw [List.eraseDups_cons, List.nodup_cons, List.mem_eraseDups]
      exact ⟨by simp, ih _ (by omega) _ rfl⟩

/-- Entries with one value put: a known key keeps its place and takes the new value, a new key comes
last. -/
def putEntry {κ α : Type} [DecidableEq κ] (key : κ) (value : α) : List (κ × α) → List (κ × α)
  | [] => [(key, value)]
  | (k, v) :: rest => if k = key then (k, value) :: rest else (k, v) :: putEntry key value rest

/-- The keys after a put: the same when the key is known, and one more at the end otherwise. -/
theorem keys_putEntry {κ α : Type} [DecidableEq κ] (key : κ) (value : α) (entries : List (κ × α)) :
    (putEntry key value entries).map Prod.fst =
      if key ∈ entries.map Prod.fst then entries.map Prod.fst
      else entries.map Prod.fst ++ [key] := by
  induction entries with
  | nil => simp [putEntry]
  | cons entry rest ih =>
    obtain ⟨k, v⟩ := entry
    by_cases h : k = key
    · simp [putEntry, h]
    · have h' : ¬ key = k := fun e => h e.symm
      simp only [putEntry, h, if_false, List.map_cons, ih, List.mem_cons, h', false_or]
      split <;> simp

/-- Putting a value keeps the keys distinct. -/
theorem nodup_putEntry {κ α : Type} [DecidableEq κ] (key : κ) (value : α) (entries : List (κ × α))
    (h : (entries.map Prod.fst).Nodup) : ((putEntry key value entries).map Prod.fst).Nodup := by
  rw [keys_putEntry]
  split
  · exact h
  · rename_i hn
    exact List.nodup_append.2 ⟨h, by simp, by
      intro a ha b hb
      rw [List.mem_singleton] at hb
      subst hb
      exact fun e => hn (e ▸ ha)⟩

/-- The value under a key after a put. -/
theorem lookup_putEntry {κ α : Type} [DecidableEq κ] (key : κ) (value : α) (entries : List (κ × α))
    (k : κ) :
    (putEntry key value entries).lookup k = if k = key then some value else entries.lookup k := by
  induction entries with
  | nil =>
    by_cases h : k = key
    · simp [putEntry, h]
    · have hb : (k == key) = false := by simp [h]
      simp [putEntry, List.lookup_cons, h, hb]
  | cons entry rest ih =>
    obtain ⟨k', v⟩ := entry
    by_cases h : k' = key
    · subst h
      by_cases hk : k = k'
      · simp [putEntry, hk]
      · have hb : (k == k') = false := by simp [hk]
        simp [putEntry, List.lookup_cons, hk, hb]
    · by_cases hk : k = k'
      · subst hk
        simp [putEntry, h]
      · have hb : (k == k') = false := by simp [hk]
        simp only [putEntry, h, if_false, List.lookup_cons, hb, ih]

/-- Values under distinct keys, in order. -/
structure Table (κ α : Type) where
  entries : List (κ × α)
  nodup : (entries.map Prod.fst).Nodup

namespace Table

variable {κ α : Type}

def empty : Table κ α := ⟨[], by simp⟩

def keys (t : Table κ α) : List κ := t.entries.map Prod.fst

def values (t : Table κ α) : List α := t.entries.map Prod.snd

def size (t : Table κ α) : Nat := t.entries.length

def get? [DecidableEq κ] (t : Table κ α) (key : κ) : Option α := t.entries.lookup key

def put [DecidableEq κ] (key : κ) (value : α) (t : Table κ α) : Table κ α :=
  ⟨putEntry key value t.entries, nodup_putEntry key value t.entries t.nodup⟩

/-- The table with several values put, one after the other. -/
def putAll [DecidableEq κ] (t : Table κ α) (entries : List (κ × α)) : Table κ α :=
  entries.foldl (fun t e => t.put e.1 e.2) t

/-- The table of a list of entries; of several values under one key the last one counts, in the
place of the first. -/
def ofList [DecidableEq κ] (entries : List (κ × α)) : Table κ α :=
  empty.putAll entries

/-- The number of times that each key occurs, in the order of first occurrences. -/
def counts [DecidableEq κ] (keys : List κ) : Table κ Nat :=
  keys.foldl (fun t k => t.put k ((t.get? k).getD 0 + 1)) empty

/-- Looking up after a put. -/
theorem get?_put [DecidableEq κ] (t : Table κ α) (key k : κ) (value : α) :
    (t.put key value).get? k = if k = key then some value else t.get? k :=
  lookup_putEntry key value t.entries k

end Table

end TagAudit
