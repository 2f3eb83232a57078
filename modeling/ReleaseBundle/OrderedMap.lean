/-!
# Ordered maps

A finite map that remembers the order in which its keys came.  A key that is
inserted again keeps its place and takes the new value.  What an operation does
is told by what `get?` finds afterwards (`get?_insert`, `get?_filterKeys`), so no
later proof looks at the pairs.
-/

namespace ReleaseBundle

/-- A finite map with an order of its keys. -/
structure OrderedMap (κ ν : Type) where
  /-- The keys with their values, in order. -/
  pairs : List (κ × ν)
  nodup : (pairs.map Prod.fst).Nodup
deriving DecidableEq

namespace OrderedMap

variable {κ ν : Type}

/-- The map without keys. -/
def empty : OrderedMap κ ν := ⟨[], List.nodup_nil⟩

instance : Inhabited (OrderedMap κ ν) := ⟨empty⟩

/-- The keys, in order. -/
def keys (m : OrderedMap κ ν) : List κ := m.pairs.map Prod.fst

/-- The map with the keys that a test keeps. -/
def filterKeys (m : OrderedMap κ ν) (keep : κ → Bool) : OrderedMap κ ν where
  pairs := m.pairs.filter fun (k, _) => keep k
  nodup := m.nodup.sublist (List.filter_sublist.map Prod.fst)

variable [DecidableEq κ]

/-- The value of a key. -/
def get? (m : OrderedMap κ ν) (key : κ) : Option ν := m.pairs.lookup key

/-- Pairs with a value for a key: in the key's place, or last if it has none. -/
def insertPair (key : κ) (value : ν) : List (κ × ν) → List (κ × ν)
  | [] => [(key, value)]
  | (k, v) :: pairs =>
    if k = key then (key, value) :: pairs else (k, v) :: insertPair key value pairs

theorem mem_map_fst_insertPair {key k : κ} {value : ν} {pairs : List (κ × ν)} :
    k ∈ (insertPair key value pairs).map Prod.fst ↔ k = key ∨ k ∈ pairs.map Prod.fst := by
  induction pairs with
  | nil => simp [insertPair]
  | cons pair pairs ih =>
    obtain ⟨other, v⟩ := pair
    simp only [insertPair]
    split
    · rename_i same
      subst same
      simp
    · simp only [List.map_cons, List.mem_cons, ih]
      exact or_left_comm

theorem nodup_insertPair {key : κ} {value : ν} {pairs : List (κ × ν)}
    (h : (pairs.map Prod.fst).Nodup) : ((insertPair key value pairs).map Prod.fst).Nodup := by
  induction pairs with
  | nil => simp [insertPair]
  | cons pair pairs ih =>
    obtain ⟨other, v⟩ := pair
    obtain ⟨fresh, rest⟩ := List.nodup_cons.mp h
    simp only [insertPair]
    split
    · rename_i same
      subst same
      exact h
    · rename_i different
      refine List.nodup_cons.mpr ⟨fun again => ?_, ih rest⟩
      rcases mem_map_fst_insertPair.mp again with same | old
      · exact different same
      · exact fresh old

/-- The map with a value for a key. -/
def insert (m : OrderedMap κ ν) (key : κ) (value : ν) : OrderedMap κ ν :=
  ⟨insertPair key value m.pairs, nodup_insertPair m.nodup⟩

/-- The map of a list of pairs; of two values for one key the later one counts,
in the place of the first. -/
def ofList (pairs : List (κ × ν)) : OrderedMap κ ν :=
  pairs.foldl (fun m (key, value) => m.insert key value) empty

/-! ## What is found -/

@[simp] theorem get?_empty (key : κ) : (empty : OrderedMap κ ν).get? key = none := rfl

theorem lookup_insertPair (key k : κ) (value : ν) (pairs : List (κ × ν)) :
    (insertPair key value pairs).lookup k = if k = key then some value else pairs.lookup k := by
  induction pairs with
  | nil =>
    rcases Decidable.em (k = key) with rfl | hk
    · simp [insertPair]
    · simp [insertPair, List.lookup_cons, beq_eq_false_iff_ne.mpr hk, hk]
  | cons pair pairs ih =>
    obtain ⟨other, v⟩ := pair
    simp only [insertPair]
    rcases Decidable.em (other = key) with rfl | ho
    · rcases Decidable.em (k = other) with rfl | hk
      · simp
      · simp [List.lookup_cons, beq_eq_false_iff_ne.mpr hk, hk]
    · rcases Decidable.em (k = other) with rfl | hk
      · simp [ho]
      · simp [List.lookup_cons, beq_eq_false_iff_ne.mpr hk, ho, ih]

/-- **What is inserted is found**, and nothing else changes. -/
theorem get?_insert (m : OrderedMap κ ν) (key k : κ) (value : ν) :
    (m.insert key value).get? k = if k = key then some value else m.get? k :=
  lookup_insertPair key k value m.pairs

theorem lookup_filter_fst (keep : κ → Bool) (k : κ) :
    ∀ pairs : List (κ × ν), (pairs.filter fun (k, _) => keep k).lookup k =
      if keep k then pairs.lookup k else none
  | [] => by simp
  | (other, v) :: pairs => by
    rw [List.filter_cons]
    rcases Decidable.em (k = other) with rfl | hk
    · cases kept : keep k
      · simpa [kept] using lookup_filter_fst keep k pairs
      · simp [kept]
    · have different : (k == other) = false := beq_eq_false_iff_ne.mpr hk
      cases kept : keep other <;>
        simp [kept, List.lookup_cons, different, lookup_filter_fst keep k pairs]

/-- **Only what is kept is found.** -/
theorem get?_filterKeys (m : OrderedMap κ ν) (keep : κ → Bool) (k : κ) :
    (m.filterKeys keep).get? k = if keep k then m.get? k else none :=
  lookup_filter_fst keep k m.pairs

/-! ## The keys -/

theorem mem_keys_of_get? {m : OrderedMap κ ν} {key : κ} {value : ν}
    (h : m.get? key = some value) : key ∈ m.keys := by
  obtain ⟨before, after, split, -⟩ := List.lookup_eq_some_iff.mp h
  simp [keys, split]

/-- A key has its value, and no other. -/
theorem get?_eq_some_iff {m : OrderedMap κ ν} {key : κ} {value : ν} :
    m.get? key = some value ↔ (key, value) ∈ m.pairs := by
  constructor
  · intro h
    obtain ⟨before, after, split, -⟩ := List.lookup_eq_some_iff.mp h
    simp [split]
  · intro h
    obtain ⟨before, after, split⟩ := List.append_of_mem h
    refine List.lookup_eq_some_iff.mpr ⟨before, after, split, fun pair earlier => ?_⟩
    have once := m.nodup
    rw [split, List.map_append, List.map_cons] at once
    have apart := (List.nodup_append.mp once).2.2 pair.1 (List.mem_map_of_mem earlier) key
      List.mem_cons_self
    exact bne_iff_ne.mpr (Ne.symm apart)

end OrderedMap

end ReleaseBundle
