import Mathlib
import ReleaseBundle.Proofs.PlainPaths

/-!
# The order of a tree

A file system is a **tree** if every node but the root lies in a directory, under a name
that can stand there (`FileSystem.IsTree`).  What lies below a location is listed by one sort
of whole locations (`FileSystem.entriesBelow`).  In a tree this is the order of a walk, depth
first: the names in the directory one after the other, and behind each name what lies below it
(`IsTree.entriesBelow_eq`).  Two lists in strict order are equal as soon as they have the
same members, so this is a question of what is there.

Names are compared octet by octet.
-/

namespace ReleaseBundle

namespace FileSystem

variable {t : FileSystem} {l names : Location} {name : Name} {node : Node}

/-! ## Trees -/

/-- The names in a tree are names that can stand in a directory. -/
def Named (t : FileSystem) : Prop :=
  ∀ l node, t.lookup? l = some node → ∀ name ∈ l, Path.IsName name

/-- Every node lies in a directory, under a name that can stand there. -/
structure IsTree (t : FileSystem) : Prop where
  named : t.Named
  rooted : ∀ l name node, t.lookup? (l ++ [name]) = some node → t.lookup? l = some .directory

instance (name : Name) : Decidable (Path.IsName name) :=
  decidable_of_iff (slash ∉ name ∧ Path.isIdle name = false ∧ name ≠ [dot, dot])
    ⟨fun ⟨no_slash, idle, down⟩ => ⟨no_slash, idle, down⟩, fun h => ⟨h.slash, h.idle, h.down⟩⟩

/-- **Whether a file system is a tree** is seen node by node. -/
theorem isTree_iff : t.IsTree ↔ ∀ entry ∈ t.nodes.pairs,
    (∀ name ∈ entry.1, Path.IsName name) ∧ t.lookup? entry.1.dropLast = some .directory := by
  constructor
  · rintro tree ⟨l, node⟩ stored
    obtain rfl | ⟨outer, name, rfl⟩ := l.eq_nil_or_concat'
    · exact ⟨nofun, rfl⟩
    · have there : t.lookup? (outer ++ [name]) = some node := by
        rw [lookup?, if_neg (by simp)]
        exact OrderedMap.get?_eq_some_iff.mpr stored
      rw [List.dropLast_concat]
      exact ⟨tree.named _ node there, tree.rooted outer name node there⟩
  · intro sound
    have stored : ∀ l node, l ≠ [] → t.lookup? l = some node → (l, node) ∈ t.nodes.pairs := by
      intro l node ne there
      rw [lookup?, if_neg ne] at there
      exact OrderedMap.get?_eq_some_iff.mp there
    constructor
    · intro l node there name mem
      exact (sound _ (stored l node (List.ne_nil_of_mem mem) there)).1 name mem
    · intro l name node there
      simpa using (sound _ (stored _ node (by simp) there)).2

instance (t : FileSystem) : Decidable t.IsTree := decidable_of_iff _ isTree_iff.symm

/-- Where something lies below, there is a directory. -/
theorem IsTree.directory (tree : t.IsTree) (ne : names ≠ [])
    (there : t.lookup? (l ++ names) = some node) : t.lookup? l = some .directory := by
  induction names using List.reverseRecOn generalizing node with
  | nil => exact absurd rfl ne
  | append_singleton names name ih =>
    rw [← List.append_assoc] at there
    have outer := tree.rooted _ _ _ there
    by_cases first : names = []
    · rwa [first, List.append_nil] at outer
    · exact ih first outer

/-! ## What lies below a location -/

/-- **The entries below a location** are the nodes further on, by the names that lead there. -/
theorem mem_entriesBelow_iff {l names : Location} {node : Node} :
    (names, node) ∈ t.entriesBelow l ↔ names ≠ [] ∧ t.lookup? (l ++ names) = some node := by
  rw [entriesBelow, List.mem_mergeSort, List.mem_filterMap]
  constructor
  · rintro ⟨⟨k, other⟩, stored, kept⟩
    dsimp only at kept
    split at kept
    · rename_i below
      simp only [Bool.and_eq_true, List.isPrefixOf_iff_prefix, decide_eq_true_eq] at below
      obtain ⟨⟨rest, rfl⟩, ne⟩ := below
      rw [List.drop_left] at kept
      cases kept
      have some_name : names ≠ [] := fun empty => ne (by rw [empty, List.append_nil])
      refine ⟨some_name, ?_⟩
      rw [lookup?, if_neg (List.append_ne_nil_of_right_ne_nil l some_name)]
      exact OrderedMap.get?_eq_some_iff.mpr stored
    · cases kept
  · rintro ⟨some_name, there⟩
    rw [lookup?, if_neg (List.append_ne_nil_of_right_ne_nil l some_name)] at there
    refine ⟨(l ++ names, node), OrderedMap.get?_eq_some_iff.mp there, ?_⟩
    have further : l ++ names ≠ l := fun same => some_name (List.append_right_eq_self.mp same)
    simp [List.isPrefixOf_iff_prefix, further]

/-- No two entries below a location have the same names. -/
theorem entriesBelow_distinct (t : FileSystem) (l : Location) :
    (t.entriesBelow l).Pairwise fun a b => a.1 ≠ b.1 := by
  rw [entriesBelow, List.Perm.pairwise_iff (fun h => Ne.symm h) (List.mergeSort_perm _ _),
    List.pairwise_filterMap]
  refine (List.pairwise_map.mp t.nodes.nodup).imp fun {a b} ne => ?_
  intro c kept c' kept'
  dsimp only at kept kept'
  split at kept
  · split at kept'
    · rename_i below below'
      simp only [Bool.and_eq_true, List.isPrefixOf_iff_prefix, decide_eq_true_eq] at below below'
      obtain ⟨⟨rest, same⟩, -⟩ := below
      obtain ⟨⟨rest', same'⟩, -⟩ := below'
      rw [← same, List.drop_left] at kept
      rw [← same', List.drop_left] at kept'
      cases kept
      cases kept'
      rintro (rfl : rest = rest')
      exact ne (same.symm.trans same')
    · cases kept'
  · cases kept

/-- **The entries below a location are in strict order.** -/
theorem entriesBelow_sorted (t : FileSystem) (l : Location) :
    (t.entriesBelow l).Pairwise fun a b => a.1 < b.1 := by
  have sorted : (t.entriesBelow l).Pairwise fun a b => (!decide (b.1 < a.1)) = true := by
    rw [entriesBelow]
    refine List.pairwise_mergeSort ?_ ?_ _
    · intro a b c ab bc
      simp only [Bool.not_eq_true', decide_eq_false_iff_not, Std.not_lt] at ab bc ⊢
      exact Std.le_trans ab bc
    · intro a b
      simp only [Bool.or_eq_true, Bool.not_eq_true', decide_eq_false_iff_not, Std.not_lt]
      exact Std.le_total
  refine (sorted.and (t.entriesBelow_distinct l)).imp fun {a b} h => ?_
  simp only [Bool.not_eq_true', decide_eq_false_iff_not, Std.not_lt] at h
  exact Std.lt_of_le_of_ne h.1 h.2

/-- The names in a directory, in order. -/
def contents (t : FileSystem) (l : Location) : List Name :=
  (t.entriesBelow l).filterMap fun (names, _) =>
    match names with
    | [name] => some name
    | _ => none

theorem mem_contents_iff : name ∈ t.contents l ↔ (t.lookup? (l ++ [name])).isSome = true := by
  rw [contents, List.mem_filterMap, Option.isSome_iff_exists]
  constructor
  · rintro ⟨⟨names, node⟩, mem, only⟩
    dsimp only at only
    split at only
    · cases only
      exact ⟨node, (mem_entriesBelow_iff.mp mem).2⟩
    · cases only
  · rintro ⟨node, there⟩
    exact ⟨([name], node), mem_entriesBelow_iff.mpr ⟨by simp, there⟩, rfl⟩

theorem contents_sorted (t : FileSystem) (l : Location) : (t.contents l).Pairwise (· < ·) := by
  rw [contents, List.pairwise_filterMap]
  refine (t.entriesBelow_sorted l).imp fun {a b} smaller name only name' only' => ?_
  obtain ⟨names, node⟩ := a
  obtain ⟨names', node'⟩ := b
  dsimp only at smaller only only'
  split at only
  · split at only'
    · cases only
      cases only'
      exact (List.cons_lt_cons_iff.mp smaller).resolve_right fun same => List.not_lt_nil _ same.2
    · cases only'
  · cases only

/-! ## Depth first -/

/-- The entry of a name in a directory, and behind it what lies below. -/
def branch (t : FileSystem) (l : Location) (name : Name) : List (Location × Node) :=
  (t.lookup? (l ++ [name])).toList.map (fun node => ([name], node)) ++
    (t.entriesBelow (l ++ [name])).map fun (names, node) => (name :: names, node)

theorem mem_branch_iff : (names, node) ∈ t.branch l name ↔
    ∃ more, names = name :: more ∧ t.lookup? (l ++ names) = some node := by
  rw [branch, List.mem_append, List.mem_map, List.mem_map]
  constructor
  · rintro (⟨other, there, same⟩ | ⟨⟨more, other⟩, mem, same⟩)
    · obtain ⟨rfl, rfl⟩ := Prod.mk.inj same
      exact ⟨[], rfl, by simpa using there⟩
    · obtain ⟨rfl, rfl⟩ := Prod.mk.inj same
      exact ⟨more, rfl, by simpa using (mem_entriesBelow_iff.mp mem).2⟩
  · rintro ⟨more, rfl, there⟩
    by_cases last : more = []
    · subst last
      exact Or.inl ⟨node, by simpa using there, rfl⟩
    · exact Or.inr ⟨(more, node), mem_entriesBelow_iff.mpr ⟨last, by simpa using there⟩, rfl⟩

theorem branch_sorted (t : FileSystem) (l : Location) (name : Name) :
    (t.branch l name).Pairwise fun a b => a.1 < b.1 := by
  rw [branch, List.pairwise_append]
  refine ⟨?_, ?_, ?_⟩
  · cases t.lookup? (l ++ [name]) <;> simp
  · rw [List.pairwise_map]
    refine (t.entriesBelow_sorted (l ++ [name])).imp fun smaller => ?_
    exact List.cons_lt_cons_iff.mpr (Or.inr ⟨rfl, smaller⟩)
  · rintro a mem b mem'
    obtain ⟨node, -, rfl⟩ := List.mem_map.mp mem
    obtain ⟨⟨names, node'⟩, below, rfl⟩ := List.mem_map.mp mem'
    obtain ⟨first, more, rfl⟩ := List.exists_cons_of_ne_nil (mem_entriesBelow_iff.mp below).1
    exact List.cons_lt_cons_iff.mpr (Or.inr ⟨rfl, List.nil_lt_cons first more⟩)

/-- **What lies below a directory of a tree**, depth first: name by name, and behind each name
what lies below it. -/
theorem IsTree.entriesBelow_eq (tree : t.IsTree) (l : Location) :
    t.entriesBelow l = (t.contents l).flatMap (t.branch l) := by
  let Before (a b : Location × Node) : Prop := a.1 < b.1
  have : Std.Irrefl Before := ⟨fun a => List.lt_irrefl a.1⟩
  have : Std.Antisymm Before := ⟨fun a b smaller greater => absurd greater (List.lt_asymm smaller)⟩
  have sorted : ((t.contents l).flatMap (t.branch l)).Pairwise Before := by
    refine List.pairwise_flatMap.mpr ⟨fun name _ => t.branch_sorted l name, ?_⟩
    refine (t.contents_sorted l).imp fun smaller a mem b mem' => ?_
    obtain ⟨more, same, -⟩ := mem_branch_iff.mp mem
    obtain ⟨more', same', -⟩ := mem_branch_iff.mp mem'
    rw [show Before a b = (a.1 < b.1) from rfl, same, same']
    exact List.cons_lt_cons_iff.mpr (Or.inl smaller)
  refine List.Pairwise.eq_of_mem_iff (t.entriesBelow_sorted l) sorted fun ⟨names, node⟩ => ?_
  rw [mem_entriesBelow_iff, List.mem_flatMap]
  constructor
  · rintro ⟨ne, there⟩
    obtain ⟨name, more, rfl⟩ := List.exists_cons_of_ne_nil ne
    refine ⟨name, mem_contents_iff.mpr ?_, mem_branch_iff.mpr ⟨more, rfl, there⟩⟩
    -- The first name is there, as itself or as a directory that the others lie in.
    rw [List.append_cons] at there
    by_cases last : more = []
    · rw [last, List.append_nil] at there
      simp [there]
    · simp [tree.directory last there]
  · rintro ⟨name, -, mem⟩
    obtain ⟨more, rfl, there⟩ := mem_branch_iff.mp mem
    exact ⟨List.cons_ne_nil name more, there⟩

/-- Below a name in a directory there are fewer entries than below the directory. -/
theorem IsTree.length_entriesBelow_lt (tree : t.IsTree) (mem : name ∈ t.contents l) :
    (t.entriesBelow (l ++ [name])).length < (t.entriesBelow l).length := by
  have part : (t.branch l name).length ≤ (t.entriesBelow l).length := by
    rw [tree.entriesBelow_eq l, List.length_flatMap]
    exact List.le_sum_of_mem (List.mem_map_of_mem mem)
  obtain ⟨node, there⟩ := Option.isSome_iff_exists.mp (mem_contents_iff.mp mem)
  rw [branch, there] at part
  simp only [Option.toList_some, List.map_cons, List.map_nil, List.cons_append, List.nil_append,
    List.length_cons, List.length_map] at part
  exact part

/-- Nothing lies below what is no directory. -/
theorem IsTree.entriesBelow_eq_nil (tree : t.IsTree) (other : t.lookup? l ≠ some .directory) :
    t.entriesBelow l = [] := by
  refine List.eq_nil_iff_forall_not_mem.mpr fun ⟨names, node⟩ mem => ?_
  obtain ⟨ne, there⟩ := mem_entriesBelow_iff.mp mem
  exact other (tree.directory ne there)

end FileSystem

end ReleaseBundle
