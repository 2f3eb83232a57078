import ReleaseBundle.Proofs.GrowingRuns
import ReleaseBundle.Proofs.TreeOrder

/-!
# Trees stay trees

Nothing is ever put outside a directory.  In a tree every path that leads to something other
than a directory, a free place included, leads to a name in a directory
(`FileSystem.IsTree.exists_of_resolve`): its walk reads that name last, whichever links it took
on the way, and a walk that reads no name stands in a directory.  A node that is put there, in
the place of no directory, leaves a tree (`IsTree.put`).

So each operation leaves a tree, also if it fails half way (`IsTree.answer`), and so does a whole
program (`Program.isTree_run`).  The file systems that programs are played on are set up from a
bare one by installing and removing nodes, and these are trees too.
-/

namespace ReleaseBundle

namespace FileSystem

variable {t : FileSystem} {l home : Location} {name : Name} {n : Option Node}

/-! ## Where paths lead -/

/-- Going up from a directory of a tree leads to a directory. -/
theorem IsTree.lookup?_dropLast (tree : t.IsTree) (stands : t.lookup? l = some .directory) :
    t.lookup? l.dropLast = some .directory := by
  obtain rfl | ⟨outer, name, rfl⟩ := l.eq_nil_or_concat'
  · exact stands
  · rw [List.dropLast_concat]
    exact tree.rooted outer name .directory stands

/-- **A walk to what is no directory** reads its name last, in the directory it lies in.  If no
link is followed in the last place, the name is the last segment. -/
theorem IsTree.exists_of_walk (tree : t.IsTree) {ending : Ending} {links : Nat} {here : Location}
    {segments : List Name} (ne : segments ≠ []) (no_slash : ∀ segment ∈ segments, slash ∉ segment)
    (ends : t.walk ending links here segments = .ok ⟨l, n⟩) (other : n ≠ some .directory) :
    ∃ home name, l = home ++ [name] ∧ t.lookup? home = some .directory ∧ Path.IsName name ∧
      (ending = .atLink → segments.getLast? = some name) := by
  have found := lookup?_of_walk ends
  induction links, here, segments using walk_induction t ending with
  | step links here segments ih =>
    obtain ⟨segment, rest, rfl⟩ := List.exists_cons_of_ne_nil ne
    obtain ⟨first, more_slash⟩ := List.forall_mem_cons.mp no_slash
    rw [walk_eq_stride] at ends
    cases strides : t.stride ending links here (segment :: rest) with
    | stop result =>
      rw [strides] at ends
      obtain rfl : result = .ok ⟨l, n⟩ := ends
      obtain ⟨stands, idle, down, -, rfl, place, -⟩ := eq_of_stride_ok strides
      obtain ⟨rfl, -⟩ := Place.mk.inj place
      exact ⟨here, segment, rfl, stands, ⟨first, idle, down⟩, fun _ => rfl⟩
    | go links' here' segments' =>
      rw [strides] at ends
      obtain ⟨stands, ⟨-, rfl, place⟩ | ⟨-, rfl, more, -⟩ | ⟨target, -, followed, -, rfl⟩⟩ :=
        stride_go_cases strides
      · have outside : t.lookup? here' = some .directory := by
          rcases place with rfl | rfl
          · exact stands
          · exact tree.lookup?_dropLast stands
        -- Without a name to read, the walk would end in this directory.
        have more : segments' ≠ [] := by
          rintro rfl
          dsimp only at ends
          rw [walk_nil, outside] at ends
          cases ends
          exact other rfl
        obtain ⟨home, name, at_name, around, is_name, last⟩ :=
          ih links' here' segments' strides more more_slash ends
        refine ⟨home, name, at_name, around, is_name, fun atLink => ?_⟩
        rw [List.getLast?_cons_of_ne_nil more, last atLink]
      · obtain ⟨home, name, at_name, around, is_name, last⟩ :=
          ih links' here' segments' strides more more_slash ends
        refine ⟨home, name, at_name, around, is_name, fun atLink => ?_⟩
        rw [List.getLast?_cons_of_ne_nil more, last atLink]
      · have target_slash : ∀ part ∈ Path.segments target ++ rest, slash ∉ part := fun part mem =>
          (List.mem_append.mp mem).elim Path.slash_not_mem_of_mem_segments (more_slash part)
        obtain ⟨home, name, at_name, around, is_name, last⟩ :=
          ih links' here' _ strides (List.append_ne_nil_of_left_ne_nil (Path.segments_ne_nil _) _)
            target_slash ends
        refine ⟨home, name, at_name, around, is_name, fun atLink => ?_⟩
        have more : rest ≠ [] := fun last => followed ⟨last, atLink⟩
        rw [List.getLast?_cons_of_ne_nil more, ← last atLink, List.getLast?_append_of_ne_nil _ more]

/-- **A path to what is no directory** leads to a name in a directory.  If no link is followed
in the last place, the path says the name last. -/
theorem IsTree.exists_of_resolve (tree : t.IsTree) {ending : Ending} {p : Path}
    (leads : t.resolve ending p = .ok ⟨l, n⟩) (other : n ≠ some .directory) :
    ∃ home name, l = home ++ [name] ∧ t.lookup? home = some .directory ∧ Path.IsName name ∧
      (ending = .atLink → (Path.segments p.spelling).getLast? = some name) :=
  tree.exists_of_walk (Path.segments_ne_nil _) (fun _ => Path.slash_not_mem_of_mem_segments)
    (walk_of_resolve leads).2 other

/-! ## What is put -/

/-- **A node that is put into a directory** leaves a tree, if it is not in the way of a
directory. -/
theorem IsTree.put (tree : t.IsTree) (stands : t.lookup? home = some .directory)
    (is_name : Path.IsName name) {node : Node}
    (kept : t.lookup? (home ++ [name]) = some .directory → node = .directory) :
    (t.put (home ++ [name]) node).IsTree := by
  have put : ∀ k, (t.put (home ++ [name]) node).lookup? k =
      if k = home ++ [name] then some node else t.lookup? k := lookup?_put t (by simp) node
  constructor
  · intro k there found
    rw [put] at found
    split at found
    · subst k
      intro part mem
      rcases List.mem_append.mp mem with outer | last
      · exact tree.named home .directory stands part outer
      · rwa [List.mem_singleton.mp last]
    · exact tree.named k there found
  · intro k last there found
    rw [put] at found
    split at found
    · rename_i same
      obtain ⟨rfl, -⟩ := List.append_singleton_inj.mp same
      rw [put, if_neg (by simp), stands]
    · have outer := tree.rooted k last there found
      rw [put]
      split
      · subst k
        rw [kept outer]
      · exact outer

/-- Where a path leads to no directory, a node can be put. -/
theorem IsTree.put_of_resolve (tree : t.IsTree) {ending : Ending} {p : Path}
    (leads : t.resolve ending p = .ok ⟨l, n⟩) (other : n ≠ some .directory) (node : Node) :
    (t.put l node).IsTree := by
  obtain ⟨home, name, rfl, stands, is_name, -⟩ := tree.exists_of_resolve leads other
  refine tree.put stands is_name fun directory => ?_
  rw [lookup?_of_resolve leads] at directory
  exact absurd directory other

/-! ## Operations -/

theorem IsTree.writeBytes (tree : t.IsTree) (p : Path) (bytes : ByteArray) :
    (t.writeBytes p bytes).2.IsTree := by
  obtain ⟨l, free, leads, outcome⟩ | ⟨cause, outcome⟩ := writeBytes_cases t p bytes
  · rw [outcome]
    refine tree.put_of_resolve leads ?_ _
    rcases free with missing | ⟨before, file⟩
    · simp [missing]
    · simp [file]
  · rw [outcome]
    exact tree

theorem IsTree.makeDirectory (tree : t.IsTree) (p : Path) : (t.makeDirectory p).2.IsTree := by
  obtain ⟨l, leads, outcome⟩ | ⟨cause, outcome, -⟩ := makeDirectory_cases t p
  · rw [outcome]
    exact tree.put_of_resolve leads nofun _
  · rw [outcome]
    exact tree

theorem IsTree.ensureAll (tree : t.IsTree) (paths : List Path) : (t.ensureAll paths).2.IsTree := by
  induction paths with
  | nil => exact tree
  | cons p outer ih =>
    have made := tree.makeDirectory p
    rw [FileSystem.ensureAll]
    split
    · exact tree
    split
    · rename_i outcome
      rwa [outcome] at made
    · rcases around : t.ensureAll outer with ⟨_ | ⟨⟩, u⟩
      · rwa [around] at ih
      · rw [around] at ih
        have later := ih.makeDirectory p
        dsimp only
        split
        · rename_i outcome
          rwa [outcome] at later
        · split <;> exact ih
    · split <;> exact tree

theorem IsTree.copy (tree : t.IsTree) (source target : Path) : (t.copy source target).2.IsTree := by
  have opened := tree.writeBytes target ByteArray.empty
  rw [FileSystem.copy]
  split
  · exact tree
  · exact tree
  · exact tree
  · exact tree
  · split
    · rename_i outcome
      rwa [outcome] at opened
    · rename_i outcome
      rw [outcome] at opened
      split
      · exact opened.writeBytes target _
      · exact opened

/-- **One operation leaves a tree**, however it goes. -/
theorem IsTree.answer (tree : t.IsTree) (r : Request) : (t.answer r).2.IsTree := by
  cases r with
  | readText => exact tree
  | isFile => exact tree
  | visitsFrom => exact tree
  | note => exact tree
  | ensureDirectory path => exact tree.ensureAll path.lineage
  | writeText path text => exact tree.writeBytes path text.toUTF8
  | copy source target => exact tree.copy source target

/-! ## Setting up -/

/-- What is left of a tree is a tree. -/
theorem IsTree.prune (tree : t.IsTree) (l : Location) : (t.prune l).IsTree := by
  have left : ∀ k node, (t.prune l).lookup? k = some node →
      t.lookup? k = some node ∧ (k ≠ [] → ¬ l <+: k) := by
    intro k node found
    by_cases root : k = []
    · subst k
      exact ⟨found, fun ne => absurd rfl ne⟩
    · rw [lookup?_prune t l root] at found
      split at found
      · cases found
      · rename_i beside
        exact ⟨found, fun _ below => beside (List.isPrefixOf_iff_prefix.mpr below)⟩
  constructor
  · exact fun k node found => tree.named k node (left k node found).1
  · intro k name node found
    obtain ⟨there, beside⟩ := left _ node found
    have outer := tree.rooted k name node there
    by_cases root : k = []
    · subst k
      rfl
    · have apart : ¬ l.isPrefixOf k = true := fun below =>
        beside (by simp) ((List.isPrefixOf_iff_prefix.mp below).trans (List.prefix_append k [name]))
      rw [lookup?_prune t l root, if_neg apart, outer]

theorem IsTree.around (tree : t.IsTree) (p : Path) : (install.around p t).IsTree := by
  rw [install.around]
  cases p.parent? with
  | none => exact tree
  | some outer => exact tree.ensureAll outer.lineage

/-- A node that takes the place of what a path leads to, and of all that is below, leaves a tree.
At the root it is never found. -/
theorem IsTree.put_prune (tree : t.IsTree) {ending : Ending} {p : Path}
    (leads : t.resolve ending p = .ok ⟨l, n⟩) (node : Node) : ((t.prune l).put l node).IsTree := by
  have rest := tree.prune l
  obtain rfl | ⟨home, name, rfl⟩ := l.eq_nil_or_concat'
  · have same : ∀ k, ((t.prune []).put [] node).lookup? k = (t.prune []).lookup? k := by
      intro k
      by_cases root : k = []
      · simp only [lookup?, if_pos root]
      · simp only [lookup?, if_neg root, FileSystem.put, OrderedMap.get?_insert]
    constructor
    · intro k there found
      rw [same] at found
      exact rest.named k there found
    · intro k last there found
      rw [same] at found ⊢
      exact rest.rooted k last there found
  · obtain ⟨stands, is_name⟩ : t.lookup? home = some .directory ∧ Path.IsName name := by
      by_cases directory : n = some .directory
      · have there := lookup?_of_resolve leads
        rw [directory] at there
        exact ⟨tree.rooted home name _ there, tree.named _ _ there name (by simp)⟩
      · obtain ⟨home', name', same, stands, is_name, -⟩ := tree.exists_of_resolve leads directory
        obtain ⟨rfl, rfl⟩ := List.append_singleton_inj.mp same
        exact ⟨stands, is_name⟩
    refine rest.put ?_ is_name fun directory => ?_
    · by_cases root : home = []
      · subst home
        rfl
      · rw [lookup?_prune t _ root, stands, if_neg]
        exact fun below => by simpa using (List.isPrefixOf_iff_prefix.mp below).length_le
    · rw [lookup?_prune t _ (by simp), if_pos (List.isPrefixOf_iff_prefix.mpr List.prefix_rfl)]
        at directory
      cases directory

/-- **Installing a node** leaves a tree. -/
theorem IsTree.install (tree : t.IsTree) (p : Path) (node : Node) : (t.install p node).IsTree := by
  have around := tree.around p
  cases node with
  | directory => exact tree.ensureAll p.lineage
  | file bytes => exact around.writeBytes p bytes
  | link target =>
    rw [FileSystem.install]
    split
    · rename_i place leads
      exact around.put_prune leads _
    · exact around

theorem IsTree.remove (tree : t.IsTree) (p : Path) : (t.remove p).IsTree := by
  rw [FileSystem.remove]
  split
  · exact tree.prune _
  · exact tree

/-- **A bare file system is a tree**, if its working directory has proper names. -/
theorem isTree_bare {workDir : Location} (named : ∀ name ∈ workDir, Path.IsName name) :
    (bare workDir).IsTree := by
  -- Directory by directory, the last one that was made is there.
  have made : ∀ count ≤ workDir.length,
      let t : FileSystem := (List.range count).foldl
        (fun t n => t.put (workDir.take (n + 1)) .directory) ⟨.empty, workDir⟩
      t.IsTree ∧ t.lookup? (workDir.take count) = some .directory := by
    intro count le
    induction count with
    | zero => exact ⟨isTree_iff.mpr nofun, rfl⟩
    | succ count ih =>
      obtain ⟨tree, stands⟩ := ih (Nat.le_of_succ_le le)
      have further : workDir.take (count + 1) = workDir.take count ++ [workDir[count]] :=
        (List.take_concat_get' workDir count le).symm
      rw [List.range_succ, List.foldl_append, List.foldl_cons, List.foldl_nil, further]
      refine ⟨tree.put stands (named _ (List.getElem_mem le)) fun _ => rfl, ?_⟩
      have below : workDir.take count ++ [workDir[count]] ≠ [] :=
        List.append_ne_nil_of_right_ne_nil _ (List.cons_ne_nil _ [])
      rw [lookup?_put _ below, if_pos rfl]
  exact (made workDir.length le_rfl).1

end FileSystem

/-- **A program leaves a tree.** -/
theorem Program.isTree_run {α : Type} (program : Program α) (w : World) (tree : w.files.IsTree) :
    (program.run w).2.files.IsTree := by
  induction program generalizing w with
  | done => exact tree
  | ask r next ih =>
    have answered : (w.answer r).2.files.IsTree := by
      rw [show (w.answer r).2.files = (w.files.answer r).2 from congrArg Prod.snd (w.answer_eq r)]
      exact tree.answer r
    exact ih _ _ answered

end ReleaseBundle
