import ReleaseBundle.Proofs.KeptTree
import ReleaseBundle.Proofs.Tour
import ReleaseBundle.Proofs.ValidationResult

/-!
# Which files are orphans

The orphans below a watched directory are the files that a tour of it sees and nobody claims
(`Settings.Unclaimed`): the name of the file, where it is, is no text with a dot in front, and
its path is the root's components and then those of no named path.  They are told one by one, in
the order of the tour, with what their path says after the root.

No such file is lost.  Whatever a relative path is written like, it says what the root says
first (`Path.components_prefix_join`), and so do the paths of all files that are come upon from
it: each of them is below the root.  And a path that leads to a file ends in the file's name,
so a hidden file is known by its path (`FileSystem.ToursFrom.fileName?_eq`).

Two kinds of files are not treated as their names or their places suggest
(`Sample.dotted_octets_told_linked_file_passed`).  A dot in front does not hide a name
that is no text, and a file that a watched path leads to by a link is not seen.
-/

namespace ReleaseBundle

namespace Path

variable {p : Path}

/-- A path whose last segment is a name says it last. -/
theorem getLast?_components {last : Name} (ends : (segments p.spelling).getLast? = some last)
    (is_name : IsName last) : p.components.getLast? = some (.name last) := by
  have loud := is_name.idle
  have spoken : component? last = some (.name last) := by
    rw [component?, if_neg (by simp [loud]), if_neg is_name.down]
  have some_text : p.spelling ≠ [] := by
    intro empty
    rw [empty] at ends
    cases ends
    cases loud
  obtain ⟨init, split⟩ := List.getLast?_eq_some_iff.mp ends
  cases init with
  | nil =>
    obtain ⟨not_root, not_here⟩ := Bool.or_eq_false_iff.mp loud
    rw [components_of_segments split some_text, opening, if_neg (of_decide_eq_false not_root),
      if_neg (of_decide_eq_false not_here), spoken]
    rfl
  | cons first more =>
    rw [List.cons_append] at split
    rw [components_of_segments split some_text, List.filterMap_append, ← List.append_assoc,
      List.filterMap_cons_some spoken, List.filterMap_nil, List.getLast?_concat]

end Path

namespace FileSystem

variable {t : FileSystem} {start : Path} {l : Location} {seen : List Sighting} {f : Sighting}

/-- **A path to a file ends in its name.** -/
theorem IsTree.fileName?_of_resolve (tree : t.IsTree) {bytes : ByteArray}
    (leads : t.resolve .atLink start = .ok ⟨l, some (.file bytes)⟩) :
    start.fileName? = l.getLast? := by
  obtain ⟨home, name, rfl, -, is_name, last⟩ := tree.exists_of_resolve leads nofun
  rw [Path.fileName?, Path.getLast?_components (last rfl) is_name, List.getLast?_concat]

/-- What is seen from a path is at names behind it: at none if the path leads to a file. -/
theorem ToursFrom.exists_of_mem (h : t.ToursFrom start seen) (sound : t.Named) (mem : f ∈ seen) :
    ∃ names, (∀ name ∈ names, Path.IsName name) ∧ f.path = start.childBelow names := by
  cases h with
  | directory _ inside =>
    obtain ⟨names, named, path, -⟩ := inside.exists_of_mem sound mem
    exact ⟨names, named, path⟩
  | file => exact ⟨[], nofun, congrArg Sighting.path (List.mem_singleton.mp mem)⟩
  | nothing => cases mem

/-- **The path of a file that is seen ends in its name.** -/
theorem ToursFrom.fileName?_eq (h : t.ToursFrom start seen) (tree : t.IsTree) (mem : f ∈ seen) :
    f.path.fileName? = f.location.getLast? := by
  cases h with
  | @directory l _ leads inside =>
    obtain ⟨names, named, path, location, bytes, file⟩ := inside.exists_of_mem tree.named mem
    have ne : names ≠ [] := by
      rintro rfl
      rw [location, List.append_nil, lookup?_of_resolve leads] at file
      cases file
    obtain ⟨last, ends⟩ := List.getLast?_isSome.mpr ne |> Option.isSome_iff_exists.mp
    rw [Path.fileName?, path, Path.components_childBelow start named, location,
      List.getLast?_append, List.getLast?_append, List.getLast?_map, ends]
    rfl
  | file leads =>
    obtain rfl := List.mem_singleton.mp mem
    exact tree.fileName?_of_resolve leads
  | nothing => cases mem

/-- The name of a file that is seen is a text with a dot in front. -/
def Sighting.IsHidden (f : Sighting) : Prop :=
  ∃ rest : String, f.location.getLast? = some (octets ("." ++ rest))

theorem Sighting.isHidden_iff : f.IsHidden ↔ f.location.getLast?.any Path.isDotted = true := by
  rw [IsHidden, Option.any_eq_true]
  constructor
  · rintro ⟨rest, name⟩
    exact ⟨_, name, Path.isDotted_iff.mpr ⟨rest, rfl⟩⟩
  · rintro ⟨name, last, dotted⟩
    obtain ⟨rest, rfl⟩ := Path.isDotted_iff.mp dotted
    exact ⟨rest, last⟩

instance (f : Sighting) : Decidable f.IsHidden := decidable_of_iff' _ Sighting.isHidden_iff

theorem ToursFrom.isHidden_iff (h : t.ToursFrom start seen) (tree : t.IsTree) (mem : f ∈ seen) :
    f.path.isHidden = true ↔ f.IsHidden := by
  rw [Path.isHidden, h.fileName?_eq tree mem, Sighting.isHidden_iff]

end FileSystem

open FileSystem

namespace Settings

variable {s : Settings} {t : FileSystem} {named : List Path} {watched : Path}

/-! ## Orphans and their paths -/

/-- A file that is seen and that nobody claims: its name is no text with a dot in front, and its
path is none of the named ones, seen from the root. -/
def Unclaimed (s : Settings) (named : List Path) (f : Sighting) : Prop :=
  ¬ f.IsHidden ∧ ∀ p ∈ named, s.root.components ++ p.components ≠ f.path.components

instance (s : Settings) (named : List Path) (f : Sighting) : Decidable (s.Unclaimed named f) :=
  inferInstanceAs (Decidable (_ ∧ _))

/-- The problem that tells of a file: an orphan by what the file's path says after the root. -/
def Tells (s : Settings) (f : Sighting) (problem : Problem) : Prop :=
  ∃ q, problem = .orphan q ∧ f.path.below? s.root = some q ∧
    s.root.components ++ q.components = f.path.components

/-- The problems that tell of the unclaimed files below a watched directory, one for each, in
the order of the one tour there is. -/
def TellsOrphans (s : Settings) (t : FileSystem) (named : List Path) (watched : Path)
    (problems : List Problem) : Prop :=
  (∃ seen, t.ToursFrom (s.root.join watched) seen) ∧
    ∀ seen, t.ToursFrom (s.root.join watched) seen →
      List.Forall₂ s.Tells (seen.filter fun f => s.Unclaimed named f) problems

/-- The problem of a file that is come upon, if it is an orphan. -/
def orphan? (s : Settings) (named : List Path) (path : Path) : Option Problem :=
  if path.isHidden then none
  else
    match path.below? s.root with
    | none => none
    | some relative => if relative.isAmong named then none else some (.orphan relative)

theorem orphansAmong_eq (s : Settings) (named : List Path) (visits : List Visit) :
    s.orphansAmong named visits = (visits.filterMap Visit.file?).filterMap (s.orphan? named) := by
  rw [orphansAmong, List.filterMap_filterMap]
  congr 1
  funext visit
  cases visit <;> rfl

/-- **What is seen from a relative path is below the root.** -/
theorem exists_below_of_seen {seen : List Sighting} {f : Sighting}
    (tour : t.ToursFrom (s.root.join watched) seen) (sound : t.Named)
    (relative : watched.isAbsolute = false) (mem : f ∈ seen) :
    ∃ q, f.path.below? s.root = some q := by
  obtain ⟨names, are_names, path⟩ := tour.exists_of_mem sound mem
  apply Path.exists_below
  rw [path, Path.components_childBelow _ are_names]
  exact (Path.components_prefix_join s.root relative).trans (List.prefix_append _ _)

/-- Of the files below the root, an unclaimed one is told, and no other. -/
theorem orphan?_of_below {start q : Path} {seen : List Sighting} {f : Sighting}
    (tour : t.ToursFrom start seen) (tree : t.IsTree) (mem : f ∈ seen)
    (below : f.path.below? s.root = some q) :
    (s.Unclaimed named f → ∃ problem, s.orphan? named f.path = some problem ∧ s.Tells f problem) ∧
      (¬ s.Unclaimed named f → s.orphan? named f.path = none) := by
  have said := Path.components_below below
  have hidden := tour.isHidden_iff tree mem
  have claimed : q.isAmong named = true ↔
      ∃ p ∈ named, s.root.components ++ p.components = f.path.components := by
    rw [isAmong_iff]
    refine exists_congr fun p => and_congr_right fun _ => ?_
    rw [← said, List.append_cancel_left_eq, Path.SameAs, eq_comm]
  rw [orphan?, below]
  constructor
  · rintro ⟨shown, free⟩
    have unnamed : ¬ q.isAmong named = true := fun among => by
      obtain ⟨p, mem_p, same⟩ := claimed.mp among
      exact free p mem_p same
    rw [if_neg (mt hidden.mp shown)]
    exact ⟨.orphan q, by simp [unnamed], q, rfl, below, said⟩
  · intro known
    by_cases dotted : f.IsHidden
    · rw [if_pos (hidden.mpr dotted)]
    · have among : q.isAmong named = true := by
        by_contra unnamed
        exact known ⟨dotted, fun p mem_p same => unnamed (claimed.mpr ⟨p, mem_p, same⟩)⟩
      rw [if_neg (mt hidden.mp dotted)]
      simp [among]

/-- An unclaimed file is told, and no other. -/
theorem orphan?_of_seen {seen : List Sighting} {f : Sighting}
    (tour : t.ToursFrom (s.root.join watched) seen) (tree : t.IsTree)
    (relative : watched.isAbsolute = false) (mem : f ∈ seen) :
    (s.Unclaimed named f → ∃ problem, s.orphan? named f.path = some problem ∧ s.Tells f problem) ∧
      (¬ s.Unclaimed named f → s.orphan? named f.path = none) := by
  obtain ⟨q, below⟩ := exists_below_of_seen tour tree.named relative mem
  exact orphan?_of_below tour tree mem below

/-- What is told of some members of a list, and of no others, is told one by one. -/
theorem forall₂_filterMap {α β : Type} {P : α → Prop} [DecidablePred P] {R : α → β → Prop}
    {tell? : α → Option β} {list : List α}
    (h : ∀ a ∈ list, (P a → ∃ b, tell? a = some b ∧ R a b) ∧ (¬ P a → tell? a = none)) :
    List.Forall₂ R (list.filter fun a => P a) (list.filterMap tell?) := by
  induction list with
  | nil => exact .nil
  | cons a list ih =>
    obtain ⟨first, rest⟩ := List.forall_mem_cons.mp h
    by_cases holds : P a
    · obtain ⟨b, told, related⟩ := first.1 holds
      rw [List.filter_cons_of_pos (by simpa using holds), List.filterMap_cons_some told]
      exact .cons related (ih rest)
    · rw [List.filter_cons_of_neg (by simpa using holds),
        List.filterMap_cons_none (first.2 holds)]
      exact ih rest

/-- **The orphans of a walk are told exactly.** -/
theorem tellsOrphans_orphansAmong (s : Settings) (named : List Path) (tree : t.IsTree)
    (relative : watched.isAbsolute = false) :
    s.TellsOrphans t named watched
      (s.orphansAmong named (t.visitsFrom (s.root.join watched))) := by
  obtain ⟨seen, tour, files⟩ := tree.exists_toursFrom (s.root.join watched)
  refine ⟨⟨seen, tour⟩, fun seen' tour' => ?_⟩
  obtain rfl := tour.unique tour'
  rw [orphansAmong_eq, files, List.filterMap_map]
  exact forall₂_filterMap fun f mem => orphan?_of_seen tour tree relative mem

/-- **Orphans are exact.**  In a tree, the orphans below relative watched directories are told
directory by directory; below each there is one for every file that a tour of it sees and
nobody claims, in the order of the tour.  The files stay as they are, and if a validation does
not fail these are the orphans it finds, in this order and as often. -/
theorem orphans_are_exact (s : Settings) (w : World) (named dirs : List Path)
    (tree : w.files.IsTree) (relative : ∀ watched ∈ dirs, watched.isAbsolute = false) :
    ∃ told : List (List Problem), List.Forall₂ (s.TellsOrphans w.files named) dirs told ∧
      ((s.orphans named dirs).run w).1 = .ok told.flatten ∧
      ((s.orphans named dirs).run w).2.files = w.files ∧
      ∀ findings referenced, (s.validate.run w).1 = .ok findings →
        s.referencedFiles = .ok referenced → named = referenced ++ s.wrapperFiles →
          dirs = s.watchedDirs →
            ∃ missing unknown, findings.problems = missing ++ told.flatten ++ unknown ∧
              ∀ q, .orphan q ∉ missing ++ unknown := by
  refine ⟨dirs.map fun watched => s.orphansAmong named (w.files.visitsFrom (s.root.join watched)),
    ?_, ?_, ?_, ?_⟩
  · rw [List.forall₂_map_right_iff, List.forall₂_same]
    exact fun watched mem => s.tellsOrphans_orphansAmong named tree (relative watched mem)
  · rw [Attempt.run_fst, effect_orphans, List.flatMap_def]
  · rw [Attempt.files_run, effect_orphans]
  · rintro findings referenced valid known rfl rfl
    obtain ⟨referenced', known', rfl⟩ := exists_of_validate valid
    obtain rfl := Except.ok.inj (known.symm.trans known')
    exact ⟨_, s.unknownModules, rfl, s.orphan_not_mem w.files (referenced ++ s.wrapperFiles)⟩

end Settings

namespace Sample

/-- Writes scripts into directories, one of them hidden, and beside a directory of nearly the same
name.  The name of one script is hidden, and that of another is a dot and an octet that begins no
character. -/
def writing : Build Unit := do
  ensureDirectory ⟨"src/.hid"⟩
  ensureDirectory ⟨"src/a"⟩
  writeFile ⟨"src/.hid/b.js"⟩ "x"
  writeFile ⟨"src/.x.js"⟩ "x"
  writeFile ⟨"src/a.js"⟩ "x"
  writeFile ⟨"src/a/z.js"⟩ "x"
  writeFile ⟨octets "src/" ++ [dot, 0xFF]⟩ "x"

/-- What is left of this, where a link leads back to a directory. -/
def watchedTree : FileSystem :=
  (writing.run ⟨(bare []).install ⟨"src/l"⟩ (.link (octets "a")), []⟩).2.files

theorem isTree_watchedTree : watchedTree.IsTree := by
  have nothing : (bare []).IsTree := isTree_bare nofun
  exact Program.isTree_run _ _ (nothing.install ⟨"src/l"⟩ (.link (octets "a")))

/-- Watched directories that overlap, in several spellings, and a module with one file in two. -/
def watching : Settings where
  __ := Settings.default
  root := ⟨"./"⟩
  modules := [⟨"m", none, some ["src/./a.js", "src//a.js"], ⟨"src/a/z.js"⟩, ⟨"src/a/z.js"⟩⟩]
  watchedDirs := [⟨"src/"⟩, ⟨"./src/a/.."⟩, ⟨"src/l"⟩, ⟨""⟩]

/-- What nobody claims is told once for each directory: seen from "src/a/..", no file is claimed. -/
def watchedOrphans : List Problem :=
  [.orphan ⟨"src/.hid/b.js"⟩, .orphan ⟨octets "src/" ++ [dot, 0xFF]⟩,
    .orphan ⟨"src/a/../.hid/b.js"⟩, .orphan ⟨octets "src/a/../" ++ [dot, 0xFF]⟩,
    .orphan ⟨"src/a/../a/z.js"⟩, .orphan ⟨"src/a/../a.js"⟩, .orphan ⟨"src/l/z.js"⟩,
    .orphan ⟨"src/.hid/b.js"⟩, .orphan ⟨octets "src/" ++ [dot, 0xFF]⟩]

theorem orphans_are_exact_watched :
    watchedTree.IsTree ∧ (∀ watched ∈ watching.watchedDirs, watched.isAbsolute = false) ∧
      (watching.validate.run ⟨watchedTree, []⟩).1 = .ok ⟨2, watchedOrphans⟩ ∧
      watching.referencedFiles = .ok [⟨"src/./a.js"⟩] ∧
      ∃ told : List (List Problem),
        List.Forall₂ (watching.TellsOrphans watchedTree [⟨"src/./a.js"⟩, ⟨"src/a/z.js"⟩])
            watching.watchedDirs told ∧
        told.flatten = watchedOrphans ∧
        ((watching.orphans [⟨"src/./a.js"⟩, ⟨"src/a/z.js"⟩] watching.watchedDirs).run
            ⟨watchedTree, []⟩).2.files = watchedTree ∧
        ∃ missing unknown, watchedOrphans = missing ++ told.flatten ++ unknown ∧
          ∀ q, .orphan q ∉ missing ++ unknown := by
  have relative : ∀ watched ∈ watching.watchedDirs, watched.isAbsolute = false := by decide
  have known : watching.referencedFiles = .ok [⟨"src/./a.js"⟩] := by cbv
  have wraps : [⟨"src/./a.js"⟩, ⟨"src/a/z.js"⟩] =
      [(⟨"src/./a.js"⟩ : Path)] ++ watching.wrapperFiles := by decide
  have missing : watching.missingIn watchedTree [⟨"src/./a.js"⟩, ⟨"src/a/z.js"⟩] = [] := by cbv
  have orphans : watching.orphansIn watchedTree [⟨"src/./a.js"⟩, ⟨"src/a/z.js"⟩] =
      watchedOrphans := by cbv
  have found : watching.findingsIn watchedTree [⟨"src/./a.js"⟩] = ⟨2, watchedOrphans⟩ := by
    rw [Settings.findingsIn, ← wraps, missing, orphans]
    rfl
  have valid : (watching.validate.run ⟨watchedTree, []⟩).1 = .ok ⟨2, watchedOrphans⟩ := by
    rw [Attempt.run_fst, Settings.effect_validate, known]
    exact congrArg Except.ok found
  obtain ⟨told, tells, ran, kept, reported⟩ := watching.orphans_are_exact ⟨watchedTree, []⟩
    [⟨"src/./a.js"⟩, ⟨"src/a/z.js"⟩] watching.watchedDirs isTree_watchedTree relative
  have same : told.flatten = watchedOrphans := by
    rw [Attempt.run_fst, Settings.effect_orphans] at ran
    exact (Except.ok.inj ran).symm.trans orphans
  exact ⟨isTree_watchedTree, relative, valid, known, told, tells, same, kept,
    reported _ _ valid known wraps rfl⟩

/-- A script, and a link that leads to it. -/
def linkedTree : FileSystem :=
  ((bare []).put [octets "f.js"] (.file "x".toUTF8)).put [octets "l"] (.link (octets "f.js"))

/-- **Not every name with a dot in front hides its file, and not every file that a watched path
leads to is told.**  The octets of a name that is no text hide nothing, and a link to a file is not
followed. -/
theorem dotted_octets_told_linked_file_passed :
    (¬ ∀ (s : Settings) (w : World) (dirs : List Path) (orphans : List Problem), w.files.IsTree →
      (∀ watched ∈ dirs, watched.isAbsolute = false) →
        ((s.orphans [] dirs).run w).1 = .ok orphans →
          ∀ q name, .orphan q ∈ orphans → q.fileName? = some name → name.head? ≠ some dot) ∧
    ¬ ∀ (s : Settings) (w : World) (watched : Path), w.files.IsTree →
      watched.isAbsolute = false → w.files.isFile (s.root.join watched) = true →
        (s.root.join watched).isHidden = false →
          ∃ q, ((s.orphans [] [watched]).run w).1 = .ok [.orphan q] := by
  constructor
  · intro hidden
    have told : ((watching.orphans [] [⟨"src"⟩]).run ⟨watchedTree, []⟩).1 =
        .ok [.orphan ⟨"src/.hid/b.js"⟩, .orphan ⟨octets "src/" ++ [dot, 0xFF]⟩,
          .orphan ⟨"src/a/z.js"⟩, .orphan ⟨"src/a.js"⟩] := by
      rw [Attempt.run_fst, Settings.effect_orphans]
      cbv
    exact hidden watching ⟨watchedTree, []⟩ [⟨"src"⟩] _ isTree_watchedTree (by decide) told
      ⟨octets "src/" ++ [dot, 0xFF]⟩ [dot, 0xFF] (by simp) (by decide) rfl
  · intro seen
    have file : linkedTree.isFile (Settings.default.root.join ⟨"l"⟩) = true := by cbv
    have nothing : ((Settings.default.orphans [] [⟨"l"⟩]).run ⟨linkedTree, []⟩).1 = .ok [] := by
      rw [Attempt.run_fst, Settings.effect_orphans]
      cbv
    obtain ⟨q, told⟩ := seen Settings.default ⟨linkedTree, []⟩ ⟨"l"⟩ (by decide) (by decide) file
      (by decide)
    cases nothing.symm.trans told

end Sample

end ReleaseBundle
