import ReleaseBundle.Proofs.ExactOrphans

/-!
# What a validation reports

A validation fails if a group of the manifest does not expand, and tells of the first that does
not.  Else it holds two lists against the files: the source files and the wrapping files, each in
the first spelling of its path (`FirstSpellings`).  A file may be on both lists, and is then
checked twice.  All that is wrong is reported, in this order: what is missing of the two lists,
the orphans below each watched directory, and the unknown modules, as often as they are listed
(`Settings.validation_reports_exactly`).

A watched directory need not be relative here.  What is seen from it may then be anywhere, and
is an orphan only if it is below the root (`Settings.IsOrphan`).
-/

namespace ReleaseBundle

open FileSystem

/-! ## First spellings -/

/-- What is left of paths that are taken one after the other: each that no earlier one is the
same as. -/
inductive FirstSpellings : List Path → List Path → Prop
  | nil : FirstSpellings [] []
  | fresh {paths kept : List Path} {p : Path} (earlier : FirstSpellings paths kept)
      (new : ∀ q ∈ paths, ¬ p.SameAs q) : FirstSpellings (paths ++ [p]) (kept ++ [p])
  | again {paths kept : List Path} {p : Path} (earlier : FirstSpellings paths kept)
      (known : ∃ q ∈ paths, p.SameAs q) : FirstSpellings (paths ++ [p]) kept

theorem mem_of_mem_distinctPaths {paths : List Path} {p : Path} (mem : p ∈ distinctPaths paths) :
    p ∈ paths := by
  induction paths using List.reverseRecOn with
  | nil => cases mem
  | append_singleton paths last ih =>
    rw [distinctPaths_concat] at mem
    split at mem
    · exact List.mem_append_left _ (ih mem)
    · rcases List.mem_append.mp mem with mem | mem
      · exact List.mem_append_left _ (ih mem)
      · exact List.mem_append_right _ mem

/-- A path is the same as one of the distinct paths if it is the same as any. -/
theorem isAmong_distinctPaths_iff {paths : List Path} {p : Path} :
    p.isAmong (distinctPaths paths) = true ↔ ∃ q ∈ paths, p.SameAs q := by
  rw [isAmong_iff]
  constructor
  · rintro ⟨q, mem, same⟩
    exact ⟨q, mem_of_mem_distinctPaths mem, same⟩
  · rintro ⟨q, mem, same⟩
    obtain ⟨r, kept, same'⟩ := exists_sameAs_of_mem mem
    exact ⟨r, kept, same.trans same'⟩

/-- **The distinct paths are the first spellings**, and these are the only ones. -/
theorem firstSpellings_iff {paths kept : List Path} :
    FirstSpellings paths kept ↔ kept = distinctPaths paths := by
  constructor
  · intro first
    induction first with
    | nil => rfl
    | @fresh paths kept p _ new ih =>
      have unknown : ¬ p.isAmong (distinctPaths paths) = true := fun among => by
        obtain ⟨q, mem, same⟩ := isAmong_distinctPaths_iff.mp among
        exact new q mem same
      rw [distinctPaths_concat, if_neg unknown, ih]
    | again _ known ih =>
      rw [distinctPaths_concat, if_pos (isAmong_distinctPaths_iff.mpr known), ih]
  · rintro rfl
    induction paths using List.reverseRecOn with
    | nil => exact .nil
    | append_singleton paths p ih =>
      rw [distinctPaths_concat]
      split
      next among => exact .again ih (isAmong_distinctPaths_iff.mp among)
      next unknown =>
        exact .fresh ih fun q mem same => unknown (isAmong_distinctPaths_iff.mpr ⟨q, mem, same⟩)

/-! ## The first group that does not expand -/

theorem map_eq_error_iff {α β : Type} {f : α → β} {found : Except BuildError α} {e : BuildError} :
    found.map f = .error e ↔ found = .error e := by
  cases found with
  | error cause => simp [Except.map]
  | ok a => simp [Except.map]

namespace Manifest

variable {m : Manifest} {label : String} {groups files : List String} {e : BuildError}

/-- The first of several groups that does not expand, with the error that is told of it. -/
def FirstFails (m : Manifest) (label : String) (groups : List String) (e : BuildError) : Prop :=
  ∃ before group after, groups = before ++ group :: after ∧
    (∀ g ∈ before, ∃ files, m.Expands g files) ∧ m.filesFor label group = .error e

/-- **The first group that does not expand is told.** -/
theorem filesForAll_eq_error_iff :
    m.filesForAll label groups = .error e ↔ m.FirstFails label groups e := by
  induction groups with
  | nil => simp [filesForAll, FirstFails]
  | cons group groups ih =>
    rw [filesForAll]
    constructor
    · intro failed
      cases first : m.filesFor label group with
      | error cause =>
        rw [first] at failed
        cases failed
        exact ⟨[], group, groups, rfl, List.forall_mem_nil _, first⟩
      | ok part =>
        cases rest : m.filesForAll label groups with
        | ok others =>
          rw [first, rest] at failed
          cases failed
        | error cause =>
          rw [first, rest] at failed
          cases failed
          obtain ⟨before, g, after, rfl, expand, fails⟩ := ih.mp rest
          have expands := expands_of_filesFor first
          exact ⟨group :: before, g, after, rfl, List.forall_mem_cons.mpr ⟨⟨part, expands⟩, expand⟩,
            fails⟩
    · rintro ⟨before, g, after, split, expand, fails⟩
      cases before with
      | nil =>
        obtain ⟨rfl, rfl⟩ := List.cons.inj split
        rw [fails]
        rfl
      | cons g' before =>
        obtain ⟨rfl, rfl⟩ := List.cons.inj split
        obtain ⟨⟨part, expands⟩, expand⟩ := List.forall_mem_cons.mp expand
        rw [filesFor_of_expands label expands, ih.mpr ⟨before, g, after, rfl, expand, fails⟩]
        rfl

end Manifest

namespace Settings

variable {s : Settings} {t : FileSystem} {named : List Path} {watched : Path}

/-! ## Orphans below any watched directory -/

/-- A file that is seen and is an orphan: it is below the root, and nobody claims it. -/
def IsOrphan (s : Settings) (named : List Path) (f : Sighting) : Prop :=
  s.root.components <+: f.path.components ∧ s.Unclaimed named f

instance (s : Settings) (named : List Path) (f : Sighting) : Decidable (s.IsOrphan named f) :=
  inferInstanceAs (Decidable (_ ∧ _))

/-- The problems that tell of the orphans below a watched directory, absolute or not, one for
each, in the order of the one tour there is. -/
def ReportsOrphans (s : Settings) (t : FileSystem) (named : List Path) (watched : Path)
    (problems : List Problem) : Prop :=
  (∃ seen, t.ToursFrom (s.root.join watched) seen) ∧
    ∀ seen, t.ToursFrom (s.root.join watched) seen →
      List.Forall₂ s.Tells (seen.filter fun f => s.IsOrphan named f) problems

theorem Tells.unique {f : Sighting} {problem problem' : Problem} (h : s.Tells f problem)
    (h' : s.Tells f problem') : problem = problem' := by
  obtain ⟨q, rfl, below, -⟩ := h
  obtain ⟨q', rfl, below', -⟩ := h'
  rw [Option.some.inj (below.symm.trans below')]

theorem ReportsOrphans.unique {problems problems' : List Problem}
    (h : s.ReportsOrphans t named watched problems)
    (h' : s.ReportsOrphans t named watched problems') : problems = problems' := by
  obtain ⟨⟨seen, tour⟩, told⟩ := h
  have one : Relator.RightUnique s.Tells := fun _ _ _ tells tells' => tells.unique tells'
  exact one.forall₂ (told seen tour) (h'.2 seen tour)

/-- **The orphans of a walk are reported exactly**, from an absolute directory, too. -/
theorem reportsOrphans_orphansAmong (s : Settings) (named : List Path) (watched : Path)
    (tree : t.IsTree) :
    s.ReportsOrphans t named watched
      (s.orphansAmong named (t.visitsFrom (s.root.join watched))) := by
  obtain ⟨seen, tour, files⟩ := tree.exists_toursFrom (s.root.join watched)
  refine ⟨⟨seen, tour⟩, fun seen' tour' => ?_⟩
  obtain rfl := tour.unique tour'
  rw [orphansAmong_eq, files, List.filterMap_map]
  refine forall₂_filterMap fun f mem => ?_
  cases below : f.path.below? s.root with
  | some q =>
    have inside : s.root.components <+: f.path.components :=
      ⟨q.components, Path.components_below below⟩
    have orphan_iff : s.IsOrphan named f ↔ s.Unclaimed named f := and_iff_right inside
    rw [orphan_iff]
    exact orphan?_of_below tour tree mem below
  | none =>
    refine ⟨fun orphan => ?_, fun _ => by simp [orphan?, below]⟩
    obtain ⟨q, found⟩ := Path.exists_below orphan.1
    cases below.symm.trans found

/-! ## The report -/

/-- The source files that the configuration names, in the first spelling of their paths: the
files of all groups, in order, and then those that are listed by modules. -/
def NamesSources (s : Settings) (sources : List Path) : Prop :=
  ∃ parts, List.Forall₂ s.groups.Expands s.groups.names parts ∧
    FirstSpellings ((parts.flatten ++ s.modules.flatMap fun d => d.files?.getD []).map Path.ofText)
      sources

/-- The wrapping files that the configuration names, in the first spelling of their paths. -/
def NamesWrappers (s : Settings) (wrappers : List Path) : Prop :=
  FirstSpellings (s.modules.flatMap fun d => [d.header, d.footer]) wrappers

/-- What a validation reports of the source files and the wrapping files, and of what else there
is in a tree. -/
structure Reports (s : Settings) (t : FileSystem) (sources wrappers : List Path)
    (findings : Findings) : Prop where
  checkedFiles : findings.checkedFiles = sources.length + wrappers.length
  problems : ∃ told, List.Forall₂ (s.ReportsOrphans t (sources ++ wrappers)) s.watchedDirs told ∧
    findings.problems =
      ((sources ++ wrappers).filter fun p => !t.isFile (s.root.join p)).map .missingFile ++
        told.flatten ++
        ((s.testBundles.modules ++ s.projections.flatMap Projection.modules).filter fun module =>
          module ∉ s.modules.map ModuleDecl.name).map .unknownModule

theorem referencedFiles_eq_ok_iff {sources : List Path} :
    s.referencedFiles = .ok sources ↔ s.NamesSources sources := by
  rw [referencedFiles, NamesSources]
  constructor
  · intro known
    cases all : s.groups.filesForAll manifestLabel s.groups.names with
    | error e =>
      rw [all] at known
      cases known
    | ok grouped =>
      rw [all] at known
      cases known
      obtain ⟨parts, expands, rfl⟩ := Manifest.filesForAll_eq_ok_iff.mp all
      exact ⟨parts, expands, firstSpellings_iff.mpr rfl⟩
  · rintro ⟨parts, expands, first⟩
    rw [Manifest.filesForAll_eq_ok_iff.mpr ⟨parts, expands, rfl⟩, firstSpellings_iff.mp first]
    rfl

theorem referencedFiles_eq_error_iff {e : BuildError} :
    s.referencedFiles = .error e ↔ s.groups.FirstFails manifestLabel s.groups.names e := by
  rw [← Manifest.filesForAll_eq_error_iff]
  exact map_eq_error_iff

theorem unknownModules_eq (s : Settings) :
    s.unknownModules =
      ((s.testBundles.modules ++ s.projections.flatMap Projection.modules).filter fun module =>
        module ∉ s.modules.map ModuleDecl.name).map .unknownModule := by
  rw [unknownModules, allProjections, List.flatMap_cons, ← List.filterMap_eq_map,
    List.filterMap_filter]
  refine List.filterMap_congr fun module _ => ?_
  by_cases known : module ∈ s.modules.map ModuleDecl.name
  · have declared : (s.modules.any fun d => d.name = module) = true := by simpa using known
    simp [known, declared]
  · have nobody : (s.modules.any fun d => d.name = module) = false := by simpa using known
    simp [known, nobody]

/-- **The findings are what is reported**, and nothing else is. -/
theorem reports_iff (tree : t.IsTree) {sources : List Path} {findings : Findings} :
    s.Reports t sources s.wrapperFiles findings ↔ findings = s.findingsIn t sources := by
  let told := s.watchedDirs.map fun watched =>
    s.orphansAmong (sources ++ s.wrapperFiles) (t.visitsFrom (s.root.join watched))
  have orphans : List.Forall₂ (s.ReportsOrphans t (sources ++ s.wrapperFiles)) s.watchedDirs told :=
    List.forall₂_map_right_iff.mpr <| List.forall₂_same.mpr fun watched _ =>
      s.reportsOrphans_orphansAmong (sources ++ s.wrapperFiles) watched tree
  have found : (s.findingsIn t sources).problems =
      ((sources ++ s.wrapperFiles).filter fun p => !t.isFile (s.root.join p)).map .missingFile ++
        told.flatten ++
        ((s.testBundles.modules ++ s.projections.flatMap Projection.modules).filter fun module =>
          module ∉ s.modules.map ModuleDecl.name).map .unknownModule := by
    rw [← unknownModules_eq, ← List.flatMap_def]
    rfl
  constructor
  · rintro ⟨count, told', orphans', problems⟩
    have one : Relator.RightUnique (s.ReportsOrphans t (sources ++ s.wrapperFiles)) :=
      fun _ _ _ reports reports' => reports.unique reports'
    obtain rfl := one.forall₂ orphans' orphans
    have counted : findings.checkedFiles = (s.findingsIn t sources).checkedFiles :=
      count.trans List.length_append.symm
    cases findings
    cases counted
    cases problems.trans found.symm
    rfl
  · rintro rfl
    exact ⟨List.length_append, told, orphans, found⟩

/-- **The report is exact.**  In a tree, a validation fails exactly if some group does not expand,
used or not, and tells of the first one.  Else it reports what is to be reported of the source
files and the wrapping files that the configuration names: how many they are, and every problem
there is, each in its place and as often as it arises.  The files stay as they are. -/
theorem validation_reports_exactly (s : Settings) (w : World) (tree : w.files.IsTree) :
    (s.validate.run w).2.files = w.files ∧
      (∀ e, (s.validate.run w).1 = .error e ↔
        s.groups.FirstFails "<manifest>" s.groups.names e) ∧
      ((∃ e, (s.validate.run w).1 = .error e) ↔
        ∃ group ∈ s.groups.names, ¬ ∃ files, s.groups.Expands group files) ∧
      ∀ findings, (s.validate.run w).1 = .ok findings ↔
        ∃ sources wrappers, s.NamesSources sources ∧ s.NamesWrappers wrappers ∧
          s.Reports w.files sources wrappers findings := by
  have result : (s.validate.run w).1 = s.referencedFiles.map (s.findingsIn w.files) := by
    rw [Attempt.run_fst, effect_validate]
  have fails : ∀ e, (s.validate.run w).1 = .error e ↔
      s.groups.FirstFails manifestLabel s.groups.names e := by
    intro e
    rw [← referencedFiles_eq_error_iff, result, map_eq_error_iff]
  refine ⟨by rw [Attempt.files_run, effect_validate], fails, ?_, fun findings => ?_⟩
  · have unsound : (∃ e, (s.validate.run w).1 = .error e) ↔ ¬ s.groups.Sound := by
      rw [← exists_referencedFiles_iff_sound, result]
      cases s.referencedFiles with
      | error cause => exact ⟨fun _ => nofun, fun _ => ⟨cause, rfl⟩⟩
      | ok sources => exact ⟨nofun, fun unknown => absurd ⟨sources, rfl⟩ unknown⟩
    simpa only [Manifest.Sound, not_forall, exists_prop] using unsound
  · rw [result]
    constructor
    · intro valid
      cases known : s.referencedFiles with
      | error cause =>
        rw [known] at valid
        cases valid
      | ok sources =>
        rw [known] at valid
        cases valid
        exact ⟨sources, s.wrapperFiles, referencedFiles_eq_ok_iff.mp known,
          firstSpellings_iff.mpr rfl, (reports_iff tree).mpr rfl⟩
    · rintro ⟨sources, wrappers, known, wraps, reports⟩
      obtain rfl : wrappers = s.wrapperFiles := firstSpellings_iff.mp wraps
      rw [referencedFiles_eq_ok_iff.mpr known, (reports_iff tree).mp reports]
      rfl

end Settings

namespace Sample

/-- One group refers to the other, and names a file in another spelling; the module lists a file
that is not there, in a third one, and is wrapped in it, too.  Nobody declares what two
projections list, and one watched directory is absolute. -/
def reporting : Settings where
  __ := Settings.default
  root := ⟨"./"⟩
  groups := ⟨.ofList [("all", ["@some", "src//a.js"]), ("some", ["src/a.js", "src/b.js"])]⟩
  modules := [⟨"m", some "all", some ["src/./b.js"], ⟨"src/a/z.js"⟩, ⟨"src/b.js"⟩⟩]
  testBundles := ⟨Settings.testBundlesDir, ["m", "n"], false⟩
  projections := [⟨⟨"out"⟩, ["n"], true⟩]
  watchedDirs := [⟨"src"⟩, ⟨"/src"⟩]

theorem namesSources_reporting : reporting.NamesSources [⟨"src/a.js"⟩, ⟨"src/b.js"⟩] := by
  have all : reporting.groups.filesForAll Settings.manifestLabel reporting.groups.names =
      .ok ["src/a.js", "src/b.js", "src//a.js", "src/a.js", "src/b.js"] := by cbv
  rw [← Settings.referencedFiles_eq_ok_iff, Settings.referencedFiles, all]
  exact congrArg Except.ok (by decide +kernel)

theorem wrapperFiles_reporting :
    reporting.wrapperFiles = [⟨"src/a/z.js"⟩, ⟨"src/b.js"⟩] := by decide +kernel

/-- What is wrong: the file that is not there, once as a source and once as a wrapping file, two
files that nobody names, and the module that two projections list. -/
def reported : Findings :=
  ⟨4, [.missingFile ⟨"src/b.js"⟩, .missingFile ⟨"src/b.js"⟩, .orphan ⟨"src/.hid/b.js"⟩,
    .orphan ⟨octets "src/" ++ [dot, 0xFF]⟩, .unknownModule "n", .unknownModule "n"]⟩

theorem reports_reporting :
    reporting.Reports watchedTree [⟨"src/a.js"⟩, ⟨"src/b.js"⟩] [⟨"src/a/z.js"⟩, ⟨"src/b.js"⟩]
      reported := by
  have found : reported = reporting.findingsIn watchedTree [⟨"src/a.js"⟩, ⟨"src/b.js"⟩] := by
    rw [Settings.findingsIn, wrapperFiles_reporting]
    cbv
  rw [← wrapperFiles_reporting]
  exact (Settings.reports_iff isTree_watchedTree).mpr found

theorem validation_reports_exactly_reporting :
    watchedTree.IsTree ∧ reporting.NamesSources [⟨"src/a.js"⟩, ⟨"src/b.js"⟩] ∧
      reporting.NamesWrappers [⟨"src/a/z.js"⟩, ⟨"src/b.js"⟩] ∧
      reporting.Reports watchedTree [⟨"src/a.js"⟩, ⟨"src/b.js"⟩] [⟨"src/a/z.js"⟩, ⟨"src/b.js"⟩]
        reported ∧
      (reporting.validate.run ⟨watchedTree, []⟩).1 = .ok reported ∧
      (reporting.validate.run ⟨watchedTree, []⟩).2.files = watchedTree ∧
      (∀ group ∈ reporting.groups.names, ∃ files, reporting.groups.Expands group files) ∧
      ¬ ∃ e, reporting.groups.FirstFails "<manifest>" reporting.groups.names e := by
  obtain ⟨kept, fails, unsound, reports⟩ :=
    reporting.validation_reports_exactly ⟨watchedTree, []⟩ isTree_watchedTree
  have wraps : reporting.NamesWrappers [⟨"src/a/z.js"⟩, ⟨"src/b.js"⟩] :=
    firstSpellings_iff.mpr wrapperFiles_reporting.symm
  have valid : (reporting.validate.run ⟨watchedTree, []⟩).1 = .ok reported :=
    (reports reported).mpr ⟨_, _, namesSources_reporting, wraps, reports_reporting⟩
  have sound : ¬ ∃ e, (reporting.validate.run ⟨watchedTree, []⟩).1 = .error e := by
    rintro ⟨e, failed⟩
    cases failed.symm.trans valid
  refine ⟨isTree_watchedTree, namesSources_reporting, wraps, reports_reporting, valid, kept, ?_, ?_⟩
  · simpa using fun unknown => sound (unsound.mpr unknown)
  · exact fun ⟨e, first⟩ => sound ⟨e, (fails e).mpr first⟩

end Sample

end ReleaseBundle
