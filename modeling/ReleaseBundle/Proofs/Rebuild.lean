import ReleaseBundle.Proofs.FaithfulCopies
import ReleaseBundle.Proofs.KnownModules
import ReleaseBundle.Proofs.Retracing

/-!
# Building again

A build in turn that has succeeded can be run again from the tree that it left: it reports the
same and leaves the same tree (`rebuild_changes_nothing`).  It takes no more than that no
source is a file which the build writes, and that projections list configured
modules.  Artifacts may be written over by those of other modules and by copies, and
projections may copy files onto themselves: the second run does all of it once more, in
the same order.
-/

namespace ReleaseBundle

open FileSystem

variable {F : FileSystem} {writes needs : Path → Prop}

/-! ## Modules -/

theorem repeats_read {p : Path} {failure : IoError → BuildError}
    (unwritten : ∀ l, F.LeadsTo p l → ¬ F.Reached writes l) :
    (Attempt.orFail (Attempt.request (.readText p)) failure).Repeats F writes needs
      fun _ => False := by
  have within : (Attempt.request (.readText p) : Build _).Within writes fun _ => True :=
    .request (r := .readText p) trivial
  refine .orFail (fun t => (t.readText p, t)) (fun t => Attempt.effect_request _ t) within ?_
  intro u u' v S text read ahead r _
  obtain ⟨found, rfl⟩ := Prod.mk.inj read
  exact ⟨S, v, by rw [r.readText found unwritten], r, fun _ => id, fun _ => False.elim⟩

theorem repeats_ensureDirectory (dir : Path) :
    (ensureDirectory dir).Repeats F writes needs fun _ => False := by
  have within : (Attempt.request (.ensureDirectory dir) : Build _).Within writes fun _ => True :=
    .request (r := .ensureDirectory dir) trivial
  refine .orFail (·.ensureDirectory dir) (fun t => Attempt.effect_request _ t) within ?_
  intro u u' v S _ ensured ahead r _
  obtain ⟨again, r'⟩ := r.ensureDirectory ensured ahead
  exact ⟨S, v, again, r', fun _ => id, fun _ => False.elim⟩

theorem repeats_writeFile {path : Path} (among : writes path) (text : String) :
    (writeFile path text).Repeats F writes needs fun p => p = path := by
  have within : (Attempt.request (.writeText path text) : Build _).Within writes fun _ => True :=
    .request (r := .writeText path text) among
  have wrote : (Attempt.orFail (Attempt.request (.writeText path text))
      (BuildError.unwritable path)).Repeats F writes needs fun p => p = path := by
    refine .orFail (·.writeText path text) (fun t => Attempt.effect_request _ t) within ?_
    intro u u' v S _ wrote ahead r _
    obtain ⟨l, v', again, leads, r'⟩ := r.writeText wrote ahead fun l leads => ⟨path, among, leads⟩
    refine ⟨_, v', again, r', fun _ => Or.inr, ?_⟩
    rintro _ rfl
    exact ⟨l, leads, Or.inl rfl⟩
  exact (wrote.bind fun _ => .note _).mono (fun _ => id) fun _ => Or.inl

theorem repeats_readAll {paths : List Path}
    (unwritten : ∀ p ∈ paths, ∀ l, F.LeadsTo p l → ¬ F.Reached writes l) :
    (Bundle.readAll paths).Repeats F writes needs fun _ => False := by
  induction paths with
  | nil => exact .pure []
  | cons p paths ih =>
    refine (repeats_read (unwritten p List.mem_cons_self)).andThen fun _ => ?_
    exact (ih fun q mem => unwritten q (List.mem_cons_of_mem p mem)).andThen fun _ => .pure _

theorem repeats_assemble {b : Bundle} {root : Path} (version : Version)
    (unwritten : ∀ p, b.Reads p → ∀ l, F.LeadsTo (root.join p) l → ¬ F.Reached writes l) :
    (b.assemble root version).Repeats F writes needs fun _ => False := by
  refine Attempt.Repeats.andThen (.andThen (repeats_readAll ?_) fun _ => ?_) fun _ => ?_
  · intro p mem
    obtain ⟨q, read, rfl⟩ := List.mem_map.mp mem
    exact unwritten q (Bundle.mem_readOrder_iff.mp read)
  · exact (Attempt.Repeats.note _).andThen fun _ => .pure _
  · exact (Attempt.Repeats.notes _).andThen fun _ => .pure _

theorem repeats_finalize {module : String} {outDir : Path}
    (among : ∀ name ∈ artifactNames module, writes (outDir.child name)) (script : String)
    (minify : Minifier) :
    (finalize module script outDir minify).Repeats F writes needs
      fun p => ∃ name ∈ artifactNames module, p = outDir.child name := by
  have file : ∀ {needs : Path → Prop}, ∀ name ∈ artifactNames module, ∀ text,
      (writeFile (outDir.child name) text).Repeats F writes needs fun p => p = outDir.child name :=
    fun name artifact text => repeats_writeFile (among name artifact) text
  refine (repeats_ensureDirectory outDir).andThen fun _ => ?_
  refine ((file _ (by simp [artifactNames]) script).bind fun _ =>
    show Attempt.Repeats F writes _ (fun p => p = outDir.child (minName module) ∨
      p = outDir.child (mapName module)) _ from ?_).mono (fun _ => id) ?_
  · split
    · exact .throw _
    · refine ((file _ (by simp [artifactNames]) _).bind fun _ =>
        (file _ (by simp [artifactNames]) _).bind fun _ =>
          (Attempt.Repeats.note _).andThen fun _ => .pure _).mono (fun _ => id) fun p => ?_
      exact Or.imp_right Or.inl
  · rintro _ ⟨name, artifact, rfl⟩
    obtain rfl | rfl | rfl := Settings.mem_artifactNames_cases artifact
    · exact Or.inl rfl
    · exact Or.inr (Or.inl rfl)
    · exact Or.inr (Or.inr rfl)

namespace Settings

variable {s : Settings} {minify : Minifier} {bundles : List Bundle}

theorem repeats_pipeline {b : Bundle}
    (unwritten : ∀ p, b.Reads p → ∀ l, F.LeadsTo (s.root.join p) l → ¬ F.Reached writes l)
    (among : ∀ name ∈ artifactNames b.name, writes (s.outputDir.child name)) :
    (s.pipeline minify b).Repeats F writes needs
      fun p => ∃ name ∈ artifactNames b.name, p = s.outputDir.child name :=
  (Attempt.Repeats.note _).andThen fun _ => (repeats_assemble _ unwritten).andThen fun script =>
    repeats_finalize among script minify

/-- Modules one after the other, whatever they write over each other's artifacts. -/
theorem repeats_buildInTurn
    (unwritten : ∀ b ∈ bundles, ∀ p, b.Reads p → ∀ l, F.LeadsTo (s.root.join p) l →
      ¬ F.Reached writes l)
    (among : ∀ p, s.ArtifactPath bundles p → writes p) :
    (s.buildInTurn minify bundles).Repeats F writes needs (s.ArtifactPath bundles) := by
  induction bundles generalizing needs with
  | nil => exact (Attempt.Repeats.pure []).mono (fun _ => id) fun p ⟨b, mem, _⟩ => nomatch mem
  | cons b bundles ih =>
    have first : ∀ {needs}, (s.pipeline minify b).Repeats F writes needs _ :=
      repeats_pipeline (unwritten b List.mem_cons_self) fun name artifact =>
        among _ ⟨b, List.mem_cons_self, name, artifact, rfl⟩
    have rest : ∀ {needs}, (s.buildInTurn minify bundles).Repeats F writes needs _ :=
      ih (fun c mem => unwritten c (List.mem_cons_of_mem b mem))
        fun p ⟨c, mem, path⟩ => among p ⟨c, List.mem_cons_of_mem b mem, path⟩
    refine (first.bind fun _ => rest.bind fun _ => .pure _).mono (fun _ => id) ?_
    rintro p ⟨c, mem, path⟩
    rcases List.mem_cons.mp mem with rfl | mem
    · exact Or.inl path
    · exact Or.inr (Or.inl ⟨c, mem, path⟩)

end Settings

/-! ## Projections -/

namespace Projection

theorem repeats_checkSources (copies : List FileCopy) :
    (checkSources copies).Repeats F writes needs fun _ => False where
  within := within_checkSources copies
  again {u u' v S _} checked ahead r _ := by
    obtain ⟨rfl, found⟩ := effect_checkSources checked
    refine ⟨S, v, ?_, r, fun _ => id, fun _ => False.elim⟩
    exact effect_checkSources_ok fun c mem => isFile_of_grown r.grows (found c mem)

theorem repeats_makeCopies {copies : List FileCopy} (written : ∀ c ∈ copies, needs c.source)
    (among : ∀ c ∈ copies, writes c.target) :
    (makeCopies copies).Repeats F writes needs fun _ => False := by
  induction copies with
  | nil => exact .pure []
  | cons c copies ih =>
    have within : (Attempt.request (.copy c.source c.target) : Build _).Within writes
        fun _ => True :=
      .request (r := .copy c.source c.target) (among c List.mem_cons_self)
    have first : (Attempt.orFail (Attempt.request (.copy c.source c.target))
        (BuildError.unwritable c.target)).Repeats F writes needs fun _ => False := by
      refine .orFail (·.copy c.source c.target) (fun t => Attempt.effect_request _ t) within ?_
      intro u u' v S _ copied ahead r done
      obtain ⟨l, v', again, r'⟩ := r.copy copied ahead
        (fun l leads => ⟨c.target, among c List.mem_cons_self, leads⟩)
        (done c.source (written c List.mem_cons_self))
      exact ⟨_, v', again, r', fun _ => Or.inr, fun _ => False.elim⟩
    refine first.andThen fun _ => (Attempt.Repeats.note _).andThen fun _ => ?_
    exact (ih (fun d mem => written d (List.mem_cons_of_mem c mem))
      fun d mem => among d (List.mem_cons_of_mem c mem)).andThen fun _ => .pure _

theorem repeats_apply {p : Projection} {outDir : Path}
    (written : ∀ c ∈ p.copies outDir, needs c.source)
    (among : ∀ c ∈ p.copies outDir, writes c.target) :
    (p.apply outDir).Repeats F writes needs fun _ => False :=
  (repeats_checkSources _).andThen fun _ => (repeats_ensureDirectory _).andThen fun _ =>
    (repeats_makeCopies written among).andThen fun _ =>
      (Attempt.Repeats.note _).andThen fun _ => .pure _

/-- Projections one after the other, whatever they copy over what others have copied. -/
theorem repeats_applyAll {outDir : Path} {projections : List Projection}
    (written : ∀ p ∈ projections, ∀ c ∈ p.copies outDir, needs c.source)
    (among : ∀ p ∈ projections, ∀ c ∈ p.copies outDir, writes c.target) :
    (applyAll outDir projections).Repeats F writes needs fun _ => False := by
  induction projections with
  | nil => exact .pure []
  | cons p projections ih =>
    have first : (p.apply outDir).Repeats F writes needs fun _ => False :=
      repeats_apply (written p List.mem_cons_self) (among p List.mem_cons_self)
    have rest := ih (fun q mem => written q (List.mem_cons_of_mem p mem))
      fun q mem => among q (List.mem_cons_of_mem p mem)
    exact first.andThen fun _ => rest.andThen fun _ => .pure _

end Projection

/-! ## The build -/

namespace Settings

variable {s : Settings} {minify : Minifier} {bundles : List Bundle} {t : FileSystem}

theorem places_of_reached {l : Location} (reached : t.Reached (s.WrittenPath bundles) l) :
    s.Places bundles t l ∨ s.CopyPlaces t l := by
  obtain ⟨path, artifact | ⟨p, mem, c, copied, rfl⟩, leads⟩ := reached
  · exact Or.inl (reached_artifactPath_iff.mp ⟨path, artifact, leads⟩)
  · obtain ⟨name, listed, -, target⟩ := Projection.exists_name_of_mem_copies copied
    rw [target] at leads
    exact Or.inr ⟨p, mem, name, listed, leads⟩

/-- What projections copy are artifacts, if they list configured modules. -/
theorem artifactPath_of_mem_copies (names : bundles.map Bundle.name = s.modules.map ModuleDecl.name)
    (configured : ∀ p ∈ s.allProjections, ∀ module ∈ p.modules,
      module ∈ s.modules.map ModuleDecl.name)
    {p : Projection} (mem : p ∈ s.allProjections) {c : FileCopy}
    (copied : c ∈ p.copies s.outputDir) : s.ArtifactPath bundles c.source := by
  obtain ⟨module, listed, among⟩ := List.mem_flatMap.mp copied
  obtain ⟨name, named, rfl⟩ := List.mem_map.mp among
  have known := configured p mem module listed
  rw [← names] at known
  obtain ⟨b, mem', rfl⟩ := List.mem_map.mp known
  exact ⟨b, mem', name, Projection.mem_artifactNames_of_mem_fileNames named, rfl⟩

theorem effect_rebuild {schedule schedule' : Schedule} {report : Report}
    (inTurn : s.parallel = false) (resolved : Bundle.ofModules s.groups s.modules = .ok bundles)
    (configured : ∀ p ∈ s.allProjections, ∀ module ∈ p.modules,
      module ∈ s.modules.map ModuleDecl.name)
    (unread : ∀ b ∈ bundles, ∀ p, b.Reads p → ∀ l, F.LeadsTo (s.root.join p) l →
      ¬ s.Places bundles F l ∧ ¬ s.CopyPlaces F l)
    (built : (s.build minify schedule).effect t = (.ok report, F)) :
    ∃ v, (s.build minify schedule').effect F = (.ok report, v) ∧ v.workDir = F.workDir ∧
      ∀ l, v.lookup? l = F.lookup? l := by
  obtain ⟨t₁, u, artifacts, copied, ensured, turned, projected, rfl⟩ :=
    exists_of_build inTurn resolved built
  have modules : (s.buildInTurn minify bundles).Repeats F (s.WrittenPath bundles) (fun _ => False)
      (s.ArtifactPath bundles) := by
    refine repeats_buildInTurn (fun b mem p read l leads reached => ?_) fun p => Or.inl
    obtain ⟨no_artifact, no_copy⟩ := unread b mem p read l leads
    exact (places_of_reached reached).elim no_artifact no_copy
  have projections : (Projection.applyAll s.outputDir s.allProjections).Repeats F
      (s.WrittenPath bundles) (s.ArtifactPath bundles) fun _ => False := by
    refine Projection.repeats_applyAll (fun p mem c listed => ?_)
      fun p mem c listed => Or.inr ⟨p, mem, c, listed, rfl⟩
    exact artifactPath_of_mem_copies (Bundle.names_of_ofModules resolved) configured mem listed
  -- The second run sets out where the first has ended, and finds its directory made.
  have ahead : Grown (F.Reached (s.WrittenPath bundles)) (fun _ => True) u F := by
    refine Attempt.ahead_of_within projections.within ?_
    rw [projected]
    exact .refl F
  have ahead₁ : Grown (F.Reached (s.WrittenPath bundles)) (fun _ => True) t₁ F := by
    refine Attempt.ahead_of_within modules.within ?_
    rwa [turned]
  obtain ⟨S, v, turned', r, -, done⟩ :=
    modules.again turned ahead (.start ahead₁) fun _ => False.elim
  obtain ⟨_, v', projected', r', -⟩ := projections.again projected (.refl F) r done
  exact ⟨v', effect_build_ok schedule' inTurn resolved (ensureDirectory_of_grown ensured ahead₁)
    turned' projected', r'.workDir, r'.lookup?_eq⟩

/-- **A rebuild changes nothing.**  Where a build in turn has succeeded, of sources that it does
not write itself and of projections that list configured modules, the same build can be run
again: it reports the same, and leaves the tree as it found it. -/
theorem rebuild_changes_nothing (s : Settings) (minify : Minifier) (schedule schedule' : Schedule)
    (w w' : World) (bundles : List Bundle) (report : Report) (inTurn : s.parallel = false)
    (resolved : Bundle.ofModules s.groups s.modules = .ok bundles)
    (configured : ∀ p ∈ s.allProjections, ∀ module ∈ p.modules,
      module ∈ s.modules.map ModuleDecl.name)
    (built : ((s.build minify schedule).run w).1 = .ok report)
    (left : w'.files = ((s.build minify schedule).run w).2.files)
    (unread : ∀ b ∈ bundles, ∀ p, b.Reads p → ∀ l, w'.files.LeadsTo (s.root.join p) l →
      ¬ s.Places bundles w'.files l ∧ ¬ s.CopyPlaces w'.files l) :
    ((s.build minify schedule').run w').1 = .ok report ∧
      ((s.build minify schedule').run w').2.files.workDir = w'.files.workDir ∧
      ∀ l, ((s.build minify schedule').run w').2.files.lookup? l = w'.files.lookup? l := by
  have ran := Attempt.effect_of_run built
  rw [← left] at ran
  obtain ⟨v, again, workDir, same⟩ := effect_rebuild inTurn resolved configured unread ran
  rw [Attempt.run_fst, Attempt.files_run, again]
  exact ⟨rfl, workDir, same⟩

end Settings

/-! ## The writer alone, again -/

namespace Sample

/-- The writer reads no file that its build writes. -/
theorem unread_solo {u : FileSystem} (written : Written (fun _ => True) tree u) :
    ∀ b ∈ [writer], ∀ p, b.Reads p → ∀ l, u.LeadsTo (solo.root.join p) l →
      ¬ solo.Places [writer] u l ∧ ¬ solo.CopyPlaces u l := by
  intro b mem p read l leads
  have single : ∀ b ∈ [writer], ∀ p ∈ b.readOrder, p = ⟨"f"⟩ := by decide
  obtain rfl := single b mem p (Bundle.mem_readOrder_iff.mpr read)
  have source : tree.LeadsTo (solo.root.join ⟨"f"⟩) [octets "f"] := ⟨_, resolve_source⟩
  obtain rfl := leads.unique (source.grown written)
  have here := opens.grown written
  constructor
  · rintro ⟨c, mem', own⟩
    obtain ⟨name, -, -, below⟩ := ((separate_writer.written written).places_iff here mem').mp own
    simp at below
  · rintro ⟨q, mem', name, listed, below⟩
    obtain rfl : q = solo.testBundles := List.mem_singleton.mp mem'
    have names : ∀ name ∈ solo.testBundles.listed, name = fullName "a" := by decide
    obtain rfl := names name listed
    have place := eq_of_leadsTo_child (opens_copies.grown written) isName_script
      (not_isLink_written written (not_isLink _)) below
    simp at place

theorem rebuild_changes_nothing_writer : ∃ report files,
    ((solo.build .verbatim []).run ⟨tree, []⟩).1 = .ok report ∧
      files = ((solo.build .verbatim []).run ⟨tree, []⟩).2.files ∧
      ((solo.build .verbatim []).run ⟨files, []⟩).1 = .ok report ∧
      ∀ l, ((solo.build .verbatim []).run ⟨files, []⟩).2.files.lookup? l = files.lookup? l := by
  obtain ⟨report, built⟩ := exists_report
  have ran := Attempt.effect_of_fst built
  obtain ⟨-, home, files, files', artifacts, staged, -⟩ :=
    Settings.exists_staged (s := solo) rfl rfl (prepared_tree.symm ▸ fits) ran
  have written := staged.overlay.written
  rw [prepared_tree] at written
  have unread := unread_solo (written.mono (fun _ _ => trivial) fun _ m => m)
  have ok := (Attempt.run_fst (solo.build .verbatim []) ⟨tree, []⟩).trans built
  have left := (Attempt.files_run (solo.build .verbatim []) ⟨tree, []⟩).symm
  have again := solo.rebuild_changes_nothing .verbatim [] [] ⟨tree, []⟩ ⟨_, []⟩ [writer] report rfl
    rfl (by decide) ok left unread
  exact ⟨report, _, ok, left, again.1, again.2.2⟩

end Sample

end ReleaseBundle
