import ReleaseBundle.Proofs.Attainment
import ReleaseBundle.Proofs.Copies
import ReleaseBundle.Proofs.InTurn
import ReleaseBundle.Proofs.Resolution
import ReleaseBundle.Proofs.SideBySide
import ReleaseBundle.Validation

/-!
# Known modules lack no artifact

A projection looks for the artifacts of the modules that it lists, and fails if one is
not there.  For modules that are declared this never happens
(`known_modules_lack_no_artifact`): when the projections start, every module has written
its artifacts, and what has been written to is a file for good.

This holds in any turns and for any names and directories.  Modules may write over each
other's artifacts, names may lead out of the output directory, a projection may copy onto
what it copies from: the texts may be wrong then, but the files are there.
-/

namespace ReleaseBundle

open FileSystem

/-- A failure that is not for lack of an artifact. -/
def BuildError.Stocked (e : BuildError) : Prop := ∀ module path, e ≠ .missingArtifact module path

/-- The artifacts of a module are there, as files. -/
def FileSystem.HasArtifacts (t : FileSystem) (outDir : Path) (module : String) : Prop :=
  ∀ name ∈ artifactNames module, t.isFile (outDir.child name) = true

theorem lasting_hasArtifacts (outDir : Path) (module : String) :
    Lasting fun t => t.HasArtifacts outDir module :=
  fun t u grows has name artifact => lasting_isFile _ t u grows (has name artifact)

variable {t : FileSystem}

theorem stocked_unwritable (path : Path) (cause : IoError) :
    (BuildError.unwritable path cause).Stocked := nofun

theorem stocked_missingSource (path : Path) (cause : IoError) :
    (BuildError.missingSource path cause).Stocked := nofun

/-! ## Writing artifacts -/

theorem attains_ensureDirectory (dir : Path) :
    (ensureDirectory dir).Attains (fun _ _ => True) BuildError.Stocked t :=
  .orFail_of_fair (stocked_unwritable dir) fun _ _ => trivial

/-- What is written is a file. -/
theorem attains_writeFile (path : Path) (text : String) :
    (writeFile path text).Attains (fun _ u => u.isFile path = true) BuildError.Stocked t := by
  refine .bind (.orFail (.request fun u _ => ?_)) fun _ u file =>
    ((Attempt.Attains.note _).keeping (lasting_isFile path) file).imp fun _ _ met => met.2
  show Attempt.Outcome _ _ (u.writeText path text).1 (u.writeText path text).2
  rcases wrote : u.writeText path text with ⟨cause | ⟨⟩, v⟩
  · exact stocked_unwritable path cause
  · exact isFile_of_writeBytes wrote

theorem attains_readAll (paths : List Path) :
    (Bundle.readAll paths).Attains (fun _ _ => True) BuildError.Stocked t := by
  induction paths generalizing t with
  | nil => exact .pure trivial
  | cons path paths ih =>
    have first : (Attempt.orFail (Attempt.request (.readText path)) (.missingSource path) :
        Build String).Attains (fun _ _ => True) BuildError.Stocked t :=
      .orFail_of_fair (stocked_missingSource path) fun _ _ => trivial
    exact first.bind fun _ _ _ => ih.bind fun _ _ _ => .pure trivial

theorem attains_concatenate (b : Bundle) (root : Path) :
    (b.concatenate root).Attains (fun _ _ => True) BuildError.Stocked t :=
  (attains_readAll _).bind fun _ _ _ => (Attempt.Attains.note _).bind fun _ _ _ => .pure trivial

theorem attains_assemble (b : Bundle) (root : Path) (v : Version) :
    (b.assemble root v).Attains (fun _ _ => True) BuildError.Stocked t :=
  (attains_concatenate b root).bind fun _ _ _ =>
    (Attempt.Attains.notes _).bind fun _ _ _ => .pure trivial

/-- **A finished module has its artifacts.** -/
theorem attains_finalize (module script : String) (outDir : Path) (minify : Minifier) :
    (finalize module script outDir minify).Attains (fun _ u => u.HasArtifacts outDir module)
      BuildError.Stocked t := by
  refine (attains_ensureDirectory outDir).bind fun _ u _ => ?_
  -- What was written before is still a file when the next has been written: a file lasts.
  refine (attains_writeFile (outDir.child (fullName module)) script).bind fun _ u full => ?_
  split
  · exact .throw nofun
  · rename_i minified _
    have min := attains_writeFile (t := u) (outDir.child (minName module))
      (withTrailer module minified.code)
    refine (min.keeping (lasting_isFile _) full).bind fun _ u ⟨min, full⟩ => ?_
    have map := attains_writeFile (t := u) (outDir.child (mapName module)) minified.map
    refine ((map.keeping (lasting_isFile _) min).keeping (lasting_isFile _) full).bind
      fun _ u ⟨⟨map, min⟩, full⟩ => ?_
    have all : u.HasArtifacts outDir module := by
      intro name artifact
      obtain rfl | rfl | rfl := Settings.mem_artifactNames_cases artifact
      · exact full
      · exact min
      · exact map
    exact ((Attempt.Attains.note _).keeping (lasting_hasArtifacts outDir module) all).bind
      fun _ u met => .pure met.2

/-! ## Looking for artifacts -/

namespace Projection

variable {p : Projection} {outDir : Path}

theorem mem_artifactNames_of_mem_fileNames {module name : String}
    (h : name ∈ p.fileNames module) : name ∈ artifactNames module := by
  rw [fileNames_eq] at h
  exact mem_artifactNames_iff.mpr ((mem_filesOf_iff.mp h).imp_right And.right)

/-- What a projection copies from is there if its modules have their artifacts. -/
theorem isFile_source (has : ∀ module ∈ p.modules, t.HasArtifacts outDir module) {c : FileCopy}
    (mem : c ∈ p.copies outDir) : t.isFile c.source = true := by
  obtain ⟨module, listed, among⟩ := List.mem_flatMap.mp mem
  obtain ⟨name, named, rfl⟩ := List.mem_map.mp among
  exact has module listed name (mem_artifactNames_of_mem_fileNames named)

theorem attains_checkSources {copies : List FileCopy}
    (found : ∀ c ∈ copies, t.isFile c.source = true) :
    (checkSources copies).Attains (fun _ _ => True) BuildError.Stocked t := by
  induction copies generalizing t with
  | nil => exact .pure trivial
  | cons c copies ih =>
    have asked : (Attempt.request (.isFile c.source) : Build Bool).Attains
        (fun answer u => answer = true ∧ ∀ d ∈ copies, u.isFile d.source = true)
        BuildError.Stocked t := by
      intro u grows
      refine ⟨isFile_of_grown grows (found c List.mem_cons_self), fun d mem => ?_⟩
      exact isFile_of_grown grows (found d (List.mem_cons_of_mem c mem))
    refine asked.bind fun answer u ⟨yes, rest⟩ => ?_
    rw [if_pos yes]
    exact ih rest

theorem attains_makeCopies (copies : List FileCopy) :
    (makeCopies copies).Attains (fun _ _ => True) BuildError.Stocked t := by
  induction copies generalizing t with
  | nil => exact .pure trivial
  | cons c copies ih =>
    have first : (Attempt.orFail (Attempt.request (.copy c.source c.target))
        (.unwritable c.target) : Build Unit).Attains (fun _ _ => True) BuildError.Stocked t :=
      .orFail_of_fair (stocked_unwritable c.target) fun _ _ => trivial
    exact first.bind fun _ _ _ => (Attempt.Attains.note _).bind fun _ _ _ =>
      ih.bind fun _ _ _ => .pure trivial

theorem attains_apply (has : ∀ module ∈ p.modules, t.HasArtifacts outDir module) :
    (p.apply outDir).Attains (fun _ _ => True) BuildError.Stocked t := by
  refine (attains_checkSources fun c mem => isFile_source has mem).bind fun _ u _ => ?_
  refine (attains_ensureDirectory _).bind fun _ u _ => (attains_makeCopies _).bind fun _ u _ => ?_
  exact (Attempt.Attains.note _).bind fun _ _ _ => .pure trivial

/-- Projections one after the other: what the earlier ones do takes no artifact away. -/
theorem attains_applyAll {projections : List Projection}
    (has : ∀ p ∈ projections, ∀ module ∈ p.modules, t.HasArtifacts outDir module) :
    (applyAll outDir projections).Attains (fun _ _ => True) BuildError.Stocked t := by
  induction projections generalizing t with
  | nil => exact .pure trivial
  | cons p projections ih =>
    have lasts : Lasting fun u => ∀ q ∈ projections, ∀ module ∈ q.modules,
        u.HasArtifacts outDir module := fun u v grows has q mem module listed =>
      lasting_hasArtifacts outDir module u v grows (has q mem module listed)
    have first := attains_apply (has p List.mem_cons_self)
    refine (first.keeping lasts fun q mem => has q (List.mem_cons_of_mem p mem)).bind
      fun targets u ⟨_, rest⟩ => (ih rest).bind fun _ _ _ => .pure trivial

end Projection

/-! ## Building -/

theorem mem_of_firstFailure_error {α : Type} {results : List (Except BuildError α)}
    {e : BuildError} (h : firstFailure results = .error e) : .error e ∈ results := by
  induction results with
  | nil => cases h
  | cons result results ih =>
    cases result with
    | error cause =>
      cases h
      exact List.mem_cons_self
    | ok a =>
      rw [firstFailure] at h
      cases rest : firstFailure results with
      | error cause =>
        rw [rest] at h
        cases h
        exact List.mem_cons_of_mem _ (ih rest)
      | ok more =>
        rw [rest] at h
        cases h

namespace Settings

variable {s : Settings} {minify : Minifier} {bundles : List Bundle}

theorem attains_pipeline (b : Bundle) :
    (s.pipeline minify b).Attains (fun _ u => u.HasArtifacts s.outputDir b.name)
      BuildError.Stocked t :=
  (Attempt.Attains.note _).bind fun _ _ _ => (attains_assemble _ _ _).bind fun _ _ _ =>
    attains_finalize _ _ _ _

theorem attains_buildInTurn :
    (s.buildInTurn minify bundles).Attains
      (fun _ u => ∀ b ∈ bundles, u.HasArtifacts s.outputDir b.name) BuildError.Stocked t := by
  induction bundles generalizing t with
  | nil => exact .pure nofun
  | cons b bundles ih =>
    refine (attains_pipeline b).bind fun a u first => ?_
    refine (ih.keeping (lasting_hasArtifacts _ b.name) first).bind fun more v ⟨rest, first⟩ => ?_
    exact .pure (List.forall_mem_cons.mpr ⟨first, rest⟩)

/-- **Modules side by side** have their artifacts when all have ended, in any turns. -/
theorem attains_buildSideBySide (schedule : Schedule) :
    (s.buildSideBySide minify schedule bundles).Attains
      (fun _ u => ∀ b ∈ bundles, u.HasArtifacts s.outputDir b.name) BuildError.Stocked t := by
  -- The goal of a pipeline's number is that of the module with this number.
  let goal (i : Nat) (_ : Artifacts) (u : FileSystem) : Prop :=
    ∀ b, bundles[i]? = some b → u.HasArtifacts s.outputDir b.name
  have lasting : ∀ i artifacts, Lasting (goal i artifacts) := fun i _ u v grows has b at_i =>
    lasting_hasArtifacts _ b.name u v grows (has b at_i)
  have lasting' : ∀ i result, Lasting (Attempt.Outcome (goal i) BuildError.Stocked result) :=
    fun i => Attempt.lasting_outcome (lasting i)
  refine Program.Attains.bind (Program.attains_interleave schedule lasting' ?_) ?_
  · intro i program found
    rw [List.getElem?_map] at found
    obtain ⟨b, at_i, rfl⟩ := Option.map_eq_some_iff.mp found
    refine (attains_pipeline b).imp fun a u has c at_i' => ?_
    obtain rfl := Option.some.inj (at_i.symm.trans at_i')
    exact has
  · intro results u met
    show Attempt.Outcome _ _ (firstFailure results) u
    cases first : firstFailure results with
    | error e =>
      obtain ⟨i, failed⟩ := List.getElem?_of_mem (mem_of_firstFailure_error first)
      exact met.each i _ failed
    | ok artifacts =>
      obtain rfl := eq_of_firstFailure_ok first
      intro b mem
      obtain ⟨i, at_i⟩ := List.getElem?_of_mem mem
      have inside : i < artifacts.length := by
        have count := met.length
        rw [List.length_map, List.length_map] at count
        rw [count]
        exact (List.getElem?_eq_some_iff.mp at_i).1
      have built : (artifacts.map Except.ok)[i]? =
          some (Except.ok artifacts[i] : Except BuildError Artifacts) := by
        rw [List.getElem?_map, List.getElem?_eq_getElem inside, Option.map_some]
      exact met.each i _ built b at_i

theorem unknownModules_eq_nil_iff :
    s.unknownModules = [] ↔
      ∀ p ∈ s.allProjections, ∀ module ∈ p.modules, module ∈ s.modules.map ModuleDecl.name := by
  rw [unknownModules, List.filterMap_eq_nil_iff]
  constructor
  · intro none_unknown p mem module listed
    have known := none_unknown module (List.mem_flatMap.mpr ⟨p, mem, listed⟩)
    split at known
    · rename_i declared
      obtain ⟨d, mem_d, named⟩ := List.any_eq_true.mp declared
      exact List.mem_map.mpr ⟨d, mem_d, of_decide_eq_true named⟩
    · cases known
  · intro known module mem
    obtain ⟨p, mem_p, listed⟩ := List.mem_flatMap.mp mem
    obtain ⟨d, mem_d, named⟩ := List.mem_map.mp (known p mem_p module listed)
    rw [if_pos (List.any_eq_true.mpr ⟨d, mem_d, decide_eq_true named⟩)]

/-- A build fails for many reasons, but not for lack of an artifact, if every listed module
is declared. -/
theorem attains_build (s : Settings) (minify : Minifier) (schedule : Schedule) (t : FileSystem)
    (known : ∀ p ∈ s.allProjections, ∀ module ∈ p.modules,
      module ∈ s.modules.map ModuleDecl.name) :
    (s.build minify schedule).Attains (fun _ _ => True) BuildError.Stocked t := by
  refine (Attempt.Attains.notes _).bind fun _ _ _ => (Attempt.Attains.notes _).bind fun _ u _ => ?_
  cases resolved : Bundle.ofModules s.groups s.modules with
  | error e =>
    have stocked : e.Stocked := by
      obtain ⟨module, rfl⟩ | ⟨module, group, rfl⟩ | ⟨chain, rfl⟩ :=
        Bundle.ofModules_error_cases resolved
      all_goals exact nofun
    exact stocked
  | ok bundles =>
    have projected : ∀ {w : FileSystem}, (∀ b ∈ bundles, w.HasArtifacts s.outputDir b.name) →
        (Projection.applyAll s.outputDir s.allProjections).Attains (fun _ _ => True)
          BuildError.Stocked w := by
      intro w has
      refine Projection.attains_applyAll fun p mem module listed => ?_
      have declared := known p mem module listed
      rw [← Bundle.names_of_ofModules resolved] at declared
      obtain ⟨b, mem_b, rfl⟩ := List.mem_map.mp declared
      exact has b mem_b
    refine (Attempt.Attains.note _).bind fun _ _ _ => ?_
    refine (attains_ensureDirectory _).bind fun _ v _ => ?_
    dsimp only
    split
    · exact (attains_buildSideBySide schedule).bind fun _ _ has => (projected has).bind
        fun _ _ _ => (Attempt.Attains.note _).bind fun _ _ _ => .pure trivial
    · exact attains_buildInTurn.bind fun _ _ has => (projected has).bind
        fun _ _ _ => (Attempt.Attains.note _).bind fun _ _ _ => .pure trivial

/-- **Known modules lack no artifact.**  If every module that a projection lists is
declared, validation finds no unknown module, and no build fails for lack of an artifact:
not one after the other and not side by side, in any turns. -/
theorem known_modules_lack_no_artifact (s : Settings) (minify : Minifier) (schedule : Schedule)
    (w : World)
    (known : ∀ p ∈ s.allProjections, ∀ module ∈ p.modules,
      module ∈ s.modules.map ModuleDecl.name) :
    s.unknownModules = [] ∧
      ∀ module path,
        ((s.build minify schedule).run w).1 ≠ .error (.missingArtifact module path) := by
  refine ⟨unknownModules_eq_nil_iff.mpr known, fun module path lacking => ?_⟩
  have outcome := (attains_build s minify schedule w.files known).effect
  rw [← Attempt.run_fst, lacking] at outcome
  exact outcome module path rfl

end Settings

namespace Sample

/-- Two modules that write over each other's artifacts, side by side, and a projection that
copies them onto themselves. -/
def colliding : Settings where
  __ := Settings.default
  modules := [module "a" ⟨"f"⟩, module "a.min" ⟨"f"⟩]
  testBundles := ⟨⟨"."⟩, ["a.min", "a"], true⟩

theorem known_modules_lack_no_artifact_colliding :
    (∀ p ∈ colliding.allProjections, ∀ module ∈ p.modules,
        module ∈ colliding.modules.map ModuleDecl.name) ∧
      colliding.unknownModules = [] ∧
      ∀ module path, ((colliding.build .verbatim [0, 1, 1, 0, 1]).run ⟨tree, []⟩).1 ≠
        .error (.missingArtifact module path) :=
  have known : ∀ p ∈ colliding.allProjections, ∀ module ∈ p.modules,
      module ∈ colliding.modules.map ModuleDecl.name := by decide
  ⟨known, colliding.known_modules_lack_no_artifact .verbatim [0, 1, 1, 0, 1] ⟨tree, []⟩ known⟩

end Sample

end ReleaseBundle
