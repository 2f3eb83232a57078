import ReleaseBundle.Proofs.ArtifactTexts
import ReleaseBundle.Proofs.Copies
import ReleaseBundle.Proofs.InTurn

/-!
# What a build leaves behind

A build that succeeds, with its modules one after the other, leaves for every module
its script, the minified script and the map, in the output directory, and copies of
these in the targets of the projections; everything else is as it was, but for the
directories it made (`build_delivers`).

What the build needs is asked of the **prepared** tree: the tree at the start with the
output directory and the targets made, since the paths of artifacts and copies lead
nowhere before that.
-/

namespace ReleaseBundle

open FileSystem

namespace Settings

variable {s : Settings} {minify : Minifier} {bundles : List Bundle} {b : Bundle}
  {t u v : FileSystem} {home : Location}

/-! ## The parts of a build -/

/-- The parts of a build that succeeds. -/
theorem exists_of_build {schedule : Schedule} {report : Report} (inTurn : s.parallel = false)
    (resolved : Bundle.ofModules s.groups s.modules = .ok bundles)
    (built : (s.build minify schedule).effect t = (.ok report, v)) :
    ∃ t₁ u artifacts copied, t.ensureDirectory s.outputDir = (.ok (), t₁) ∧
      (s.buildInTurn minify bundles).effect t₁ = (.ok artifacts, u) ∧
      (Projection.applyAll s.outputDir s.allProjections).effect u = (.ok copied, v) ∧
      report = ⟨s.stampedVersion, s.outputDir, artifacts, copied⟩ := by
  rw [build] at built
  obtain ⟨_, _, told, naming⟩ := Attempt.exists_of_effect_bind_ok built
  rw [Attempt.effect_notes] at told
  cases told
  obtain ⟨_, _, told, resolving⟩ := Attempt.exists_of_effect_bind_ok naming
  rw [Attempt.effect_notes] at told
  cases told
  rw [resolved] at resolving
  obtain ⟨_, _, found, telling⟩ := Attempt.exists_of_effect_bind_ok resolving
  cases found
  obtain ⟨_, _, told, ensuring⟩ := Attempt.exists_of_effect_bind_ok telling
  rw [Attempt.effect_note] at told
  cases told
  obtain ⟨_, t₁, ensured, building⟩ := Attempt.exists_of_effect_bind_ok ensuring
  simp only [inTurn, Bool.false_eq_true, if_false] at building
  obtain ⟨artifacts, u, turned, projecting⟩ := Attempt.exists_of_effect_bind_ok building
  obtain ⟨copied, u', projected, finishing⟩ := Attempt.exists_of_effect_bind_ok projecting
  obtain ⟨_, _, told, last⟩ := Attempt.exists_of_effect_bind_ok finishing
  rw [Attempt.effect_note] at told
  cases told
  cases last
  exact ⟨t₁, u, artifacts, copied, Attempt.of_effect_orFail_ok rfl ensured, turned, projected, rfl⟩

/-- A build succeeds if its parts do. -/
theorem effect_build_ok (schedule : Schedule) {artifacts : List Artifacts} {copied : List Path}
    {t₁ : FileSystem} (inTurn : s.parallel = false)
    (resolved : Bundle.ofModules s.groups s.modules = .ok bundles)
    (ensured : t.ensureDirectory s.outputDir = (.ok (), t₁))
    (turned : (s.buildInTurn minify bundles).effect t₁ = (.ok artifacts, u))
    (projected : (Projection.applyAll s.outputDir s.allProjections).effect u = (.ok copied, v)) :
    (s.build minify schedule).effect t =
      (.ok ⟨s.stampedVersion, s.outputDir, artifacts, copied⟩, v) := by
  rw [build, Attempt.effect_bind_ok (Attempt.effect_notes _ t),
    Attempt.effect_bind_ok (Attempt.effect_notes _ t), resolved,
    Attempt.effect_bind_ok (Attempt.effect_ofExcept _ t),
    Attempt.effect_bind_ok (Attempt.effect_note _ t),
    Attempt.effect_bind_ok (effect_ensureDirectory ensured)]
  simp only [inTurn, Bool.false_eq_true, if_false]
  rw [Attempt.effect_bind_ok turned, Attempt.effect_bind_ok projected,
    Attempt.effect_bind_ok (Attempt.effect_note _ v)]
  rfl

/-- The directories that a build makes, in order. -/
def directories (s : Settings) : List Path :=
  s.outputDir :: s.allProjections.map (·.target s.outputDir)

/-- The tree with the directories that a build makes, and none of the files. -/
def prepared (s : Settings) (t : FileSystem) : FileSystem := t.withDirectories s.directories

/-- What keeps the files of a build apart, in the prepared tree. -/
structure Fits (s : Settings) (bundles : List Bundle) (t : FileSystem) : Prop
    extends s.Separate bundles t where
  /-- Projections list configured modules only. -/
  configured : ∀ p ∈ s.allProjections, ∀ module ∈ p.modules, module ∈ bundles.map Bundle.name
  /-- No target is the output directory. -/
  elsewhere : ∀ p ∈ s.allProjections, ∀ l, t.Opens s.outputDir l →
    ¬ t.Opens (p.target s.outputDir) l
  unlinked : ∀ p ∈ s.allProjections, ∀ name ∈ p.listed,
    ¬ t.IsLink ((p.target s.outputDir).child name)

/-- Where the copies of all projections are. -/
def CopyPlaces (s : Settings) (t : FileSystem) (l : Location) : Prop :=
  ∃ p ∈ s.allProjections, ∃ name ∈ p.listed, ∃ node?,
    t.resolve .followed ((p.target s.outputDir).child name) = .ok ⟨l, node?⟩

/-- A bundle is finished with a record of artifacts if it is finalized: the script is what its
sources are assembled to in `t`. -/
structure Finished (s : Settings) (minify : Minifier) (t u : FileSystem) (b : Bundle)
    (a : Artifacts) : Prop where
  made : ∃ script minified,
    ((b.assemble s.root s.stampedVersion).effect t).1 = .ok script ∧
      minify script (b.name ++ ".js") = .ok minified ∧
        Finalized b.name script s.outputDir minified u a

/-- What a build has delivered: from the tree `t` it has made `u`, and reported so. -/
structure Delivered (s : Settings) (minify : Minifier) (bundles : List Bundle) (t u : FileSystem)
    (report : Report) : Prop where
  version : report.version = Version.parse s.version s.codeName
  outDir : report.outDir = s.outputDir
  names : report.modules.map Artifacts.module = s.modules.map ModuleDecl.name
  modules : List.Forall₂ (s.Finished minify (s.prepared t) u) bundles report.modules
  copied : report.copied = s.allProjections.flatMap fun p =>
    p.modules.flatMap fun module =>
      (if p.includeMinified then [module ++ ".js", module ++ ".min.js", module ++ ".min.js.map"]
        else [module ++ ".js"]).map fun name : String => (p.target s.outputDir).child name
  /-- Every copy holds the bytes of its artifact. -/
  copies : ∀ p ∈ s.allProjections, ∀ name ∈ p.listed, ∃ bytes,
    u.node? (s.outputDir.child name) = some (.file bytes) ∧
      u.node? ((p.target s.outputDir).child name) = some (.file bytes)
  /-- Elsewhere everything is as it was, but for directories where nothing was. -/
  frame : ∀ l, ¬ s.Places bundles (s.prepared t) l → ¬ s.CopyPlaces (s.prepared t) l →
    u.lookup? l = t.lookup? l ∨
      t.lookup? l = none ∧ u.lookup? l = some .directory ∧
        ∃ dir ∈ s.directories, ∃ q ∈ dir.lineage, ∃ node?,
          (s.prepared t).resolve .followed q = .ok ⟨l, node?⟩

theorem Separate.of_grown {W M : Location → Prop} (grown : Grown W M t u)
    (separate : s.Separate bundles u) : s.Separate bundles t where
  plain := separate.plain
  distinct := separate.distinct
  apart := separate.apart
  straight b mem name artifact link :=
    separate.straight b mem name artifact (isLink_of_grown grown link)
  unread := by
    rintro b mem p read ⟨l, n⟩ found c mem' ⟨name, artifact, node, there⟩
    exact separate.unread b mem p read _ (resolve_of_grown grown found) c mem'
      ⟨name, artifact, _, resolve_of_grown grown there⟩

theorem Separate.written {W : Location → Prop} (written : Written W t u)
    (separate : s.Separate bundles t) : s.Separate bundles u where
  plain := separate.plain
  distinct := separate.distinct
  apart := separate.apart
  straight b mem name artifact := not_isLink_written written (separate.straight b mem name artifact)
  unread := by
    rintro b mem p read ⟨l, n⟩ found c mem' ⟨name, artifact, node, there⟩
    exact separate.unread b mem p read _ (resolve_of_written written found) c mem'
      ⟨name, artifact, _, resolve_of_written written there⟩

theorem Places.of_grown {W M : Location → Prop} {l : Location} (grown : Grown W M t u)
    (place : s.Places bundles t l) : s.Places bundles u l := by
  obtain ⟨b, mem, name, artifact, node, there⟩ := place
  exact ⟨b, mem, name, artifact, _, resolve_of_grown grown there⟩

/-- A listed file is an artifact of a configured module. -/
theorem Fits.exists_of_listed (fits : s.Fits bundles t) {p : Projection}
    (mem : p ∈ s.allProjections) {name : String} (listed : name ∈ p.listed) :
    ∃ b ∈ bundles, name ∈ artifactNames b.name := by
  obtain ⟨module, mem', named⟩ := List.mem_flatMap.mp listed
  obtain ⟨b, mem'', rfl⟩ := List.mem_map.mp (fits.configured p mem module mem')
  exact ⟨b, mem'', mem_artifactNames_iff.mpr ((Projection.mem_filesOf_iff.mp named).imp_right
    And.right)⟩

theorem Fits.projectable (fits : s.Fits bundles t) {files : Files}
    (opens : ∀ b ∈ bundles, t.Opens s.outputDir home)
    (laid : ∀ b ∈ bundles, ∀ name ∈ artifactNames b.name, files (home ++ [octets name]) ≠ none)
    {p : Projection} (mem : p ∈ s.allProjections) :
    Projection.Projectable s.outputDir home files t p := by
  constructor
  · intro some_copy there
    obtain ⟨name, listed⟩ := List.exists_mem_of_ne_nil _ some_copy
    obtain ⟨b, mem', -⟩ := fits.exists_of_listed mem listed
    exact fits.elsewhere p mem home (opens b mem') there
  · intro name listed
    obtain ⟨b, mem', artifact⟩ := fits.exists_of_listed mem listed
    exact ⟨fits.toSeparate.isName mem' artifact, laid b mem' name artifact,
      fits.straight b mem' name artifact, fits.unlinked p mem name listed⟩

/-- No copy is made in the output directory. -/
theorem Fits.files_kept (fits : s.Fits bundles t) (opens : t.Opens s.outputDir home)
    {files files' : Files}
    (copied : Projection.AllCopied s.outputDir home s.allProjections t files files')
    (name : Name) : files' (home ++ [name]) = files (home ++ [name]) := by
  refine copied.other _ ?_
  rintro ⟨p, mem, name', -, home', there, same⟩
  obtain rfl : home = home' := (List.append_inj' same rfl).1
  exact fits.elsewhere p mem home opens there

/-- Artifacts that are laid in the output directory can be read there. -/
theorem Laid.finished (separate : s.Separate bundles u) (opens : u.Opens s.outputDir home)
    (mem : b ∈ bundles) {script : String} {minified : Minified}
    (made : s.Made minify t b a script minified) (laid : s.Laid home u b script minified) :
    s.Finished minify t u b a := by
  have node : ∀ name ∈ artifactNames b.name,
      u.node? (s.outputDir.child name) = u.lookup? (home ++ [octets name]) := fun name artifact =>
    opens.node?_child (separate.isName mem artifact) (laid.sound name artifact)
      (separate.straight b mem name artifact)
  refine ⟨script, minified, made.assembled, made.minified, ?_⟩
  rw [made.record]
  apply Finalized.of_texts <;> rw [HoldsText]
  · rw [node _ (by simp [artifactNames]), laid.full]
  · rw [node _ (by simp [artifactNames]), laid.min]
  · rw [node _ (by simp [artifactNames]), laid.map]

/-- A build in two stages, seen from the prepared tree `t`: artifacts are laid over it in
the output directory at `home`, and copies are laid over these. -/
structure Staged (s : Settings) (minify : Minifier) (bundles : List Bundle) (t v : FileSystem)
    (home : Location) (files files' : Files) (artifacts : List Artifacts) : Prop where
  opens : ∀ b ∈ bundles, t.Opens s.outputDir home
  filled : ∀ b ∈ bundles, ∀ name ∈ artifactNames b.name, files (home ++ [octets name]) ≠ none
  places : ∀ l, files l ≠ none → s.Places bundles t l
  laid : List.Forall₂ (fun b a => ∃ script minified, s.Made minify t b a script minified ∧
    s.Laid home v b script minified) bundles artifacts
  overlay : Overlaid files' t v
  copied : Projection.AllCopied s.outputDir home s.allProjections t files files'
  targets : ∀ p ∈ s.allProjections, ∀ name ∈ p.listed,
    childFault? (p.target s.outputDir) name = none ∧ ∃ home', t.Opens (p.target s.outputDir) home'

/-- **A build that succeeds** has gone through its stages. -/
theorem exists_staged {schedule : Schedule} {report : Report} (inTurn : s.parallel = false)
    (resolved : Bundle.ofModules s.groups s.modules = .ok bundles)
    (fits : s.Fits bundles (s.prepared t))
    (built : (s.build minify schedule).effect t = (.ok report, v)) :
    t.Ensures s.directories ∧ ∃ home files files' artifacts,
      s.Staged minify bundles (s.prepared t) v home files files' artifacts ∧
        report = ⟨s.stampedVersion, s.outputDir, artifacts, s.allProjections.flatMap fun p =>
          p.listed.map fun name : String => (p.target s.outputDir).child name⟩ := by
  obtain ⟨t₁, u, artifacts, targets, ensured, turned, projected, rfl⟩ :=
    exists_of_build inTurn resolved built
  have all : t₁.withDirectories (s.allProjections.map (·.target s.outputDir)) = s.prepared t := by
    rw [prepared, directories, withDirectories, withDirectories, List.foldl_cons, ensured]
  have grown : Grown (fun _ => False) (fun _ => True) t₁ (s.prepared t) :=
    all ▸ grows_withDirectories t₁ _
  have separate : s.Separate bundles t₁ := fits.toSeparate.of_grown grown
  obtain ⟨home, files, opens, overlay, places, laid⟩ := modules_overlaid ensured separate turned
  have opens₁ : ∀ b ∈ bundles, t₁.Opens s.outputDir home :=
    fun b mem => opens (List.ne_nil_of_mem mem)
  have opens₂ : ∀ b ∈ bundles, (s.prepared t).Opens s.outputDir home :=
    fun b mem => (opens₁ b mem).grown grown
  have filled : ∀ b ∈ bundles, ∀ name ∈ artifactNames b.name,
      files (home ++ [octets name]) ≠ none := by
    intro b mem name artifact
    obtain ⟨a, -, script, minified, -, here⟩ := exists_of_forall₂ laid mem
    exact (places _).mpr ⟨b, mem, (separate.places_iff (opens₁ b mem) mem).mpr
      ⟨name, artifact, here.sound name artifact, rfl⟩⟩
  have opened : (∃ p ∈ s.allProjections, p.listed ≠ []) → u.Opens s.outputDir home := by
    rintro ⟨p, mem, some_copy⟩
    obtain ⟨name, listed⟩ := List.exists_mem_of_ne_nil _ some_copy
    obtain ⟨b, mem', -⟩ := fits.exists_of_listed mem listed
    exact (opens₁ b mem').grown overlay.written
  obtain ⟨ensures, rfl, sound, files', overlay', copied⟩ :=
    Projection.applyAll_overlaid overlay all
      (fun p mem => fits.projectable opens₂ filled mem) opened projected
  -- The copies are elsewhere, so the artifacts are as the modules have left them.
  have kept : ∀ b ∈ bundles, AgreeOn (b.Places s.outputDir t₁) v u := by
    rintro b mem l place
    obtain ⟨name, artifact, -, rfl⟩ := (separate.places_iff (opens₁ b mem) mem).mp place
    obtain ⟨bytes, held⟩ := Option.ne_none_iff_exists'.mp (filled b mem name artifact)
    rw [overlay.holds _ _ held,
      overlay'.holds _ _ ((fits.files_kept (opens₂ b mem) copied _).trans held)]
  refine ⟨⟨t₁, ensured, ensures⟩, home, files, files', artifacts, ?_, rfl⟩
  refine ⟨opens₂, filled, fun l laid => ((places l).mp laid).of_grown grown, ?_, overlay', copied,
    sound⟩
  refine List.forall₂_iff_get.mpr ⟨laid.length_eq, fun i hi hi' => ?_⟩
  obtain ⟨script, minified, made, here⟩ := (List.forall₂_iff_get.mp laid).2 i hi hi'
  have mem : bundles[i] ∈ bundles := List.getElem_mem hi
  exact ⟨script, minified,
    ⟨Bundle.assemble_of_grown grown made.assembled, made.minified, made.record⟩,
    here.of_agree separate (opens₁ _ mem) mem (kept _ mem)⟩

namespace Staged

variable {files files' : Files} {artifacts : List Artifacts}
  (staged : s.Staged minify bundles t v home files files' artifacts)
include staged

theorem names_eq : bundles.map Bundle.name = artifacts.map Artifacts.module := by
  rw [← List.forall₂_eq_eq_eq]
  refine List.forall₂_map_left_iff.mpr (List.forall₂_map_right_iff.mpr (staged.laid.imp ?_))
  rintro b a ⟨script, minified, made, -⟩
  rw [made.record]

theorem finished (fits : s.Fits bundles t) :
    List.Forall₂ (s.Finished minify t v) bundles artifacts := by
  refine List.forall₂_iff_get.mpr ⟨staged.laid.length_eq, fun i hi hi' => ?_⟩
  obtain ⟨script, minified, made, here⟩ := (List.forall₂_iff_get.mp staged.laid).2 i hi hi'
  have mem : bundles[i] ∈ bundles := List.getElem_mem hi
  exact here.finished (fits.toSeparate.written staged.overlay.written)
    ((staged.opens _ mem).grown staged.overlay.written) mem made

theorem copies (fits : s.Fits bundles t) {p : Projection} (mem : p ∈ s.allProjections)
    {name : String} (listed : name ∈ p.listed) :
    ∃ bytes, v.node? (s.outputDir.child name) = some (.file bytes) ∧
      v.node? ((p.target s.outputDir).child name) = some (.file bytes) := by
  obtain ⟨b, mem', artifact⟩ := fits.exists_of_listed mem listed
  obtain ⟨fault, home', opens'⟩ := staged.targets p mem name listed
  obtain ⟨a, -, script, minified, -, here⟩ := exists_of_forall₂ staged.laid mem'
  have written := staged.overlay.written
  have opens := staged.opens b mem'
  obtain ⟨bytes, held⟩ := Option.ne_none_iff_exists'.mp (staged.filled b mem' name artifact)
  have plain := fits.toSeparate.isName mem' artifact
  have straight := not_isLink_written written (fits.straight b mem' name artifact)
  have straight' := not_isLink_written written (fits.unlinked p mem name listed)
  refine ⟨bytes, ?_, ?_⟩
  · rw [(opens.grown written).node?_child plain (here.sound name artifact) straight]
    exact staged.overlay.holds _ _ ((fits.files_kept opens staged.copied _).trans held)
  · rw [(opens'.grown written).node?_child plain fault straight']
    exact staged.overlay.holds _ _ ((staged.copied.copy p mem name listed home' opens').trans held)

/-- Where neither artifacts nor copies are, the tree is as it was prepared. -/
theorem lookup?_eq (fits : s.Fits bundles t) {l : Location} (no_artifact : ¬ s.Places bundles t l)
    (no_copy : ¬ s.CopyPlaces t l) : v.lookup? l = t.lookup? l := by
  have none_laid : files l = none := by
    by_contra laid
    exact no_artifact (staged.places l laid)
  have none_copied : files' l = none := by
    refine (staged.copied.other l ?_).trans none_laid
    rintro ⟨p, mem, name, listed, home', there, rfl⟩
    obtain ⟨b, mem', artifact⟩ := fits.exists_of_listed mem listed
    exact no_copy ⟨p, mem, name, listed, _, there.resolve_child
      (fits.toSeparate.isName mem' artifact) (staged.targets p mem name listed).1
      (fits.unlinked p mem name listed)⟩
  exact staged.overlay.lookup?_of_none none_copied

end Staged

theorem delivered_of_effect {schedule : Schedule} {report : Report} (inTurn : s.parallel = false)
    (resolved : Bundle.ofModules s.groups s.modules = .ok bundles)
    (fits : s.Fits bundles (s.prepared t))
    (built : (s.build minify schedule).effect t = (.ok report, v)) :
    s.Delivered minify bundles t v report := by
  obtain ⟨ensures, home, files, files', artifacts, staged, rfl⟩ :=
    exists_staged inTurn resolved fits built
  refine ⟨rfl, rfl, ?_, staged.finished fits, ?_, fun p mem name => staged.copies fits mem, ?_⟩
  · rw [← Bundle.names_of_ofModules resolved, staged.names_eq]
  · simp only [Projection.listed, Projection.filesOf, List.map_flatMap]
  · intro l no_artifact no_copy
    rw [staged.lookup?_eq fits no_artifact no_copy]
    obtain same | ⟨⟨dir, mem, q, lead, found⟩, nothing, made⟩ :=
      ((grown_withDirectories ensures).node l).cases_made
    · exact Or.inl same
    · exact Or.inr ⟨nothing, made, dir, mem, q, lead, _, found⟩

end Settings

/-! ## The writer alone -/

namespace Sample

/-- The writer, built in turn, and a copy of its script. -/
def solo : Settings where
  __ := Settings.default
  parallel := false
  modules := [module "a" ⟨"f"⟩]
  testBundles := ⟨Settings.testBundlesDir, ["a"], false⟩

theorem opens_copies : tree.Opens ⟨"./build/test-bundles"⟩
    [octets "build", octets "test-bundles"] := by
  have sound : pathFault? ⟨"./build/test-bundles"⟩ = none := rfl
  have walked : tree.walk .followed 40 [] [[dot], octets "build", octets "test-bundles"] =
      .ok ⟨[octets "build", octets "test-bundles"], some .directory⟩ := by cbv
  exact .path ((resolve_of_sound sound).trans walked)

/-- The tree has the directories already. -/
theorem prepared_tree : solo.prepared tree = tree := by
  have listed : solo.directories = [⟨"./build"⟩, ⟨"./build/test-bundles"⟩] := rfl
  have first := opens.ensureDirectory
  have second := opens_copies.ensureDirectory
  rw [Settings.prepared, listed, withDirectories, List.foldl_cons, List.foldl_cons, List.foldl_nil,
    first, second]

theorem separate_writer : solo.Separate [writer] tree where
  plain := by decide
  distinct := by decide
  apart := by decide
  straight _ _ _ _ := not_isLink _
  unread b mem p read place found c mem' :=
    separate.unread b (List.mem_cons_of_mem reader mem) p read place found c
      (List.mem_cons_of_mem reader mem')

theorem fits : solo.Fits [writer] tree where
  toSeparate := separate_writer
  configured := by decide
  elsewhere p mem l there there' := by
    obtain rfl : p = solo.testBundles := List.mem_singleton.mp mem
    obtain rfl : l = [octets "build"] := there.unique opens
    cases there'.unique opens_copies
  unlinked _ _ _ _ := not_isLink _

theorem writeFault?_tree {dir : Path} {home : Location} {name : String}
    (sound : childFault? dir name = none) (free : tree.lookup? (home ++ [octets name]) = none) :
    tree.writeFault? dir home name = none := by
  rw [writeFault?, sound, free]
  rfl

theorem exists_effect_pipeline_writer : ∃ a u,
    (solo.pipeline .verbatim writer).effect tree = (.ok a, u) ∧
      Written (fun _ => True) tree u := by
  have held : List.Forall₂ (fun p text => tree.HoldsText (solo.root.join p) text)
      writer.readOrder ["f", "f", "f"] := holds_fragments
  have free : ∀ name ∈ artifactNames "a", childFault? solo.outputDir name = none ∧
      tree.lookup? ([octets "build"] ++ [octets name]) = none := by
    simp only [lookup?_tree]
    decide
  refine Settings.exists_effect_pipeline separate_writer opens List.mem_cons_self
    (Bundle.effect_assemble_ok held) rfl ?_
  intro name artifact
  exact writeFault?_tree (free name artifact).1 (free name artifact).2

/-- The script can be copied once it has been written. -/
theorem exists_effect_projections {u : FileSystem} {script : ByteArray}
    (written : Written (fun _ => True) tree u)
    (held : u.lookup? ([octets "build"] ++ [octets (fullName "a")]) = some (.file script)) :
    ∃ copied v, (Projection.applyAll solo.outputDir solo.allProjections).effect u =
      (.ok copied, v) := by
  have plain : Path.IsName (octets (fullName "a")) :=
    isName_artifact (by decide) List.mem_cons_self
  have sound : childFault? ⟨"./build"⟩ (fullName "a") = none := rfl
  have straight : ∀ p, ¬ u.IsLink p := fun p => not_isLink_written written (not_isLink p)
  have here := opens.grown written
  have there := opens_copies.grown written
  have free : tree.lookup? ([octets "build", octets "test-bundles"] ++ [octets (fullName "a")]) =
      none := by
    rw [lookup?_tree]
    decide
  have copied := here.copy_child there plain sound (straight _) (straight _) (by decide) held
  rw [writeFault?_written written, writeFault?_tree rfl free] at copied
  have listed : solo.testBundles.copies solo.outputDir =
      [⟨"a", (⟨"./build"⟩ : Path).child (fullName "a"),
        (⟨"./build/test-bundles"⟩ : Path).child (fullName "a")⟩] := rfl
  have found : ∀ c ∈ solo.testBundles.copies solo.outputDir, u.isFile c.source = true := by
    rw [listed, List.forall_mem_singleton, isFile, here.node?_child plain sound (straight _), held]
  have made := Projection.effect_makeCopies_cons
    (c := ⟨"a", (⟨"./build"⟩ : Path).child (fullName "a"),
      (⟨"./build/test-bundles"⟩ : Path).child (fullName "a")⟩) copied
    (Projection.effect_makeCopies_nil _)
  have applied : (solo.testBundles.apply solo.outputDir).effect u = _ :=
    Projection.effect_apply_ok found there made
  have all : solo.allProjections = [solo.testBundles] := rfl
  rw [all, Projection.applyAll, Attempt.effect_bind_ok applied]
  exact ⟨_, _, rfl⟩

theorem exists_report : ∃ report, ((solo.build .verbatim []).effect tree).1 = .ok report := by
  obtain ⟨a, u, built, written⟩ := exists_effect_pipeline_writer
  obtain ⟨script, minified, -, laid⟩ :=
    Settings.exists_of_pipeline separate_writer opens List.mem_cons_self built
  obtain ⟨copied, v, projected⟩ := exists_effect_projections written laid.full
  have resolved : Bundle.ofModules solo.groups solo.modules = .ok [writer] := rfl
  have all : (solo.buildInTurn .verbatim [writer]).effect tree = (.ok [a], u) :=
    Settings.effect_buildInTurn_cons_iff.mpr ⟨a, [], u, rfl, built, rfl⟩
  have done := Settings.effect_build_ok [] rfl resolved opens.ensureDirectory all projected
  exact ⟨_, congrArg Prod.fst done⟩

end Sample

/-! ## What is there afterwards -/

namespace Settings

/-- **What a build delivers.**  A build in turn that succeeds, of modules and projections
that do not get in each other's way, has finished all modules in their order, with the
artifacts that their sources and the minifier make, and has copied what was listed.  It
has changed nothing else, but for making directories. -/
theorem build_delivers (s : Settings) (minify : Minifier) (schedule : Schedule) (w : World)
    (bundles : List Bundle) (report : Report) (inTurn : s.parallel = false)
    (resolved : Bundle.ofModules s.groups s.modules = .ok bundles)
    (fits : s.Fits bundles (s.prepared w.files))
    (built : ((s.build minify schedule).run w).1 = .ok report) :
    s.Delivered minify bundles w.files ((s.build minify schedule).run w).2.files report := by
  rw [Attempt.run_fst] at built
  rw [Attempt.files_run]
  exact delivered_of_effect inTurn resolved fits (Prod.ext built rfl)

end Settings

namespace Sample

/-- The writer is delivered, with the copy of its script. -/
theorem build_delivers_writer : ∃ report,
    ((solo.build .verbatim []).run ⟨tree, []⟩).1 = .ok report ∧
      solo.Fits [writer] (solo.prepared tree) ∧
      solo.Delivered .verbatim [writer] tree
        ((solo.build .verbatim []).run ⟨tree, []⟩).2.files report := by
  obtain ⟨report, built⟩ := exists_report
  have ran : ((solo.build .verbatim []).run ⟨tree, []⟩).1 = .ok report :=
    (Attempt.run_fst _ _).trans built
  have fitting : solo.Fits [writer] (solo.prepared tree) := prepared_tree.symm ▸ fits
  exact ⟨report, ran, fitting,
    solo.build_delivers .verbatim [] ⟨tree, []⟩ [writer] report rfl rfl fitting ran⟩

end Sample

end ReleaseBundle
