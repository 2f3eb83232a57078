import ReleaseBundle.Proofs.AssembledScript
import ReleaseBundle.Proofs.Overlay
import ReleaseBundle.Proofs.SideBySide

/-!
# Building in turn

A pipeline that succeeds has laid the artifacts of its bundle into the output directory
(`exists_of_pipeline`), and it succeeds if its script can be assembled and minified and
nothing is in its way (`exists_effect_pipeline`).  Modules that are built one after the
other are each built as if alone, since none notices the others (`buildInTurn_overlaid`).
-/

namespace ReleaseBundle

open FileSystem

theorem eq_of_firstFailure_ok {α : Type} {results : List (Except BuildError α)} {found : List α}
    (h : firstFailure results = .ok found) : results = found.map .ok := by
  induction results generalizing found with
  | nil =>
    cases h
    rfl
  | cons result results ih =>
    cases result with
    | error e => cases h
    | ok a =>
      rw [firstFailure] at h
      cases rest : firstFailure results with
      | error e =>
        rw [rest] at h
        cases h
      | ok more =>
        rw [rest] at h
        cases h
        rw [ih rest]
        rfl

theorem exists_of_forall₂ {α β : Type} {rel : α → β → Prop} {as : List α} {bs : List β}
    (h : List.Forall₂ rel as bs) {a : α} (mem : a ∈ as) : ∃ b ∈ bs, rel a b := by
  induction h with
  | nil => cases mem
  | @cons a' b as bs related _ ih =>
    rcases List.mem_cons.mp mem with rfl | mem
    · exact ⟨b, List.mem_cons_self, related⟩
    · obtain ⟨b', mem', related'⟩ := ih mem
      exact ⟨b', List.mem_cons_of_mem b mem', related'⟩

/-! ## One module -/

theorem exists_of_writeFile {t u : FileSystem} {dir : Path} {home : Location} {name text : String}
    {files : Files} {s : FileSystem} (overlay : Overlaid files s t) (opens : t.Opens dir home)
    (plain : Path.IsName (octets name)) (straight : ¬ t.IsLink (dir.child name))
    (wrote : (writeFile (dir.child name) text).effect t = (.ok (), u)) :
    childFault? dir name = none ∧ Written (fun _ => True) t u ∧
      Overlaid (files.write (home ++ [octets name]) text.toUTF8) s u := by
  rw [opens.effect_writeFile plain straight] at wrote
  cases fault : t.writeFault? dir home name with
  | some cause =>
    rw [fault] at wrote
    cases wrote
  | none =>
    rw [fault] at wrote
    obtain rfl : t.put (home ++ [octets name]) (.file text.toUTF8) = u := (Prod.mk.inj wrote).2
    have free := opens.free_of_writeFault? plain straight fault
    exact ⟨(Option.or_eq_none_iff.mp fault).1, grown_put_file trivial _ free, overlay.put _ free⟩

theorem exists_effect_writeFile {t : FileSystem} {dir : Path} {home : Location} {name : String}
    (opens : t.Opens dir home) (plain : Path.IsName (octets name))
    (straight : ¬ t.IsLink (dir.child name)) (free : t.writeFault? dir home name = none)
    (text : String) :
    ∃ u, (writeFile (dir.child name) text).effect t = (.ok (), u) ∧
      Written (fun _ => True) t u := by
  have wrote := opens.effect_writeFile plain straight text
  rw [free] at wrote
  exact ⟨_, wrote, grown_put_file trivial _ (opens.free_of_writeFault? plain straight free)⟩

namespace Settings

variable {s : Settings} {minify : Minifier} {bundles : List Bundle} {b : Bundle}
  {t u v : FileSystem} {home : Location} {a : Artifacts}

/-- What the pipeline of a bundle makes in the directory at `home`, reading from `t`:
the record of the artifacts, and the texts in them. -/
structure Made (s : Settings) (minify : Minifier) (t : FileSystem) (b : Bundle) (a : Artifacts)
    (script : String) (minified : Minified) : Prop where
  assembled : ((b.assemble s.root s.stampedVersion).effect t).1 = .ok script
  minified : minify script (fullName b.name) = .ok minified
  record : a = ⟨b.name, s.outputDir.child (fullName b.name), s.outputDir.child (minName b.name),
    s.outputDir.child (mapName b.name), Digest.sha256 script.toUTF8⟩

/-- The artifacts of a bundle are in the directory at `home`. -/
structure Laid (s : Settings) (home : Location) (u : FileSystem) (b : Bundle) (script : String)
    (minified : Minified) : Prop where
  sound : ∀ name ∈ artifactNames b.name, childFault? s.outputDir name = none
  full : u.lookup? (home ++ [octets (fullName b.name)]) = some (.file script.toUTF8)
  min : u.lookup? (home ++ [octets (minName b.name)]) =
    some (.file (withTrailer b.name minified.code).toUTF8)
  map : u.lookup? (home ++ [octets (mapName b.name)]) = some (.file minified.map.toUTF8)

theorem mem_artifactNames_self (module : String) : fullName module ∈ artifactNames module :=
  List.mem_cons_self

theorem mem_artifactNames_cases {module name : String} (artifact : name ∈ artifactNames module) :
    name = fullName module ∨ name = minName module ∨ name = mapName module := by
  simpa [artifactNames] using artifact

theorem Laid.file {script : String} {minified : Minified} (laid : s.Laid home u b script minified)
    {name : String} (artifact : name ∈ artifactNames b.name) :
    ∃ bytes, u.lookup? (home ++ [octets name]) = some (.file bytes) := by
  obtain rfl | rfl | rfl := mem_artifactNames_cases artifact
  · exact ⟨_, laid.full⟩
  · exact ⟨_, laid.min⟩
  · exact ⟨_, laid.map⟩

theorem Laid.of_agree {script : String} {minified : Minified} (separate : s.Separate bundles t)
    (opens : t.Opens s.outputDir home) (mem : b ∈ bundles)
    (agree : AgreeOn (b.Places s.outputDir t) v u) (laid : s.Laid home u b script minified) :
    s.Laid home v b script minified := by
  have same : ∀ name ∈ artifactNames b.name,
      v.lookup? (home ++ [octets name]) = u.lookup? (home ++ [octets name]) :=
    fun name artifact => agree _
      ((separate.places_iff opens mem).mpr ⟨name, artifact, laid.sound name artifact, rfl⟩)
  refine ⟨laid.sound, ?_, ?_, ?_⟩
  · rw [same _ (by simp [artifactNames]), laid.full]
  · rw [same _ (by simp [artifactNames]), laid.min]
  · rw [same _ (by simp [artifactNames]), laid.map]

theorem fullName_ne_minName (module : String) : fullName module ≠ minName module := by
  simp [fullName, minName]

theorem mapName_ne_fullName (module : String) : mapName module ≠ fullName module :=
  map_ne_script (by decide)

theorem mapName_ne_minName (module : String) : mapName module ≠ minName module :=
  map_ne_script (by decide)

theorem place_ne (home : Location) {name name' : String} (ne : name ≠ name') :
    home ++ [octets name] ≠ home ++ [octets name'] := by
  simpa [octets_inj] using ne

/-- How a pipeline that succeeds begins. -/
theorem exists_of_pipeline_start (built : (s.pipeline minify b).effect t = (.ok a, u)) :
    ∃ script t', (b.assemble s.root s.stampedVersion).effect t = (.ok script, t) ∧
      t.ensureDirectory s.outputDir = (.ok (), t') ∧
      (finalize b.name script s.outputDir minify).effect t = (.ok a, u) ∧
      ∃ t₁, (writeFile (s.outputDir.child (fullName b.name)) script).effect t' = (.ok (), t₁) := by
  obtain ⟨_, t', noted, assembling⟩ := Attempt.exists_of_effect_bind_ok built
  obtain rfl : t = t' := (Prod.mk.inj noted).2
  obtain ⟨script, t', assembled, finalizing⟩ := Attempt.exists_of_effect_bind_ok assembling
  obtain rfl : t = t' := by
    rw [← Bundle.files_assemble t b s.root s.stampedVersion, assembled]
  obtain ⟨_, t', ensured, writing⟩ := Attempt.exists_of_effect_bind_ok finalizing
  obtain ⟨_, t₁, wrote, -⟩ := Attempt.exists_of_effect_bind_ok writing
  exact ⟨script, t', assembled, Attempt.of_effect_orFail_ok rfl ensured, finalizing, t₁, wrote⟩

/-- **A pipeline that succeeds** has made the artifacts of its bundle. -/
theorem exists_of_pipeline (separate : s.Separate bundles t) (opens : t.Opens s.outputDir home)
    (mem : b ∈ bundles) (built : (s.pipeline minify b).effect t = (.ok a, u)) :
    ∃ script minified, s.Made minify t b a script minified ∧ s.Laid home u b script minified := by
  obtain ⟨script, -, assembled, -, finalizing, -⟩ := exists_of_pipeline_start built
  obtain ⟨_, t', ensured, writing⟩ := Attempt.exists_of_effect_bind_ok finalizing
  obtain rfl : t = t' := by
    have there := Attempt.of_effect_orFail_ok rfl ensured
    exact (Prod.mk.inj (opens.ensureDirectory.symm.trans there)).2
  have plain := fun name (h : name ∈ artifactNames b.name) => separate.isName mem h
  have straight := separate.straight b mem
  have full : fullName b.name ∈ artifactNames b.name := by simp [artifactNames]
  have min : minName b.name ∈ artifactNames b.name := by simp [artifactNames]
  have map : mapName b.name ∈ artifactNames b.name := by simp [artifactNames]
  obtain ⟨_, t₁, wrote, minifying⟩ := Attempt.exists_of_effect_bind_ok writing
  obtain ⟨sound, grown, overlay⟩ := exists_of_writeFile (.refl t) opens (plain _ full)
    (straight _ full) wrote
  cases minified : minify script (fullName b.name) with
  | error reason =>
    rw [minified] at minifying
    cases minifying
  | ok code =>
    rw [minified] at minifying
    obtain ⟨_, t₂, wrote', writing'⟩ := Attempt.exists_of_effect_bind_ok minifying
    obtain ⟨sound', grown', overlay'⟩ := exists_of_writeFile overlay (opens.grown grown)
      (plain _ min) (not_isLink_written grown (straight _ min)) wrote'
    obtain ⟨_, t₃, wrote'', finishing⟩ := Attempt.exists_of_effect_bind_ok writing'
    obtain ⟨sound'', -, overlay''⟩ := exists_of_writeFile overlay'
      ((opens.grown grown).grown grown') (plain _ map)
      (not_isLink_written (grown.trans grown') (straight _ map)) wrote''
    obtain ⟨_, t', noted', last⟩ := Attempt.exists_of_effect_bind_ok finishing
    obtain rfl : t₃ = t' := (Prod.mk.inj noted').2
    obtain ⟨rfl, rfl⟩ : _ = a ∧ t₃ = u :=
      ⟨Except.ok.inj (Prod.mk.inj last).1, (Prod.mk.inj last).2⟩
    -- The names differ, so no file has been written over by a later one.
    refine ⟨script, code, ⟨by rw [assembled], minified, rfl⟩, ?_, ?_, ?_, ?_⟩
    · intro name artifact
      obtain rfl | rfl | rfl := mem_artifactNames_cases artifact
      · exact sound
      · exact sound'
      · exact sound''
    · refine overlay''.holds _ _ ?_
      rw [Files.write_ne _ (place_ne home (mapName_ne_fullName b.name).symm),
        Files.write_ne _ (place_ne home (fullName_ne_minName b.name)), Files.write_self]
    · refine overlay''.holds _ _ ?_
      rw [Files.write_ne _ (place_ne home (mapName_ne_minName b.name).symm), Files.write_self]
    · exact overlay''.holds _ _ (Files.write_self _ _ _)

/-- Where a pipeline succeeds, names are looked up in the output directory: the empty path is no
directory, but a file has been written there. -/
theorem exists_opens_of_pipeline {t₁ : FileSystem}
    (ensured : t.ensureDirectory s.outputDir = (.ok (), t₁)) (plain : '/' ∉ b.name.toList)
    (built : (s.pipeline minify b).effect t₁ = (.ok a, u)) : ∃ home, t₁.Opens s.outputDir home := by
  rcases exists_opens_of_ensureDirectory ensured with empty | opens
  · obtain ⟨script, t', -, ensured', -, t₃, wrote⟩ := exists_of_pipeline_start built
    obtain rfl : t₁ = t' := (Prod.mk.inj ((ensureDirectory_of_empty empty).symm.trans ensured')).2
    obtain ⟨_, t₄, written, -⟩ := Attempt.exists_of_effect_bind_ok wrote
    obtain ⟨place, found⟩ := exists_of_writeBytes (Attempt.of_effect_orFail_ok rfl written)
    exact ⟨_, opens_of_empty empty (isName_artifact plain (mem_artifactNames_self b.name)) found⟩
  · exact opens

/-- **A pipeline succeeds** if its script can be assembled and minified, and no directory
is where an artifact goes. -/
theorem exists_effect_pipeline (separate : s.Separate bundles t) (opens : t.Opens s.outputDir home)
    (mem : b ∈ bundles) {script : String} {minified : Minified}
    (assembled : (b.assemble s.root s.stampedVersion).effect t = (.ok script, t))
    (taken : minify script (fullName b.name) = .ok minified)
    (free : ∀ name ∈ artifactNames b.name, t.writeFault? s.outputDir home name = none) :
    ∃ a u, (s.pipeline minify b).effect t = (.ok a, u) ∧ Written (fun _ => True) t u := by
  -- What was written before does not keep an artifact from being written.
  have write : ∀ u, Written (fun _ => True) t u → ∀ name ∈ artifactNames b.name, ∀ text,
      ∃ v, (writeFile (s.outputDir.child name) text).effect u = (.ok (), v) ∧
        Written (fun _ => True) t v := by
    intro u before name artifact text
    have straight := not_isLink_written before (separate.straight b mem name artifact)
    have still_free := (writeFault?_written before _ _ _).trans (free name artifact)
    obtain ⟨v, wrote, after⟩ := exists_effect_writeFile (opens.grown before)
      (separate.isName mem artifact) straight still_free text
    exact ⟨v, wrote, before.trans after⟩
  obtain ⟨t₁, wrote₁, before₁⟩ := write t (.refl t) (fullName b.name) (by simp [artifactNames])
    script
  obtain ⟨t₂, wrote₂, before₂⟩ := write t₁ before₁ (minName b.name) (by simp [artifactNames])
    (withTrailer b.name minified.code)
  obtain ⟨t₃, wrote₃, before₃⟩ := write t₂ before₂ (mapName b.name) (by simp [artifactNames])
    minified.map
  rw [pipeline, Attempt.effect_bind_ok (Attempt.effect_note _ t), Attempt.effect_bind_ok assembled,
    finalize, Attempt.effect_bind_ok opens.effect_ensureDirectory, Attempt.effect_bind_ok wrote₁,
    taken]
  dsimp only
  rw [Attempt.effect_bind_ok wrote₂, Attempt.effect_bind_ok wrote₃,
    Attempt.effect_bind_ok (Attempt.effect_note _ t₃)]
  exact ⟨_, t₃, rfl, before₃⟩

/-! ## All modules, one after the other -/

theorem effect_buildInTurn_cons_iff {artifacts : List Artifacts} {v : FileSystem} :
    (s.buildInTurn minify (b :: bundles)).effect t = (.ok artifacts, v) ↔
      ∃ a more u, artifacts = a :: more ∧ (s.pipeline minify b).effect t = (.ok a, u) ∧
        (s.buildInTurn minify bundles).effect u = (.ok more, v) := by
  rw [buildInTurn]
  constructor
  · intro built
    obtain ⟨a, u, first, building⟩ := Attempt.exists_of_effect_bind_ok built
    obtain ⟨more, v', rest, last⟩ := Attempt.exists_of_effect_bind_ok building
    cases last
    exact ⟨a, more, u, rfl, first, rest⟩
  · rintro ⟨a, more, u, rfl, first, rest⟩
    rw [Attempt.effect_bind_ok first, Attempt.effect_bind_ok rest]
    rfl

/-- Modules that were built one after the other were each built as if alone. -/
theorem forall₂_of_buildInTurn (separate : s.Separate bundles t) (opens : t.Opens s.outputDir home)
    {artifacts : List Artifacts}
    (built : (s.buildInTurn minify bundles).effect t = (.ok artifacts, u)) :
    Written (s.Places bundles t) t u ∧
      List.Forall₂ (fun b a => ((s.pipeline minify b).effect t).1 = .ok a ∧
          AgreeOn (b.Places s.outputDir t) u ((s.pipeline minify b).effect t).2)
        bundles artifacts := by
  obtain ⟨results, files⟩ := effect_buildInTurn s minify bundles t
  rw [built] at results files
  have ok := eq_of_firstFailure_ok results.symm
  obtain rfl := files artifacts rfl
  obtain ⟨kept, -⟩ := Program.interleave_keeps [] (apart_pipelines minify separate opens) (.refl t)
  refine ⟨kept, List.forall₂_iff_get.mpr ⟨?_, fun i hi hi' => ?_⟩⟩
  · have same := congrArg List.length ok
    rw [Program.length_inSequence] at same
    simpa [pipelines] using same
  · obtain ⟨⟨result, there, alike⟩, agree⟩ :=
      interleave_pipeline minify separate opens [] (List.getElem?_eq_getElem hi)
    rw [Program.interleave_nil, ok, List.getElem?_map, List.getElem?_eq_getElem hi'] at there
    cases there
    exact ⟨alike.eq_ok, agree⟩

/-- **Modules that were built one after the other** have laid their artifacts over the
tree. -/
theorem buildInTurn_overlaid (separate : s.Separate bundles t) (opens : t.Opens s.outputDir home)
    {artifacts : List Artifacts}
    (built : (s.buildInTurn minify bundles).effect t = (.ok artifacts, u)) :
    ∃ files, Overlaid files t u ∧ (∀ l, files l ≠ none ↔ s.Places bundles t l) ∧
      List.Forall₂ (fun b a => ∃ script minified, s.Made minify t b a script minified ∧
        s.Laid home u b script minified) bundles artifacts := by
  obtain ⟨written, each⟩ := forall₂_of_buildInTurn separate opens built
  have laid : List.Forall₂ (fun b a => ∃ script minified, s.Made minify t b a script minified ∧
      s.Laid home u b script minified) bundles artifacts := by
    refine List.forall₂_iff_get.mpr ⟨each.length_eq, fun i hi hi' => ?_⟩
    obtain ⟨alone, agree⟩ := (List.forall₂_iff_get.mp each).2 i hi hi'
    have mem : bundles[i] ∈ bundles := List.getElem_mem hi
    obtain ⟨script, minified, made, laid⟩ :=
      exists_of_pipeline separate opens mem (Attempt.effect_of_fst alone)
    exact ⟨script, minified, made, laid.of_agree separate opens mem agree⟩
  obtain ⟨files, overlay, places⟩ := Overlaid.exists_of_written written (by
    rintro l ⟨b, mem, place⟩
    obtain ⟨name, artifact, -, rfl⟩ := (separate.places_iff opens mem).mp place
    obtain ⟨a, -, script, minified, -, laid⟩ := exists_of_forall₂ laid mem
    exact laid.file artifact)
  exact ⟨files, overlay, places, laid⟩

/-- The modules of a build, once its output directory has been made. -/
theorem modules_overlaid {t₁ : FileSystem} (ensured : t.ensureDirectory s.outputDir = (.ok (), t₁))
    (separate : s.Separate bundles t₁) {artifacts : List Artifacts}
    (built : (s.buildInTurn minify bundles).effect t₁ = (.ok artifacts, u)) :
    ∃ home files, (bundles ≠ [] → t₁.Opens s.outputDir home) ∧ Overlaid files t₁ u ∧
      (∀ l, files l ≠ none ↔ s.Places bundles t₁ l) ∧
      List.Forall₂ (fun b a => ∃ script minified, s.Made minify t₁ b a script minified ∧
        s.Laid home u b script minified) bundles artifacts := by
  cases bundles with
  | nil =>
    cases built
    exact ⟨[], fun _ => none, fun ne => absurd rfl ne, .refl u, by simp [Places], .nil⟩
  | cons b bundles =>
    obtain ⟨a, _, t₂, -, first, -⟩ := effect_buildInTurn_cons_iff.mp built
    obtain ⟨home, opens⟩ :=
      exists_opens_of_pipeline ensured (separate.plain b List.mem_cons_self).2 first
    obtain ⟨files, overlay, places, laid⟩ := buildInTurn_overlaid separate opens built
    exact ⟨home, files, fun _ => opens, overlay, places, laid⟩

end Settings

end ReleaseBundle
