import ReleaseBundle.Proofs.CheckedGroups
import ReleaseBundle.Proofs.KnownModules

/-!
# Refusals come before effects

What a program can end with is seen from the program alone: its results are those that it
comes to under some answers (`Program.AllResults`).  Programs in turns end with results of
each of them, in any turns (`Program.allResults_interleave`), so this also tells with what
a build side by side can fail.

Modules are looked up before anything is made, and no later part of a build refuses a
module for its group or its sources (`Settings.failsOnly_build`).  A projection looks for
all the files that it will copy before it makes its directory, and no later part of it
misses one.  A build or a projection that is refused has therefore left the files as they
were (`refusals_precede_effects`).
-/

namespace ReleaseBundle

/-! ## The results of a program -/

namespace Program

variable {α β : Type} {good : α → Prop} {p : Program α}

/-- Every result that a program can come to, whatever it is answered, is good. -/
def AllResults (good : α → Prop) : Program α → Prop
  | done a => good a
  | ask r next => ∀ answer : r.Answer, AllResults good (next answer)

namespace AllResults

theorem effect (h : AllResults good p) (t : FileSystem) : good (p.effect t).1 := by
  induction p generalizing t with
  | done a => exact h
  | ask r next ih => exact ih _ (h _) _

theorem bind {good' : β → Prop} {f : α → Program β} (h : AllResults good p)
    (after : ∀ a, good a → AllResults good' (f a)) : AllResults good' (p >>= f) := by
  induction p with
  | done a => exact after a h
  | ask r next ih => exact fun answer => ih answer (h answer)

theorem imp {weaker : α → Prop} (h : AllResults good p) (implied : ∀ a, good a → weaker a) :
    AllResults weaker p := by
  induction p with
  | done a => exact implied a h
  | ask r next ih => exact fun answer => ih answer (h answer)

end AllResults

variable {programs : List (Program α)}

theorem allResults_inSequence (h : ∀ p ∈ programs, AllResults good p) :
    AllResults (fun results => ∀ a ∈ results, good a) (inSequence programs) := by
  induction programs with
  | nil => exact List.forall_mem_nil good
  | cons p programs ih =>
    obtain ⟨first, rest⟩ := List.forall_mem_cons.mp h
    refine first.bind fun a met => (ih rest).bind fun results others => ?_
    exact List.forall_mem_cons.mpr ⟨met, others⟩

/-- **Programs in turns end with results of each of them**, in any turns. -/
theorem allResults_interleave (schedule : Schedule) (h : ∀ p ∈ programs, AllResults good p) :
    AllResults (fun results => ∀ a ∈ results, good a) (interleave schedule programs) := by
  induction schedule generalizing programs with
  | nil => exact allResults_inSequence h
  | cons turn schedule ih =>
    rw [interleave]
    split
    · rename_i r next found
      have turned : AllResults good (ask r next) := h _ (List.mem_of_getElem? found)
      intro answer
      refine ih fun p mem => ?_
      rcases List.mem_or_eq_of_mem_set mem with before | now
      · exact h p before
      · rw [now]
        exact turned answer
    · exact ih h

end Program

/-! ## The failures of a program -/

namespace Attempt

variable {ε α β : Type} {kind : ε → Prop}

/-- A program that can fail, whatever it is answered, in some ways only. -/
def FailsOnly (kind : ε → Prop) (attempt : Attempt ε α) : Prop :=
  Program.AllResults (fun result => ∀ e, result = .error e → kind e) attempt.outcome

namespace FailsOnly

theorem effect {attempt : Attempt ε α} (h : attempt.FailsOnly kind) {t u : FileSystem} {e : ε}
    (failed : attempt.effect t = (.error e, u)) : kind e :=
  Program.AllResults.effect h t e (congrArg Prod.fst failed)

theorem pure (a : α) : (Pure.pure a : Attempt ε α).FailsOnly kind := by
  intro e failed
  cases failed

theorem throw {e : ε} (h : kind e) : (MonadExcept.throw e : Attempt ε α).FailsOnly kind := by
  intro e' failed
  cases failed
  exact h

theorem request (r : Request) : (Attempt.request r : Attempt ε r.Answer).FailsOnly kind := by
  intro answer e failed
  cases failed

theorem bind {first : Attempt ε α} {next : α → Attempt ε β} (h : first.FailsOnly kind)
    (after : ∀ a, (next a).FailsOnly kind) : (first >>= next).FailsOnly kind := by
  refine Program.AllResults.bind h fun result met => ?_
  cases result with
  | ok a => exact after a
  | error e =>
    intro e' failed
    cases failed
    exact met e rfl

theorem mono {kind' : ε → Prop} {attempt : Attempt ε α} (h : attempt.FailsOnly kind)
    (weaker : ∀ e, kind e → kind' e) : attempt.FailsOnly kind' :=
  Program.AllResults.imp h fun _ met e failed => weaker e (met e failed)

theorem orFail {answer : Attempt ε (Except IoError α)} {failure : IoError → ε}
    (h : answer.FailsOnly kind) (always : ∀ cause, kind (failure cause)) :
    (Attempt.orFail answer failure).FailsOnly kind := by
  refine h.bind fun result => ?_
  cases result with
  | ok a => exact .pure a
  | error cause => exact .throw (always cause)

theorem note (record : Record) : (Attempt.note record : Attempt ε Unit).FailsOnly kind :=
  request (.note record)

theorem notes (records : List Record) :
    (Attempt.notes records : Attempt ε Unit).FailsOnly kind := by
  induction records with
  | nil => exact .pure ()
  | cons record records ih => exact (note record).bind fun _ => ih

end FailsOnly

end Attempt

/-! ## Kinds of failures -/

namespace BuildError

/-- A module is refused for its group or its sources. -/
def IsRefusal : BuildError → Prop
  | unknownGroup _ _ | groupCycle _ | noSources _ => True
  | _ => False

/-- A directory or a file cannot be written. -/
def IsUnwritable (e : BuildError) : Prop := ∃ path cause, e = .unwritable path cause

/-- A failure of a build that has looked up its modules. -/
def IsLate (e : BuildError) : Prop := ¬ e.IsRefusal

theorem isLate_of_isUnwritable {e : BuildError} (h : e.IsUnwritable) : e.IsLate := by
  obtain ⟨path, cause, rfl⟩ := h
  exact id

theorem ne_missingArtifact_of_isUnwritable {e : BuildError} (h : e.IsUnwritable)
    (module : String) (file : Path) : e ≠ .missingArtifact module file := by
  obtain ⟨path, cause, rfl⟩ := h
  nofun

end BuildError

open BuildError (IsLate IsUnwritable)

/-! ## What the parts of a build fail with -/

theorem failsOnly_ensureDirectory (dir : Path) : (ensureDirectory dir).FailsOnly IsUnwritable :=
  (Attempt.FailsOnly.request _).orFail fun cause => ⟨dir, cause, rfl⟩

theorem failsOnly_writeFile (path : Path) (text : String) :
    (writeFile path text).FailsOnly IsUnwritable :=
  ((Attempt.FailsOnly.request _).orFail fun cause => ⟨path, cause, rfl⟩).bind fun _ => .note _

theorem failsOnly_finalize (module script : String) (outDir : Path) (minify : Minifier) :
    (finalize module script outDir minify).FailsOnly IsLate := by
  have writes := fun path text =>
    (failsOnly_writeFile path text).mono fun _ => BuildError.isLate_of_isUnwritable
  refine ((failsOnly_ensureDirectory outDir).mono fun _ => BuildError.isLate_of_isUnwritable).bind
    fun _ => (writes _ _).bind fun _ => ?_
  split
  · exact .throw id
  · exact (writes _ _).bind fun _ => (writes _ _).bind fun _ =>
      (Attempt.FailsOnly.note _).bind fun _ => .pure _

namespace Bundle

theorem failsOnly_readAll (paths : List Path) : (readAll paths).FailsOnly IsLate := by
  induction paths with
  | nil => exact .pure []
  | cons path paths ih =>
    have first : (Attempt.orFail (Attempt.request (.readText path)) (.missingSource path) :
        Build String).FailsOnly IsLate := (Attempt.FailsOnly.request _).orFail fun _ => id
    exact first.bind fun _ => ih.bind fun _ => .pure _

theorem failsOnly_assemble (b : Bundle) (root : Path) (v : Version) :
    (b.assemble root v).FailsOnly IsLate := by
  have concatenated : (b.concatenate root).FailsOnly IsLate :=
    (failsOnly_readAll _).bind fun _ => (Attempt.FailsOnly.note _).bind fun _ => .pure _
  exact concatenated.bind fun _ => (Attempt.FailsOnly.notes _).bind fun _ => .pure _

end Bundle

namespace Projection

theorem failsOnly_checkSources (copies : List FileCopy) :
    (checkSources copies).FailsOnly IsLate := by
  induction copies with
  | nil => exact .pure ()
  | cons c copies ih =>
    refine (Attempt.FailsOnly.request (.isFile c.source)).bind fun found => ?_
    split
    · exact ih
    · exact .throw id

theorem failsOnly_makeCopies (copies : List FileCopy) :
    (makeCopies copies).FailsOnly IsUnwritable := by
  induction copies with
  | nil => exact .pure []
  | cons c copies ih =>
    have first : (Attempt.orFail (Attempt.request (.copy c.source c.target))
        (.unwritable c.target) : Build Unit).FailsOnly IsUnwritable :=
      (Attempt.FailsOnly.request _).orFail fun cause => ⟨c.target, cause, rfl⟩
    exact first.bind fun _ => (Attempt.FailsOnly.note _).bind fun _ => ih.bind fun _ => .pure _

/-- What a projection does when it has found all that it copies. -/
def proceed (p : Projection) (outDir : Path) : Build (List Path) := do
  ensureDirectory (p.target outDir)
  let targets ← makeCopies (p.copies outDir)
  Attempt.note ⟨.info, .projection,
    s!"Projected {p.modules.length} modules into {(p.target outDir).text}"⟩
  return targets

theorem apply_eq (p : Projection) (outDir : Path) :
    p.apply outDir = (checkSources (p.copies outDir) >>= fun _ => p.proceed outDir) := rfl

theorem failsOnly_proceed (p : Projection) (outDir : Path) :
    (p.proceed outDir).FailsOnly IsUnwritable :=
  (failsOnly_ensureDirectory _).bind fun _ => (failsOnly_makeCopies _).bind fun _ =>
    (Attempt.FailsOnly.note _).bind fun _ => .pure _

theorem failsOnly_applyAll (outDir : Path) (projections : List Projection) :
    (applyAll outDir projections).FailsOnly IsLate := by
  induction projections with
  | nil => exact .pure []
  | cons p projections ih =>
    have first : (p.apply outDir).FailsOnly IsLate :=
      (failsOnly_checkSources _).bind fun _ =>
        (failsOnly_proceed p outDir).mono fun _ => BuildError.isLate_of_isUnwritable
    exact first.bind fun _ => ih.bind fun _ => .pure _

/-! ## Projections that lack a file -/

variable {p : Projection} {outDir : Path} {t : FileSystem}

/-- **The first source that is no file is told**, and nothing has been made. -/
theorem effect_checkSources_eq (copies : List FileCopy) (t : FileSystem) :
    (checkSources copies).effect t =
      (match copies.find? fun c => !t.isFile c.source with
        | none => .ok ()
        | some c => .error (.missingArtifact c.module c.source), t) := by
  induction copies with
  | nil => rfl
  | cons c copies ih =>
    have asked : (Attempt.request (.isFile c.source) : Build Bool).effect t =
        (.ok (t.isFile c.source), t) := Attempt.effect_request (.isFile c.source) t
    rw [checkSources, Attempt.effect_bind_ok asked, List.find?_cons]
    cases t.isFile c.source with
    | true => exact ih
    | false => rfl

/-- The files that a projection is asked for, module by module, each with its module. -/
def required (p : Projection) (outDir : Path) : List (String × Path) :=
  p.modules.flatMap fun module =>
    (filesOf p.includeMinified module).map fun name : String => (module, outDir.child name)

theorem required_eq_map (p : Projection) (outDir : Path) :
    p.required outDir = (p.copies outDir).map fun c => (c.module, c.source) := by
  simp [required, copies, fileNames_eq, List.map_flatMap, Function.comp_def]

/-- The first file that a projection lacks in a tree, with its module. -/
def lacking? (p : Projection) (outDir : Path) (t : FileSystem) : Option (String × Path) :=
  (p.required outDir).find? fun (_, path) => !t.isFile path

theorem lacking?_eq_map (p : Projection) (outDir : Path) (t : FileSystem) :
    p.lacking? outDir t =
      ((p.copies outDir).find? fun c => !t.isFile c.source).map fun c => (c.module, c.source) := by
  rw [lacking?, required_eq_map, List.find?_map]
  rfl

/-- A projection lacks a file exactly if one of a listed module is not there. -/
theorem exists_lacking?_iff :
    (∃ module path, p.lacking? outDir t = some (module, path)) ↔
      ∃ module ∈ p.modules, t.isFile (outDir.child (octets (module ++ ".js"))) = false ∨
        p.includeMinified = true ∧ (t.isFile (outDir.child (octets (module ++ ".min.js"))) = false ∨
          t.isFile (outDir.child (octets (module ++ ".min.js.map"))) = false) := by
  constructor
  · rintro ⟨module, path, lacks⟩
    have missing : t.isFile path = false := by simpa using List.find?_some lacks
    obtain ⟨module', listed, among⟩ := List.mem_flatMap.mp (List.mem_of_find?_eq_some lacks)
    obtain ⟨name, named, same⟩ := List.mem_map.mp among
    obtain ⟨rfl, rfl⟩ := Prod.mk.inj same
    refine ⟨module', listed, ?_⟩
    obtain rfl | ⟨wanted, rfl | rfl⟩ := mem_filesOf_iff.mp named
    · exact Or.inl missing
    · exact Or.inr ⟨wanted, Or.inl missing⟩
    · exact Or.inr ⟨wanted, Or.inr missing⟩
  · rintro ⟨module, listed, lacks⟩
    obtain ⟨name, named, missing⟩ : ∃ name ∈ filesOf p.includeMinified module,
        t.isFile (outDir.child name) = false := by
      simp only [mem_filesOf_iff]
      obtain missing | ⟨wanted, missing | missing⟩ := lacks
      · exact ⟨_, Or.inl rfl, missing⟩
      · exact ⟨_, Or.inr ⟨wanted, Or.inl rfl⟩, missing⟩
      · exact ⟨_, Or.inr ⟨wanted, Or.inr rfl⟩, missing⟩
    have mem : (module, outDir.child name) ∈ p.required outDir :=
      List.mem_flatMap.mpr ⟨module, listed, List.mem_map.mpr ⟨name, named, rfl⟩⟩
    have found : (p.lacking? outDir t).isSome = true :=
      List.find?_isSome.mpr ⟨_, mem, by simp [missing]⟩
    obtain ⟨⟨first, path⟩, lacks⟩ := Option.isSome_iff_exists.mp found
    exact ⟨first, path, lacks⟩

/-- **A projection that lacks a file** tells the first one, and leaves the files as they
were; if it fails otherwise, it lacks none. -/
theorem apply_missing_iff {module : String} {path : Path} :
    ((p.apply outDir).effect t).1 = .error (.missingArtifact module path) ↔
      p.lacking? outDir t = some (module, path) := by
  have checked := effect_checkSources_eq (p.copies outDir) t
  rw [lacking?_eq_map, apply_eq]
  cases lacks : (p.copies outDir).find? fun c => !t.isFile c.source with
  | some c =>
    rw [lacks] at checked
    rw [Attempt.effect_bind_error checked]
    simp
  | none =>
    rw [lacks] at checked
    rw [Attempt.effect_bind_ok checked]
    constructor
    · intro failed
      have unwritable := (failsOnly_proceed p outDir).effect (Attempt.effect_of_fst failed)
      exact absurd rfl (BuildError.ne_missingArtifact_of_isUnwritable unwritable module path)
    · intro found
      cases found

theorem effect_apply_missing {module : String} {path : Path}
    (lacks : p.lacking? outDir t = some (module, path)) :
    (p.apply outDir).effect t = (.error (.missingArtifact module path), t) := by
  have checked := effect_checkSources_eq (p.copies outDir) t
  rw [lacking?_eq_map] at lacks
  obtain ⟨c, first, same⟩ := Option.map_eq_some_iff.mp lacks
  obtain ⟨rfl, rfl⟩ := Prod.mk.inj same
  rw [first] at checked
  rw [apply_eq, Attempt.effect_bind_error checked]

end Projection

/-! ## Builds that are refused -/

namespace Settings

variable {s : Settings} {minify : Minifier} {bundles : List Bundle} {t : FileSystem}

theorem failsOnly_pipeline (s : Settings) (minify : Minifier) (b : Bundle) :
    (s.pipeline minify b).FailsOnly IsLate :=
  (Attempt.FailsOnly.note _).bind fun _ => (b.failsOnly_assemble _ _).bind fun _ =>
    failsOnly_finalize _ _ _ _

theorem failsOnly_buildInTurn (s : Settings) (minify : Minifier) (bundles : List Bundle) :
    (s.buildInTurn minify bundles).FailsOnly IsLate := by
  induction bundles with
  | nil => exact .pure []
  | cons b bundles ih =>
    exact (s.failsOnly_pipeline minify b).bind fun _ => ih.bind fun _ => .pure _

/-- Modules side by side fail as one of their pipelines does, in any turns. -/
theorem failsOnly_buildSideBySide (s : Settings) (minify : Minifier) (schedule : Schedule)
    (bundles : List Bundle) : (s.buildSideBySide minify schedule bundles).FailsOnly IsLate := by
  have each : ∀ program ∈ bundles.map fun b => (s.pipeline minify b).outcome,
      Program.AllResults (fun result => ∀ e, result = .error e → e.IsLate) program := by
    intro program mem
    obtain ⟨b, -, rfl⟩ := List.mem_map.mp mem
    exact s.failsOnly_pipeline minify b
  refine (Program.allResults_interleave schedule each).bind fun results late => ?_
  intro e failed
  exact late _ (mem_of_firstFailure_error failed) e rfl

/-- **A build that has looked up its modules** refuses none of them. -/
theorem failsOnly_build (schedule : Schedule)
    (resolved : Bundle.ofModules s.groups s.modules = .ok bundles) :
    (s.build minify schedule).FailsOnly IsLate := by
  refine (Attempt.FailsOnly.notes _).bind fun _ => (Attempt.FailsOnly.notes _).bind fun _ => ?_
  rw [resolved]
  have found : (Attempt.ofExcept (.ok bundles) : Build (List Bundle)).FailsOnly IsLate :=
    .pure bundles
  refine found.bind fun bundles => (Attempt.FailsOnly.note _).bind fun _ => ?_
  have made : (ensureDirectory s.outputDir).FailsOnly IsLate :=
    (failsOnly_ensureDirectory _).mono fun _ => BuildError.isLate_of_isUnwritable
  refine made.bind fun _ => ?_
  dsimp only
  split
  · exact (s.failsOnly_buildSideBySide minify schedule bundles).bind fun _ =>
      (Projection.failsOnly_applyAll _ _).bind fun _ =>
        (Attempt.FailsOnly.note _).bind fun _ => .pure _
  · exact (s.failsOnly_buildInTurn minify bundles).bind fun _ =>
      (Projection.failsOnly_applyAll _ _).bind fun _ =>
        (Attempt.FailsOnly.note _).bind fun _ => .pure _

/-- A build whose modules are not found ends at once. -/
theorem effect_build_refused (schedule : Schedule) {e : BuildError}
    (refused : Bundle.ofModules s.groups s.modules = .error e) :
    (s.build minify schedule).effect t = (.error e, t) := by
  have looked := Attempt.effect_ofExcept (Bundle.ofModules s.groups s.modules) t
  rw [refused] at looked
  rw [build, Attempt.effect_bind_ok (Attempt.effect_notes _ t),
    Attempt.effect_bind_ok (Attempt.effect_notes _ t), refused, Attempt.effect_bind_error looked]

/-- **Refusals come before effects.**  A build refuses a module for its group or its
sources exactly if the modules are refused when they are looked up, with the same failure;
it has then left the files as they were, in any turns and whatever modules come before.
And a projection misses an artifact exactly if a file of a module that it lists is not
there as a file; it tells the first such file in the order of its list, and has left the
files as they were. -/
theorem refusals_precede_effects (s : Settings) (minify : Minifier) (schedule : Schedule)
    (w : World) :
    (∀ e, e.IsRefusal ∧ ((s.build minify schedule).run w).1 = .error e ↔
        Bundle.ofModules s.groups s.modules = .error e) ∧
      (∀ e, e.IsRefusal → ((s.build minify schedule).run w).1 = .error e →
        ((s.build minify schedule).run w).2.files = w.files) ∧
      ∀ (p : Projection) (outDir : Path),
        ((∃ module path, ((p.apply outDir).run w).1 = .error (.missingArtifact module path)) ↔
            ∃ module ∈ p.modules, w.files.isFile (outDir.child (octets (module ++ ".js"))) = false ∨
              p.includeMinified = true ∧
                (w.files.isFile (outDir.child (octets (module ++ ".min.js"))) = false ∨
                  w.files.isFile (outDir.child (octets (module ++ ".min.js.map"))) = false)) ∧
          ∀ module path, ((p.apply outDir).run w).1 = .error (.missingArtifact module path) →
            (p.required outDir).find? (fun (_, path) => !w.files.isFile path) =
                some (module, path) ∧
              ((p.apply outDir).run w).2.files = w.files := by
  have refused_iff : ∀ e, e.IsRefusal ∧ ((s.build minify schedule).run w).1 = .error e ↔
      Bundle.ofModules s.groups s.modules = .error e := by
    intro e
    rw [Attempt.run_fst]
    constructor
    · rintro ⟨refusal, failed⟩
      cases resolved : Bundle.ofModules s.groups s.modules with
      | ok bundles =>
        have late := (failsOnly_build schedule resolved).effect (Attempt.effect_of_fst failed)
        exact absurd refusal late
      | error cause =>
        rw [effect_build_refused schedule resolved] at failed
        rw [Except.error.inj failed]
    · intro refused
      refine ⟨?_, by rw [effect_build_refused schedule refused]⟩
      obtain ⟨module, rfl⟩ | ⟨module, group, rfl⟩ | ⟨chain, rfl⟩ :=
        Bundle.ofModules_error_cases refused
      all_goals trivial
  refine ⟨refused_iff, ?_, ?_⟩
  · intro e refusal failed
    have refused := (refused_iff e).mp ⟨refusal, failed⟩
    rw [Attempt.files_run, effect_build_refused schedule refused]
  · intro p outDir
    rw [Attempt.run_fst, Attempt.files_run]
    constructor
    · simp only [Projection.apply_missing_iff]
      exact Projection.exists_lacking?_iff
    · intro module path missing
      have lacks := Projection.apply_missing_iff.mp missing
      exact ⟨lacks, by rw [Projection.effect_apply_missing lacks]⟩

end Settings

namespace Sample

open FileSystem

/-- A module that can be built, and one behind it whose group nobody defines. -/
def misled : Settings where
  __ := Settings.default
  modules := [module "a" ⟨"f"⟩, ⟨"m", some "nope", none, ⟨"f"⟩, ⟨"f"⟩⟩]

/-- A projection of all artifacts of the first one. -/
def early : Projection := ⟨⟨"copies"⟩, ["a"], true⟩

theorem ofModules_misled :
    Bundle.ofModules misled.groups misled.modules = .error (.unknownGroup "m" "nope") := by
  have first : Bundle.ofModule misled.groups (module "a" ⟨"f"⟩) = .ok (bundle "a" ⟨"f"⟩) := rfl
  refine Bundle.ofModules_eq_error_iff.mpr
    ⟨[module "a" ⟨"f"⟩], _, [], rfl, ?_, Settings.ofModule_of_undefined rfl rfl rfl⟩
  simpa using ⟨_, first⟩

theorem build_misled (schedule : Schedule) :
    ((misled.build .verbatim schedule).run ⟨tree, []⟩).1 = .error (.unknownGroup "m" "nope") := by
  rw [Attempt.run_fst, Settings.effect_build_refused schedule ofModules_misled]

/-- Nothing has been built when it is applied. -/
theorem not_isFile_script : tree.isFile ⟨"./build/a.js"⟩ = false := by
  have sound : pathFault? ⟨"./build/a.js"⟩ = none := rfl
  have walked : tree.walk .followed 40 [] [[dot], octets "build", octets "a.js"] =
      .ok ⟨[octets "build", octets "a.js"], none⟩ := by cbv
  have found : tree.resolve .followed ⟨"./build/a.js"⟩ =
      .ok ⟨[octets "build", octets "a.js"], none⟩ :=
    (resolve_of_sound sound).trans walked
  rw [isFile, node?, found]

theorem apply_early : ((early.apply ⟨"./build"⟩).run ⟨tree, []⟩).1 =
    .error (.missingArtifact "a" ⟨"./build/a.js"⟩) := by
  rw [Attempt.run_fst]
  refine Projection.apply_missing_iff.mpr ?_
  have first : early.required ⟨"./build"⟩ = ("a", ⟨"./build/a.js"⟩) ::
      [("a", ⟨"./build/a.min.js"⟩), ("a", ⟨"./build/a.min.js.map"⟩)] := by decide
  rw [Projection.lacking?, first]
  exact List.find?_cons_of_pos (by simp [not_isFile_script])

theorem refusals_precede_effects_misled :
    BuildError.IsRefusal (.unknownGroup "m" "nope") ∧
      ((misled.build .verbatim [1, 0]).run ⟨tree, []⟩).1 = .error (.unknownGroup "m" "nope") ∧
      ((misled.build .verbatim [1, 0]).run ⟨tree, []⟩).2.files = tree ∧
      ((early.apply ⟨"./build"⟩).run ⟨tree, []⟩).1 =
        .error (.missingArtifact "a" ⟨"./build/a.js"⟩) ∧
      ((early.apply ⟨"./build"⟩).run ⟨tree, []⟩).2.files = tree := by
  obtain ⟨-, kept, projections⟩ := misled.refusals_precede_effects .verbatim [1, 0] ⟨tree, []⟩
  obtain ⟨-, kept'⟩ := projections early ⟨"./build"⟩
  have refusal : BuildError.IsRefusal (.unknownGroup "m" "nope") := trivial
  exact ⟨refusal, build_misled _, kept _ refusal (build_misled _), apply_early,
    (kept' _ _ apply_early).2⟩

end Sample

end ReleaseBundle
