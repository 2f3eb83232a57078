import ReleaseBundle.Assembly
import ReleaseBundle.Schedule
import ReleaseBundle.Settings

/-!
# Building

A build looks all modules up, makes the output directory, and then runs one
**pipeline** for each module: assemble its script, stamp it, and write its
artifacts.  Pipelines run one after the other, and then the first failure ends
the build, or side by side in the turns of a schedule, and then all of them end
before the first failure, in the order of the modules, is looked for.
Projections follow when every module is finished.
-/

namespace ReleaseBundle

/-- What a build has made. -/
structure Report where
  version : Version
  outDir : Path
  modules : List Artifacts
  copied : List Path
deriving DecidableEq, Repr

/-- The results of programs, if none has failed, and else the first failure. -/
def firstFailure {α : Type} : List (Except BuildError α) → Except BuildError (List α)
  | [] => .ok []
  | .error e :: _ => .error e
  | .ok a :: results => (a :: ·) <$> firstFailure results

namespace Settings

variable (s : Settings) (minify : Minifier)

/-- The version that is stamped into the bundles. -/
def stampedVersion : Version := Version.parse s.version s.codeName

/-- Builds one module. -/
def pipeline (b : Bundle) : Build Artifacts := do
  Attempt.note ⟨.debug, .build, s!"Assembling module '{b.name}'"⟩
  let script ← b.assemble s.root s.stampedVersion
  finalize b.name script s.outputDir minify

/-- Builds modules one after the other, up to the first failure. -/
def buildInTurn : List Bundle → Build (List Artifacts)
  | [] => return []
  | b :: bundles => do
    let artifacts ← s.pipeline minify b
    let more ← buildInTurn bundles
    return artifacts :: more

/-- Builds modules side by side, and tells the first failure when all have
ended. -/
def buildSideBySide (schedule : Schedule) (bundles : List Bundle) : Build (List Artifacts) :=
  ExceptT.mk do
    let results ← Program.interleave schedule (bundles.map fun b => (s.pipeline minify b).outcome)
    return firstFailure results

/-- Builds every module and applies the projections.  The schedule counts only
where modules are built side by side. -/
def build (schedule : Schedule) : Build Report := do
  Attempt.notes (Version.parseRecords s.version)
  Attempt.notes (Bundle.ofModulesRecords s.groups s.modules)
  let bundles ← Attempt.ofExcept (Bundle.ofModules s.groups s.modules)
  Attempt.note ⟨.info, .build,
    s!"Building {bundles.length} modules at version {s.stampedVersion.display} into {
      s.outputDir.text}"⟩
  ensureDirectory s.outputDir
  let modules ←
    if s.parallel then s.buildSideBySide minify schedule bundles
    else s.buildInTurn minify bundles
  let copied ← Projection.applyAll s.outputDir s.allProjections
  Attempt.note ⟨.info, .build,
    s!"Build finished: {modules.length} modules, {copied.length} projected files"⟩
  return ⟨s.stampedVersion, s.outputDir, modules, copied⟩

end Settings

end ReleaseBundle
