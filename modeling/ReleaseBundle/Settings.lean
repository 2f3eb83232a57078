import ReleaseBundle.Bundle
import ReleaseBundle.Projection

/-!
# Settings

The settings of a run: where to read and write, the version, and the modules.
Four of them, the **scalars**, can be set in several layers: a layer says some of
them, and what it is silent about is as it was before it was applied.
-/

namespace ReleaseBundle

/-- What one layer says about the scalar settings. -/
structure Layer where
  outDir? : Option Path := none
  version? : Option String := none
  codeName? : Option String := none
  parallel? : Option Bool := none
deriving DecidableEq, Repr

/-- All settings of a run. -/
structure Settings where
  /-- What the paths of sources are seen from. -/
  root : Path
  /-- Where artifacts go, seen from the root. -/
  outDir : Path
  /-- The text that the version is read from. -/
  version : String
  codeName : String
  /-- Whether modules are built side by side. -/
  parallel : Bool
  groups : Manifest
  modules : List ModuleDecl
  testBundles : Projection
  /-- The projections after the test bundles. -/
  projections : List Projection
  /-- Directories whose files must all belong to a module. -/
  watchedDirs : List Path
deriving DecidableEq

namespace Settings

/-- The directory for test bundles, if none is set. -/
def testBundlesDir : Path := ⟨"test-bundles"⟩

/-- The settings before any layer. -/
def default : Settings where
  root := ⟨"."⟩
  outDir := ⟨"build"⟩
  version := "0.0.0"
  codeName := "snapshot"
  parallel := true
  groups := .empty
  modules := []
  testBundles := ⟨testBundlesDir, [], false⟩
  projections := []
  watchedDirs := []

/-- The settings with what a layer says. -/
def apply (s : Settings) (layer : Layer) : Settings :=
  { s with
    outDir := layer.outDir?.getD s.outDir
    version := layer.version?.getD s.version
    codeName := layer.codeName?.getD s.codeName
    parallel := layer.parallel?.getD s.parallel }

/-- Where artifacts go. -/
def outputDir (s : Settings) : Path := s.root.join s.outDir

/-- Every projection, in the order in which they are applied. -/
def allProjections (s : Settings) : List Projection := s.testBundles :: s.projections

end Settings

end ReleaseBundle
