import ReleaseBundle.Artifact

/-!
# Projections

A projection copies artifacts of listed modules into a second directory: the full
scripts alone, or the minified ones and their maps as well.  All artifacts are
looked for before the first is copied, so a missing one leaves the target as it
was.
-/

namespace ReleaseBundle

/-- Which artifacts are copied where. -/
structure Projection where
  /-- The target, seen from the output directory. -/
  dir : Path
  modules : List String
  includeMinified : Bool
deriving DecidableEq, Repr

/-- One file to be copied, for a module. -/
structure FileCopy where
  module : String
  source : Path
  target : Path
deriving DecidableEq, Repr

namespace Projection

/-- The files that are copied for a module. -/
def fileNames (p : Projection) (module : String) : List String :=
  if p.includeMinified then [fullName module, minName module, mapName module]
  else [fullName module]

/-- The directory that the files go to. -/
def target (p : Projection) (outDir : Path) : Path := outDir.join p.dir

/-- Every file to be copied, in order. -/
def copies (p : Projection) (outDir : Path) : List FileCopy :=
  p.modules.flatMap fun module =>
    (p.fileNames module).map fun name : String =>
      ⟨module, outDir.child name, (p.target outDir).child name⟩

/-- Looks for the sources of copies; the first that is no file ends the
program. -/
def checkSources : List FileCopy → Build Unit
  | [] => return
  | copy :: copies => do
    if ← Attempt.request (.isFile copy.source) then checkSources copies
    else throw (.missingArtifact copy.module copy.source)

/-- Makes copies, in order, and tells where they are. -/
def makeCopies : List FileCopy → Build (List Path)
  | [] => return []
  | copy :: copies => do
    Attempt.orFail (Attempt.request (.copy copy.source copy.target)) (.unwritable copy.target)
    Attempt.note ⟨.debug, .projection, s!"Copied {copy.source.text} -> {copy.target.text}"⟩
    let targets ← makeCopies copies
    return copy.target :: targets

/-- Copies the listed artifacts from the output directory. -/
def apply (p : Projection) (outDir : Path) : Build (List Path) := do
  checkSources (p.copies outDir)
  ensureDirectory (p.target outDir)
  let targets ← makeCopies (p.copies outDir)
  Attempt.note ⟨.info, .projection,
    s!"Projected {p.modules.length} modules into {(p.target outDir).text}"⟩
  return targets

/-- Applies projections one after the other. -/
def applyAll (outDir : Path) : List Projection → Build (List Path)
  | [] => return []
  | p :: projections => do
    let targets ← p.apply outDir
    let more ← applyAll outDir projections
    return targets ++ more

end Projection

end ReleaseBundle
