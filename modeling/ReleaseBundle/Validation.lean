import ReleaseBundle.Program
import ReleaseBundle.Settings

/-!
# Validation

Validation holds the configuration against the files.  Every file that the
configuration names must be there, every file below a watched directory must be
named, and every module that a projection lists must be declared.  Files are
compared as paths, so two spellings of one path are one file; they are counted
and told in the first spelling.
-/

namespace ReleaseBundle

/-- What is wrong between the configuration and the files. -/
inductive Problem where
  /-- A file that is named is not there. -/
  | missingFile (path : Path)
  /-- A file below a watched directory is not named. -/
  | orphan (path : Path)
  /-- A projection lists a module that is not declared. -/
  | unknownModule (module : String)
deriving DecidableEq, Repr

/-- The problem in words. -/
def Problem.message : Problem → String
  | missingFile path => s!"{path.text} does not exist in the local file structure"
  | orphan path =>
    s!"{path.text} exists in the local file structure but isn't used by any module"
  | unknownModule module => "projection lists unknown module \x60" ++ module ++ "\x60"

/-- The outcome of a validation. -/
structure Findings where
  checkedFiles : Nat
  problems : List Problem
deriving DecidableEq, Repr

/-- Whether nothing is wrong. -/
def Findings.isClean (f : Findings) : Bool := f.problems.isEmpty

/-! ## Sets of paths -/

/-- Whether a path is among others, in any spelling. -/
def Path.isAmong (p : Path) (paths : List Path) : Bool := paths.any fun q => p.SameAs q

/-- Paths without those that an earlier one already spells. -/
def distinctPaths (paths : List Path) : List Path :=
  (paths.foldl (fun kept p => if p.isAmong kept then kept else p :: kept) []).reverse

namespace Settings

variable (s : Settings)

/-- For whom the groups are expanded where no module asks. -/
def manifestLabel : String := "<manifest>"

/-- Every source file that the configuration names: the files of all groups, used
or not, and the files listed by modules. -/
def referencedFiles : Except BuildError (List Path) := do
  let grouped ← s.groups.filesForAll manifestLabel s.groups.names
  let listed := s.modules.flatMap fun d => d.files?.getD []
  return distinctPaths ((grouped ++ listed).map Path.ofText)

/-- Every wrapping file that the configuration names. -/
def wrapperFiles : List Path :=
  distinctPaths (s.modules.flatMap fun d => [d.header, d.footer])

/-- The modules that projections list and nobody declares, each time they are
listed. -/
def unknownModules : List Problem :=
  (s.allProjections.flatMap Projection.modules).filterMap fun module =>
    if s.modules.any fun d => d.name = module then none else some (.unknownModule module)

/-- The named files that are not there. -/
def missingFiles : List Path → Build (List Problem)
  | [] => return []
  | path :: paths => do
    let found ← Attempt.request (.isFile (s.root.join path))
    let more ← missingFiles paths
    return if found then more else .missingFile path :: more

/-- The orphans among what a walk came upon: files below the root that are neither
hidden nor named. -/
def orphansAmong (named : List Path) (visits : List FileSystem.Visit) : List Problem :=
  visits.filterMap fun
    | .unreadable _ _ => none
    | .file path =>
      if path.isHidden then none
      else
        match path.below? s.root with
        | none => none
        | some relative => if relative.isAmong named then none else some (.orphan relative)

/-- What is said of what a walk came upon: what could not be read is passed over. -/
def visitRecords (visits : List FileSystem.Visit) : List Record :=
  visits.filterMap fun
    | .file _ => none
    | .unreadable path cause =>
      some ⟨.debug, .validation,
        s!"Skipping unreadable entry: IO error for operation on {path.text}: {cause.message}"⟩

/-- The orphans below watched directories. -/
def orphans (named : List Path) : List Path → Build (List Problem)
  | [] => return []
  | watched :: more => do
    let visits ← Attempt.request (.visitsFrom (s.root.join watched))
    Attempt.notes (visitRecords visits)
    let others ← orphans named more
    return s.orphansAmong named visits ++ others

/-- Holds the configuration against the files. -/
def validate : Build Findings := do
  Attempt.notes (s.groups.filesForAllRecords manifestLabel s.groups.names)
  let referenced ← Attempt.ofExcept s.referencedFiles
  let named := referenced ++ s.wrapperFiles
  let missing ← s.missingFiles named
  let orphans ← s.orphans named s.watchedDirs
  let findings : Findings := ⟨named.length, missing ++ orphans ++ s.unknownModules⟩
  Attempt.notes (findings.problems.map fun problem => ⟨.error, .validation, problem.message⟩)
  if findings.isClean then
    Attempt.note ⟨.info, .validation,
      s!"All {findings.checkedFiles} files were detected successfully"⟩
  return findings

end Settings

end ReleaseBundle
