import ReleaseBundle.FileSystem.Basic

/-!
# Why a build fails

Every failure ends the build: each means that the configuration names something
that is not there, or that a file cannot be read or written.
-/

namespace ReleaseBundle

/-- Why a build fails. -/
inductive BuildError where
  /-- A fragment of a module cannot be read. -/
  | missingSource (path : Path) (cause : IoError)
  /-- The minifier refuses a script; the label is the script's file name. -/
  | rejectedScript (label : String) (reason : String)
  /-- A directory cannot be made, or a file cannot be written or copied. -/
  | unwritable (path : Path) (cause : IoError)
  /-- A group that is not defined is asked for, on behalf of a module. -/
  | unknownGroup (module : String) (group : String)
  /-- A group refers to itself, by way of the groups of the chain. -/
  | groupCycle (chain : List String)
  /-- A module has no source file. -/
  | noSources (module : String)
  /-- A file that is to be copied for a module is not there. -/
  | missingArtifact (module : String) (path : Path)
deriving DecidableEq, Repr

namespace BuildError

/-- The failure in words, without its cause. -/
def message : BuildError → String
  | missingSource path _ => s!"missing source file {path.text}"
  | rejectedScript label reason => s!"failed to minify {label}: {reason}"
  | unwritable path _ => s!"failed to write {path.text}"
  | unknownGroup module group => "module \x60" ++ module ++
      "\x60 references unknown manifest group \x60" ++ group ++ "\x60"
  | groupCycle chain => "manifest group reference cycle: " ++ " -> ".intercalate chain
  | noSources module => "module \x60" ++ module ++ "\x60 resolves to an empty source list"
  | missingArtifact module path =>
    "artifact for module \x60" ++ module ++ "\x60 was not produced at " ++ path.text

/-- The failure of a file operation behind this one. -/
def cause? : BuildError → Option IoError
  | missingSource _ cause => some cause
  | unwritable _ cause => some cause
  | _ => none

/-- The failure in words, followed by its cause. -/
def fullMessage (e : BuildError) : String :=
  match e.cause? with
  | some cause => e.message ++ ": " ++ cause.message
  | none => e.message

end BuildError

end ReleaseBundle
