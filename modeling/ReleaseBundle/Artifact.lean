import ReleaseBundle.Digest
import ReleaseBundle.Minifier
import ReleaseBundle.Program

/-!
# Artifacts

A finished module is three files in the output directory: the full script, the
minified script, and the source map of the minified one.  The minified script
ends with a line that names its map.  The full script is written before it is
minified, so a script that the minifier refuses can be looked at.
-/

namespace ReleaseBundle

/-! ## Names -/

/-- The file name of a module's full script. -/
def fullName (module : String) : String := module ++ ".js"

/-- The file name of a module's minified script. -/
def minName (module : String) : String := module ++ ".min.js"

/-- The file name of a module's source map. -/
def mapName (module : String) : String := module ++ ".min.js.map"

/-- The artifacts of one module, and the digest of the full script. -/
structure Artifacts where
  module : String
  full : Path
  min : Path
  map : Path
  digest : String
deriving DecidableEq, Repr

/-- The last line of a minified script, which names its source map. -/
def trailer (module : String) : String := "//# sourceMappingURL=" ++ mapName module ++ "\n"

/-- Minified code with the trailer on a line of its own. -/
def withTrailer (module code : String) : String :=
  if code.toList.getLast? = some '\n' then code ++ trailer module
  else code ++ "\n" ++ trailer module

/-! ## Writing them -/

/-- Makes a directory, with all the directories it lies in. -/
def ensureDirectory (dir : Path) : Build Unit :=
  Attempt.orFail (Attempt.request (.ensureDirectory dir)) (.unwritable dir)

/-- Writes a text into a file. -/
def writeFile (path : Path) (text : String) : Build Unit := do
  Attempt.orFail (Attempt.request (.writeText path text)) (.unwritable path)
  Attempt.note ⟨.debug, .artifact, s!"Wrote {path.text} ({text.utf8ByteSize} bytes)"⟩

/-- Writes the artifacts of a module with the given script. -/
def finalize (module script : String) (outDir : Path) (minify : Minifier) : Build Artifacts := do
  ensureDirectory outDir
  let full := outDir.child (fullName module)
  writeFile full script
  match minify script (fullName module) with
  | .error reason => throw (.rejectedScript (fullName module) reason)
  | .ok minified =>
    let min := outDir.child (minName module)
    let map := outDir.child (mapName module)
    writeFile min (withTrailer module minified.code)
    writeFile map minified.map
    let digest := Digest.sha256 script.toUTF8
    Attempt.note ⟨.info, .artifact,
      s!"Finalized {module} ({String.ofList (digest.toList.take 12)})"⟩
    return ⟨module, full, min, map, digest⟩

end ReleaseBundle
