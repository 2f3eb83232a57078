import ReleaseBundle.Bundle
import ReleaseBundle.Placeholder
import ReleaseBundle.Program

/-!
# Assembly

A bundle's script is its fragments, the wrapping files included, one after the
other with a line break between them, so that a fragment without one at its end
does not run into the next.  The version is stamped into the whole.
-/

namespace ReleaseBundle.Bundle

/-- What stands between two fragments. -/
def separator : String := "\n"

/-- The texts of files; the first that cannot be read ends the program. -/
def readAll : List Path → Build (List String)
  | [] => return []
  | path :: paths => do
    let text ← Attempt.orFail (Attempt.request (.readText path)) (.missingSource path)
    let texts ← readAll paths
    return text :: texts

/-- The fragments of a bundle as one text, read from below `root`. -/
def concatenate (b : Bundle) (root : Path) : Build String := do
  let fragments ← readAll (b.readOrder.map root.join)
  Attempt.note ⟨.debug, .assembly,
    s!"Read {fragments.length} fragments for module '{b.name}'"⟩
  return separator.intercalate fragments

/-- The script of a bundle, with a version stamped into it. -/
def assemble (b : Bundle) (root : Path) (version : Version) : Build String := do
  let text ← b.concatenate root
  Attempt.notes (Placeholder.substituteRecords text)
  return Placeholder.substitute version text

end ReleaseBundle.Bundle
