/-!
# Minifiers

A minifier turns a script into shorter code that does the same, with a source map
from the code back to the script.  The map calls the script by a **label**, its
file name.  A minifier is a function: it answers the same script and label in the
same way, or refuses a script and says why.
-/

namespace ReleaseBundle

/-- Minified code and its source map. -/
structure Minified where
  code : String
  map : String
deriving DecidableEq, Repr

/-- A minifier: from a script and its label to code, or a reason to refuse. -/
abbrev Minifier := (script label : String) → Except String Minified

namespace Minifier

/-- A character inside a JSON string. -/
def jsonChar (c : Char) : List Char :=
  match c with
  | '"' => ['\\', '"']
  | '\\' => ['\\', '\\']
  | _ =>
    if c.toNat < 0x20 then
      ['\\', 'u', '0', '0', Nat.digitChar (c.toNat / 16), Nat.digitChar (c.toNat % 16)]
    else [c]

/-- A text as a JSON string. -/
def jsonString (text : String) : List Char := '"' :: text.toList.flatMap jsonChar ++ ['"']

/-- The mappings that send the start of every line to the start of the same line:
the first line to itself, and each later one a line further than the one before
it. -/
def lineMappings (script : String) : List Char :=
  script.toList.foldl (fun mappings c => if c = '\n' then mappings ++ ";AACA".toList else mappings)
    "AAAA".toList

/-- The source map of a script that is its own code. -/
def lineMap (script label : String) : String :=
  String.ofList ("\x7b\"version\":3,\"names\":[],\"sources\":[".toList ++ jsonString label ++
    "],\"mappings\":\"".toList ++ lineMappings script ++ "\"\x7d".toList)

/-- The minifier that keeps every script as it is. -/
def verbatim : Minifier := fun script label => .ok ⟨script, lineMap script label⟩

end Minifier

end ReleaseBundle
