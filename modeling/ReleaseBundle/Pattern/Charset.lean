import ReleaseBundle.Text.CaseFold
import ReleaseBundle.Text.Category

/-!
# Sets of characters

A pattern tells one character from another by **sets**.  A set is written as it is
put together: from ranges and tables, by union, intersection, difference, complement
and closure under case.  `Charset.has` reads it.
-/

namespace ReleaseBundle

open Text

/-- A set of characters. -/
inductive Charset where
  | none
  /-- The characters between two, both included. -/
  | range (first last : Char)
  /-- The characters of a table. -/
  | listed (runs : List Run)
  | union (a b : Charset)
  | inter (a b : Charset)
  | diff (a b : Charset)
  /-- The characters of one of two sets that the other does not hold. -/
  | symmDiff (a b : Charset)
  | compl (a : Charset)
  /-- The characters that differ from one of the set in case only. -/
  | anyCase (a : Charset)
  /-- The same for the letters of ASCII alone. -/
  | anyAsciiCase (a : Charset)
deriving DecidableEq, Repr

namespace Charset

instance : Union Charset := ⟨union⟩

instance : Inter Charset := ⟨inter⟩

instance : SDiff Charset := ⟨diff⟩

/-- Whether a set holds a character. -/
def has : Charset → Char → Bool
  | none, _ => false
  | range first last, c => first ≤ c && c ≤ last
  | listed runs, c => anyHas runs c
  | union a b, c => a.has c || b.has c
  | inter a b, c => a.has c && b.has c
  | diff a b, c => a.has c && !b.has c
  | symmDiff a b, c => a.has c != b.has c
  | compl a, c => !a.has c
  | anyCase a, c => (caseVariants c).any a.has
  | anyAsciiCase a, c => a.has c || a.has c.toLower || a.has c.toUpper

/-- The set of one character. -/
def single (c : Char) : Charset := range c c

/-- All characters. -/
def all : Charset := compl none

/-- The union of sets. -/
def unions (sets : List Charset) : Charset := sets.foldl union none

/-- The union of ranges. -/
def ranges (ends : List (Char × Char)) : Charset :=
  unions (ends.map fun (first, last) => range first last)

/-- The characters of one category. -/
def ofCategory (category : Category) : Charset := listed category.runs

/-- The characters of some categories. -/
def ofCategories (categories : List Category) : Charset := unions (categories.map ofCategory)

end Charset

/-- A set with the names that stand for it. -/
structure NamedSet where
  names : List String
  chars : Charset

namespace NamedSet

/-- The set that a name stands for. -/
def find? (sets : List NamedSet) (name : String) : Option Charset :=
  match sets.find? (·.names.contains name) with
  | some found => some found.chars
  | none => none

end NamedSet

end ReleaseBundle
