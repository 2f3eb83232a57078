import ReleaseBundle.Pattern.Fault
import ReleaseBundle.Text.Blank

/-!
# A place in a pattern's text

A **cursor** is a place in a text together with what follows.  A text may be read
loosely: then blanks mean nothing, and neither does a comment, which goes from a
number sign to the end of its line.  The characters that mean something are the
**significant** ones.
-/

namespace ReleaseBundle.Pattern

/-- A place in a text. -/
structure Cursor where
  /-- How many characters lie before it. -/
  index : Nat
  rest : List Char
  /-- Whether blanks and comments mean nothing. -/
  loose : Bool

namespace Cursor

/-- The start of a text. -/
def start (text : String) : Cursor := ⟨0, text.toList, false⟩

/-- Whether nothing follows. -/
def isEnd (c : Cursor) : Bool := c.rest.isEmpty

/-- The next character. -/
def next? (c : Cursor) : Option Char := c.rest.head?

/-- Whether some character comes next. -/
def faces (c : Cursor) (char : Char) : Bool := c.next? == some char

/-- The stretch from one place to another. -/
def upTo (c d : Cursor) : Span := ⟨c.index, d.index⟩

/-- The stretch of nothing at the place. -/
def here (c : Cursor) : Span := .here c.index

/-- The stretch of the next character. -/
def char (c : Cursor) : Span := .char c.index

/-- The place some characters on. -/
def drop (c : Cursor) (count : Nat) : Cursor :=
  { c with index := c.index + (c.rest.take count).length, rest := c.rest.drop count }

/-- The place behind the next character. -/
def bump (c : Cursor) : Cursor := c.drop 1

/-- The place behind a text, where that comes next. -/
def behind? (c : Cursor) (text : String) : Option Cursor :=
  if text.toList.isPrefixOf c.rest then some (c.drop text.length) else none

/-- The significant characters of a text that pass a test, up to the first that does
not, each with the number of characters before it, and the text from there with the
number of characters before that. -/
def takeFrom (test : Char → Bool) (loose inComment : Bool) (index : Nat) :
    List Char → List (Nat × Char) × Nat × List Char
  | [] => ([], index, [])
  | c :: rest =>
    if inComment then takeFrom test loose (c ≠ '\n') (index + 1) rest
    else if loose && Text.isBlank c then takeFrom test loose false (index + 1) rest
    else if loose && c = '#' then takeFrom test loose true (index + 1) rest
    else if test c then
      let (taken, place) := takeFrom test loose false (index + 1) rest
      ((index, c) :: taken, place)
    else ([], index, c :: rest)

/-- The significant characters that follow and pass a test, up to the first that
does not, and the place before that. -/
def taking (c : Cursor) (test : Char → Bool) : List (Nat × Char) × Cursor :=
  let (taken, index, rest) := takeFrom test c.loose false c.index c.rest
  (taken, { c with index, rest })

/-- The place before the next significant character. -/
def skip (c : Cursor) : Cursor := (c.taking fun _ => false).2

/-- The place behind the next character and before the next significant one. -/
def advance (c : Cursor) : Cursor := c.bump.skip

/-- The place behind blanks, in whatever way the text is read. -/
def skipBlanks (c : Cursor) : Cursor := c.drop (c.rest.takeWhile Text.isBlank).length

end Cursor

end ReleaseBundle.Pattern
