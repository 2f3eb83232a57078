/-!
# Lines

A line break ends a line, also together with a carriage return before it.  Behind
the last line break there is no line unless a text stands there.
-/

namespace ReleaseBundle.Text

/-- The lines of a text, as characters. -/
def charLines : List Char → List (List Char)
  | [] => []
  | '\n' :: rest => [] :: charLines rest
  | '\r' :: '\n' :: rest => [] :: charLines rest
  | c :: rest =>
    match charLines rest with
    | [] => [[c]]
    | line :: more => (c :: line) :: more

/-- The lines of a text. -/
def lines (text : String) : List String := (charLines text.toList).map String.ofList

/-! ## Boundary tests -/

/-- Both ways to end a line count, and the last line need not be ended. -/
example : charLines "a\r\n\nb\r".toList = ["a".toList, [], "b\r".toList] := by decide

end ReleaseBundle.Text
