import ReleaseBundle.Text.Line

/-!
# What is wrong with a pattern's text

A text that writes no pattern has a **fault**: what is wrong, the stretch of the
text where it is wrong, and at times a second stretch that it conflicts with.  A
message shows the text with its faulty stretches marked below; a text of several
lines is shown with their numbers.
-/

namespace ReleaseBundle.Pattern

/-- A stretch of a text, by the numbers of the characters before its ends. -/
structure Span where
  first : Nat
  last : Nat
deriving DecidableEq, Repr

/-- The stretch of nothing at a place. -/
def Span.here (i : Nat) : Span := ⟨i, i⟩

/-- The stretch of one character. -/
def Span.char (i : Nat) : Span := ⟨i, i + 1⟩

/-- What may be wrong. -/
inductive Problem where
  | classEscape
  | classRange
  | classRangeEnd
  | classUnclosed
  | decimalInvalid
  | hexEmpty
  | hexNoCharacter
  | hexDigit
  | escapeUnfinished
  | escapeUnknown
  | flagDangling
  | flagRepeated
  | flagNegatedTwice
  | flagUnfinished
  | flagUnknown
  | nameRepeated
  | nameEmpty
  | nameCharacter
  | nameUnfinished
  | groupUnclosed
  | groupUnopened
  | depth (limit : Nat)
  | countOrder
  | countMissing
  | countUnclosed
  | nothingToRepeat
  | boundaryUnclosed
  | boundaryUnknown
  | boundaryUnfinished
  | propertyWriting
  | backreference
  | lookAround
  | unicodeNeeded
  | notText
  | propertyUnknown
  | propertyValueUnknown
deriving DecidableEq, Repr

/-- What is wrong, in words. -/
def Problem.message : Problem → String
  | classEscape => "invalid escape sequence found in character class"
  | classRange => "invalid character class range, the start must be <= the end"
  | classRangeEnd => "invalid range boundary, must be a literal"
  | classUnclosed => "unclosed character class"
  | decimalInvalid => "decimal literal invalid"
  | hexEmpty => "hexadecimal literal empty"
  | hexNoCharacter => "hexadecimal literal is not a Unicode scalar value"
  | hexDigit => "invalid hexadecimal digit"
  | escapeUnfinished => "incomplete escape sequence, reached end of pattern prematurely"
  | escapeUnknown => "unrecognized escape sequence"
  | flagDangling => "dangling flag negation operator"
  | flagRepeated => "duplicate flag"
  | flagNegatedTwice => "flag negation operator repeated"
  | flagUnfinished => "expected flag but got end of regex"
  | flagUnknown => "unrecognized flag"
  | nameRepeated => "duplicate capture group name"
  | nameEmpty => "empty capture group name"
  | nameCharacter => "invalid capture group character"
  | nameUnfinished => "unclosed capture group name"
  | groupUnclosed => "unclosed group"
  | groupUnopened => "unopened group"
  | depth limit => s!"exceed the maximum number of nested parentheses/brackets ({limit})"
  | countOrder => "invalid repetition count range, the start must be <= the end"
  | countMissing => "repetition quantifier expects a valid decimal"
  | countUnclosed => "unclosed counted repetition"
  | nothingToRepeat => "repetition operator missing expression"
  | boundaryUnclosed =>
    "special word boundary assertion is either unclosed or contains an invalid character"
  | boundaryUnknown =>
    "unrecognized special word boundary assertion, valid choices are: start, end, start-half " ++
      "or end-half"
  | boundaryUnfinished =>
    "found either the beginning of a special word boundary or a bounded repetition on a \\b " ++
      "with an opening brace, but no closing brace"
  | propertyWriting => "invalid Unicode character class"
  | backreference => "backreferences are not supported"
  | lookAround => "look-around, including look-ahead and look-behind, is not supported"
  | unicodeNeeded => "Unicode not allowed here"
  | notText => "pattern can match invalid UTF-8"
  | propertyUnknown => "Unicode property not found"
  | propertyValueUnknown => "Unicode property value not found"

/-- What is wrong, and where. -/
structure Fault where
  problem : Problem
  span : Span
  /-- The stretch that the faulty one conflicts with. -/
  other? : Option Span := none
deriving DecidableEq, Repr

/-! ## Showing a fault -/

/-- The line of a place and its column in it, counted from one. -/
def position (text : String) (i : Nat) : Nat × Nat :=
  let before := text.toList.take i
  (before.count '\n' + 1, (before.reverse.takeWhile (· ≠ '\n')).length + 1)

/-- How many digits the numbers of so many lines take; a single line has none. -/
def numberWidth (lineCount : Nat) : Nat :=
  if lineCount ≤ 1 then 0 else (toString lineCount).length

/-- So many of a character. -/
def repeated (count : Nat) (c : Char) : String := String.ofList (List.replicate count c)

/-- The marks for a stretch between two columns, at least one. -/
def marks (first last : Nat) : List Char := List.replicate (max 1 (last - first)) '^'

/-- The line of marks for stretches of a line, from their columns in order. -/
def markLine (columns : List (Nat × Nat)) : String :=
  String.ofList (columns.foldl (fun line (first, last) =>
    line ++ List.replicate (first - 1 - line.length) ' ' ++ marks first last) [])

namespace Fault

/-- The faulty stretches, from the front. -/
def spans (fault : Fault) : List Span :=
  match fault.other? with
  | none => [fault.span]
  | some other =>
    if other.first < fault.span.first then [other, fault.span] else [fault.span, other]

/-- A text with the stretches that lie in one line marked below it. -/
def annotated (fault : Fault) (text : String) : String :=
  let shown := Text.lines text
  let width := numberWidth (shown.length + if text.endsWith "\n" then 1 else 0)
  let marked (number : Nat) : List (Nat × Nat) := fault.spans.filterMap fun span =>
    let (line, first) := position text span.first
    let (lastLine, last) := position text span.last
    if line = number && lastLine = number then some (first, last) else none
  String.join (shown.zipIdx.map fun (line, i) =>
    let number := toString (i + 1)
    let start :=
      if width = 0 then "    " else repeated (width - number.length) ' ' ++ number ++ ": "
    let below := match marked (i + 1) with
      | [] => ""
      | columns => repeated start.length ' ' ++ markLine columns ++ "\n"
    start ++ line ++ "\n" ++ below)

/-- The remarks on the stretches that go over several lines. -/
def remarks (fault : Fault) (text : String) : List String :=
  fault.spans.filterMap fun span =>
    let (line, first) := position text span.first
    let (lastLine, last) := position text span.last
    if line = lastLine then none
    else some s!"on line {line} (column {first}) through line {lastLine} (column {last - 1})"

/-- What is said about a text with a fault. -/
def message (fault : Fault) (text : String) : String :=
  let divider := repeated 79 '~' ++ "\n"
  let body :=
    if text.contains '\n' then
      let remarks := fault.remarks text
      divider ++ fault.annotated text ++ divider ++
        if remarks.isEmpty then "" else "\n".intercalate remarks ++ "\n"
    else fault.annotated text
  "regex parse error:\n" ++ body ++ "error: " ++ fault.problem.message

end Fault

end ReleaseBundle.Pattern
