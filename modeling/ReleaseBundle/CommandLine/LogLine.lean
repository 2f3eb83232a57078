import ReleaseBundle.Journal
import ReleaseBundle.Text.ControlSequence

/-!
# How records look

A record is shown as its level and topic in brackets and its text, whose further
lines are set in.  Where colours are wanted, control sequences paint the brackets
and the level.  Where they are not, no control sequence is shown, not even one that
came with the text.  Main statement: a plain line shows nothing hidden
(`isPlain_of_mem_plain`).
-/

namespace ReleaseBundle.CommandLine

open Text (ControlSequence.isPlain ControlSequence.withoutControls)

/-- How records look. -/
inductive LineStyle where
  | plain
  | coloured
deriving DecidableEq, Repr

/-- A text in the looks that some codes select; behind it nothing is selected. -/
def painted (codes : List Nat) (text : String) : String :=
  String.join (codes.map fun code => s!"\x1b[{code}m") ++ text ++ "\x1b[0m"

/-- The codes for a level: bold red, yellow, green, blue and cyan. -/
def levelCodes : Level → List Nat
  | .error => [1, 31]
  | .warn => [33]
  | .info => [32]
  | .debug => [34]
  | .trace => [36]

/-- The code for the brackets, a dark grey. -/
def bracketCodes : List Nat := [90]

/-- A level's name, as wide as the widest. -/
def paddedLabel (level : Level) : String :=
  level.label ++ String.ofList (List.replicate (5 - level.label.length) ' ')

/-- The text of a record with its further lines set in. -/
def indented (text : String) : String := text.replace "\n" "\n    "

/-- A record without colours. -/
def plainLine (r : Record) : String :=
  let line := s!"[{paddedLabel r.level} {r.topic.label}] {indented r.text}\n"
  String.ofList (ControlSequence.withoutControls line.toList)

/-- A record in colours. -/
def colouredLine (r : Record) : String :=
  painted bracketCodes "[" ++ painted (levelCodes r.level) (paddedLabel r.level) ++
    s!" {r.topic.label}" ++ painted bracketCodes "]" ++ s!" {indented r.text}\n"

/-- A record as it is shown, with the line break at its end. -/
def LineStyle.line : LineStyle → Record → String
  | plain => plainLine
  | coloured => colouredLine

/-- A plain line shows nothing hidden. -/
theorem isPlain_of_mem_plain {r : Record} {c : Char} (h : c ∈ (LineStyle.plain.line r).toList) :
    ControlSequence.isPlain c = true := by
  simp only [LineStyle.line, plainLine, String.toList_ofList] at h
  exact Text.ControlSequence.isPlain_of_mem_withoutControls h

end ReleaseBundle.CommandLine
