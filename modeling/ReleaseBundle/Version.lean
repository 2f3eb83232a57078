import ReleaseBundle.Journal
import ReleaseBundle.Text.Digit
import ReleaseBundle.Text.Quoted

/-!
# Versions

A release is stamped with a version: three numbers, their dotted text, and a
code name.  The version is read from free text such as a tag: the first place
where three runs of digits stand with dots between them (`firstTriple?`) gives
the numbers.  A digit of any script belongs to such a run, but a number is
written in ASCII digits and fits a word of sixty-four bits; a text whose first
triple is no such number, or that has no triple, stands for version 0.0.0 without
a code name.
-/

namespace ReleaseBundle

/-- A version as it is stamped into a bundle. -/
structure Version where
  major : UInt64
  minor : UInt64
  patch : UInt64
  /-- The text stamped for the whole version. -/
  full : String
  /-- The text stamped for the version on a content delivery network. -/
  cdn : String
  codeName : String
deriving DecidableEq, Repr

namespace Version

/-- A number in decimal. -/
def decimal (n : UInt64) : String := String.ofList (Nat.toDigits 10 n.toNat)

/-- The dotted text of three numbers. -/
def dotted (major minor patch : UInt64) : String :=
  decimal major ++ "." ++ decimal minor ++ "." ++ decimal patch

/-- The version of three numbers; its texts are the dotted numbers. -/
def ofNumbers (major minor patch : UInt64) (codeName : String) : Version where
  major := major
  minor := minor
  patch := patch
  full := dotted major minor patch
  cdn := dotted major minor patch
  codeName := codeName

/-- The version of a text that has none. -/
def fallback : Version := ofNumbers 0 0 0 ""

/-- The version as messages show it: its text, and the code name if there is
one. -/
def display (v : Version) : String :=
  if v.codeName.isEmpty then v.full else v.full ++ " (" ++ v.codeName ++ ")"

/-! ## Reading -/

/-- Three runs of digits. -/
structure Triple where
  major : List Char
  minor : List Char
  patch : List Char
deriving DecidableEq, Repr

/-- The run of digits that a text starts with, if it starts with a digit, and the
text after the run. -/
def digitRun? (text : List Char) : Option (List Char × List Char) :=
  match text.takeWhile Text.isDigit with
  | [] => none
  | run => some (run, text.dropWhile Text.isDigit)

/-- The text after the dot that it starts with. -/
def afterDot? : List Char → Option (List Char)
  | '.' :: rest => some rest
  | _ => none

/-- The triple that a text starts with. -/
def tripleAt? (text : List Char) : Option Triple := do
  let (major, rest) ← digitRun? text
  let rest ← afterDot? rest
  let (minor, rest) ← digitRun? rest
  let rest ← afterDot? rest
  let (patch, _) ← digitRun? rest
  return ⟨major, minor, patch⟩

/-- The first triple in a text. -/
def firstTriple? : List Char → Option Triple
  | [] => none
  | c :: rest =>
    match tripleAt? (c :: rest) with
    | some triple => some triple
    | none => firstTriple? rest

/-- The number that a run of digits writes, if the digits are ASCII and the
number fits a word. -/
def number? (run : List Char) : Option UInt64 :=
  let value := Text.decimalValue 0 run
  if run.all Text.isAsciiDigit && value < UInt64.size then some (UInt64.ofNat value) else none

/-- Why a text is no version. -/
inductive Defect where
  | noTriple
  | outOfRange
deriving DecidableEq, Repr

/-- The version that a text writes. -/
def read (text codeName : String) : Except Defect Version :=
  match firstTriple? text.toList with
  | none => .error .noTriple
  | some triple =>
    match number? triple.major, number? triple.minor, number? triple.patch with
    | some major, some minor, some patch => .ok (ofNumbers major minor patch codeName)
    | _, _, _ => .error .outOfRange

/-- The version for a text, whatever the text. -/
def parse (text codeName : String) : Version :=
  match read text codeName with
  | .ok version => version
  | .error _ => fallback

/-- What is said about a text that is no version. -/
def Defect.record (text : String) : Defect → Record
  | noTriple =>
    ⟨.warn, .version, s!"Version string {Text.quoted text} has no major.minor.patch, using 0.0.0"⟩
  | outOfRange =>
    ⟨.warn, .version,
      s!"Version string {Text.quoted text} has out-of-range components, using 0.0.0"⟩

/-- What is said while a text is read as a version. -/
def parseRecords (text : String) : List Record :=
  match read text "" with
  | .ok _ => []
  | .error defect => [defect.record text]

end Version

end ReleaseBundle
