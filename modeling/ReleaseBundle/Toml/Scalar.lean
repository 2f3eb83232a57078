import ReleaseBundle.Text.Digit
import ReleaseBundle.Toml.Value

/-!
# Bare values

A value without quotes and brackets is a boolean, a number or a moment: a date, a
time of day, or both.  No setting is a number or a moment, but such a value may
stand where it is passed over, and then it has to be well written.  Its text is
kept as it stands, so nothing here depends on how large a number may be.
-/

namespace ReleaseBundle.Toml

namespace Scalar

open Text (isAsciiDigit decimalValue)

/-! ## Numbers -/

/-- Whether a text is a run of digits with single underscores between them. -/
def isGrouped (digit : Char → Bool) : List Char → Bool
  | [] => false
  | [c] => digit c
  | c :: '_' :: rest => digit c && isGrouped digit rest
  | c :: rest => digit c && isGrouped digit rest

/-- A text without the sign before it. -/
def unsigned : List Char → List Char
  | '+' :: rest => rest
  | '-' :: rest => rest
  | text => text

/-- Whether a text is a whole number in base ten: a zero stands alone. -/
def isWhole (text : List Char) : Bool :=
  text = ['0'] || (text.head? ≠ some '0' && isGrouped isAsciiDigit text)

/-- Whether a character is a digit of base sixteen. -/
def isHexDigit (c : Char) : Bool :=
  isAsciiDigit c || ('a' ≤ c && c ≤ 'f') || ('A' ≤ c && c ≤ 'F')

/-- Whether a text is a number in another base; after the letter of the base no
digit need follow. -/
def isBased : List Char → Bool
  | '0' :: 'x' :: rest => rest.isEmpty || isGrouped isHexDigit rest
  | '0' :: 'o' :: rest => rest.isEmpty || isGrouped (fun c => '0' ≤ c && c ≤ '7') rest
  | '0' :: 'b' :: rest => rest.isEmpty || isGrouped (fun c => c = '0' || c = '1') rest
  | _ => false

/-- Whether a text is a power of ten behind a number. -/
def isExponent : List Char → Bool
  | 'e' :: rest => isGrouped isAsciiDigit (unsigned rest)
  | 'E' :: rest => isGrouped isAsciiDigit (unsigned rest)
  | _ => false

/-- Whether a text is a number with a fraction, a power of ten, or both. -/
def isFractional (text : List Char) : Bool :=
  let (whole, rest) := text.span fun c => isAsciiDigit c || c = '_'
  isWhole whole &&
    match rest with
    | '.' :: rest =>
      let (fraction, rest) := rest.span fun c => isAsciiDigit c || c = '_'
      isGrouped isAsciiDigit fraction && (rest.isEmpty || isExponent rest)
    | _ => isExponent rest

/-- Whether a text is a number. -/
def isNumber (text : List Char) : Bool :=
  let bare := unsigned text
  isBased text || isWhole bare || isFractional bare || bare = "inf".toList || bare = "nan".toList

/-! ## Moments -/

/-- The number that a given count of digits writes, and the text after them. -/
def number? (count : Nat) (text : List Char) : Option (Nat × List Char) :=
  let digits := text.take count
  if digits.length = count ∧ digits.all isAsciiDigit then
    some (decimalValue 0 digits, text.drop count)
  else none

/-- The text after a character that must stand first. -/
def behind? (mark : Char) : List Char → Option (List Char)
  | c :: rest => if c = mark then some rest else none
  | [] => none

/-- The number of days of a month. -/
def daysIn (year month : Nat) : Nat :=
  match month with
  | 2 => if year % 4 = 0 ∧ (year % 100 ≠ 0 ∨ year % 400 = 0) then 29 else 28
  | 4 => 30
  | 6 => 30
  | 9 => 30
  | 11 => 30
  | _ => 31

/-- The text after a date. -/
def date? (text : List Char) : Option (List Char) := do
  let (year, text) ← number? 4 text
  let (month, text) ← number? 2 (← behind? '-' text)
  let (day, text) ← number? 2 (← behind? '-' text)
  if 1 ≤ month ∧ month ≤ 12 ∧ 1 ≤ day ∧ day ≤ daysIn year month then some text else none

/-- The text after hours and minutes. -/
def hours? (text : List Char) : Option (List Char) := do
  let (hour, text) ← number? 2 text
  let (minute, text) ← number? 2 (← behind? ':' text)
  if hour ≤ 23 ∧ minute ≤ 59 then some text else none

/-- The text after the fraction of a second, if one stands first. -/
def fraction? : List Char → Option (List Char)
  | '.' :: rest =>
    let (digits, rest) := rest.span isAsciiDigit
    if digits.isEmpty then none else some rest
  | text => some text

/-- The text after a time of day, which may leave out the seconds; there may be a
leap second. -/
def time? (text : List Char) : Option (List Char) := do
  match ← hours? text with
  | ':' :: rest =>
    let (second, rest) ← number? 2 rest
    if second ≤ 60 then fraction? rest else none
  | rest => some rest

/-- Whether a text is a distance from universal time, or nothing. -/
def isOffset : List Char → Bool
  | [] => true
  | ['Z'] => true
  | ['z'] => true
  | '+' :: rest => hours? rest = some []
  | '-' :: rest => hours? rest = some []
  | _ => false

/-- Whether a text is a date, a time of day, or a date with a time. -/
def isMoment (text : List Char) : Bool :=
  match date? text with
  | some [] => true
  | some (c :: rest) =>
    (c = 'T' || c = 't' || c = ' ') && ((time? rest).map isOffset).getD false
  | none => time? text = some []

end Scalar

/-- The value that a text without quotes writes. -/
def Value.ofBare? (text : String) : Option Value :=
  if text = "true" then some (.flag true)
  else if text = "false" then some (.flag false)
  else if Scalar.isNumber text.toList then some (.number text)
  else if Scalar.isMoment text.toList then some (.moment text)
  else none

end ReleaseBundle.Toml
