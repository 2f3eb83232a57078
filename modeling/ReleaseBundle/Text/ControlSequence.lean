/-!
# Control sequences

Text that is meant for a screen may hold **control sequences**: an escape
character and what belongs to it, which a terminal obeys and does not show.  A
reader of such a text is always at one **place** of a sequence or in plain text,
and every character takes it on.  This module keeps what a terminal would show.

Once a character is shown, the characters after it are shown as in plain text
until the next hidden one, even where the sequence before them was left open: a
line break in the middle of a sequence is shown, and so is the rest of its line.

Main statements: what is left holds shown characters only
(`isPlain_of_mem_withoutControls`), and a text without any other is left as it is
(`withoutControls_of_isPlain`).
-/

namespace ReleaseBundle.Text.ControlSequence

/-- Where a reader of a text stands. -/
inductive Place where
  /-- In plain text. -/
  | text
  /-- Behind the escape character. -/
  | escape
  /-- Behind the escape character and an intermediate character. -/
  | escapeTail
  /-- In a sequence of parameters, which one of its letters ends. -/
  | parameters
  /-- In a command to the operating system, which a bell ends. -/
  | command
  /-- At the start of a device control. -/
  | device
  /-- In the numbers of a device control. -/
  | deviceNumber
  /-- In the intermediate characters of a device control. -/
  | deviceTail
  /-- In a string that is not shown. -/
  | body
deriving DecidableEq, Repr

/-- Whether a code point lies between two others, both included. -/
def within (c : Char) (first last : Nat) : Bool := first ≤ c.toNat && c.toNat ≤ last

/-- Whether a character is ASCII. -/
def isAscii (c : Char) : Bool := c.toNat < 0x80

/-- Whether the octets of a character hold the one that ends a string, 0x9C. -/
def holdsTerminator (c : Char) : Bool := (String.singleton c).toUTF8.data.contains 0x9C

namespace Place

/-- The place behind a character.  An escape opens a new sequence wherever it
stands, and the two characters that cancel close any. -/
def next (place : Place) (c : Char) : Place :=
  if c = '\x1b' then .escape
  else if c = '\x18' || c = '\x1a' then .text
  else
    match place with
    | .text => .text
    | .escape =>
      if c = '[' then .parameters
      else if c = ']' then .command
      else if c = 'P' then .device
      else if c = 'X' || c = '^' || c = '_' then .body
      else if within c 0x20 0x2F then .escapeTail
      else if within c 0x30 0x7E then .text
      else .escape
    | .escapeTail => if within c 0x30 0x7E then .text else .escapeTail
    | .parameters => if within c 0x40 0x7E then .text else .parameters
    | .command => if c = '\x07' then .text else .command
    | .device =>
      if within c 0x20 0x2F then .deviceTail
      else if within c 0x30 0x3F then .deviceNumber
      else if within c 0x40 0x7E then .body
      else .device
    | .deviceNumber =>
      if within c 0x20 0x2F then .deviceTail
      else if within c 0x3C 0x7E then .body
      else .deviceNumber
    | .deviceTail => if within c 0x30 0x7E then .body else .deviceTail
    | .body => if holdsTerminator c then .text else .body

/-- Whether a character is one of the four that move on to other columns or
lines and are shown at their places. -/
def isSpacing (c : Char) : Bool := c = '\t' || c = '\n' || c = '\x0c' || c = '\r'

/-- Whether a character that is read at a place is shown. -/
def shows (place : Place) (c : Char) : Bool :=
  match place with
  | .text => !isAscii c || within c 0x20 0x7E || isSpacing c
  | .escape | .escapeTail | .parameters => isSpacing c
  | _ => false

/-- What is shown anywhere is shown in plain text. -/
theorem shows_text {place : Place} {c : Char} (h : place.shows c = true) :
    text.shows c = true := by
  cases place <;> simp_all [shows]

end Place

/-- The characters that are shown of a text, read from a place; behind a shown
character the next one is held to what plain text shows. -/
def shownFrom (place : Place) (behindShown : Bool) : List Char → List Char
  | [] => []
  | c :: rest =>
    if (if behindShown then Place.text else place).shows c then
      c :: shownFrom (if isAscii c then place else .text) true rest
    else shownFrom (place.next c) false rest

/-- A text as a screen shows it. -/
def withoutControls (text : List Char) : List Char := shownFrom .text false text

/-- Whether plain text shows a character. -/
def isPlain (c : Char) : Bool := Place.text.shows c

theorem isPlain_of_mem_shownFrom {place : Place} {behindShown : Bool} {text : List Char} {c : Char}
    (h : c ∈ shownFrom place behindShown text) : isPlain c = true := by
  induction text generalizing place behindShown with
  | nil => simp [shownFrom] at h
  | cons d rest ih =>
    rw [shownFrom] at h
    by_cases shown : (if behindShown then Place.text else place).shows d = true
    · rw [if_pos shown] at h
      rcases List.mem_cons.mp h with rfl | h
      · exact Place.shows_text shown
      · exact ih h
    · rw [if_neg shown] at h
      exact ih h

/-- Nothing hidden is left. -/
theorem isPlain_of_mem_withoutControls {text : List Char} {c : Char}
    (h : c ∈ withoutControls text) : isPlain c = true :=
  isPlain_of_mem_shownFrom h

theorem shownFrom_of_isPlain {behindShown : Bool} {text : List Char}
    (h : ∀ c ∈ text, isPlain c = true) : shownFrom .text behindShown text = text := by
  induction text generalizing behindShown with
  | nil => rfl
  | cons c rest ih =>
    have shown : Place.text.shows c = true := h c List.mem_cons_self
    have tail : shownFrom .text true rest = rest :=
      ih fun d hd => h d (List.mem_cons_of_mem c hd)
    simp [shownFrom, shown, tail]

/-- A text of plain characters is left as it is. -/
theorem withoutControls_of_isPlain {text : List Char} (h : ∀ c ∈ text, isPlain c = true) :
    withoutControls text = text :=
  shownFrom_of_isPlain h

/-! ## Boundary tests -/

/-- A colour and its end are taken out. -/
example : withoutControls "a\x1b[31mb\x1b[0mc".toList = "abc".toList := by decide

/-- A line break inside a sequence is shown, and the rest of the line with it. -/
example : withoutControls "a\x1b[1\nm".toList = "a\nm".toList := by decide

end ReleaseBundle.Text.ControlSequence
