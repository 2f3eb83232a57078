import ReleaseBundle.Pattern.Cursor
import ReleaseBundle.Pattern.Tree
import ReleaseBundle.Text.Digit

/-!
# Reading atoms

What one character of a pattern's text says, or one escape: a backslash and what
belongs to it.  Every reader here starts at a cursor and gives what it read and the
cursor behind it, or the fault.
-/

namespace ReleaseBundle.Pattern

/-- The failure of a reader. -/
def fail {α : Type} (problem : Problem) (span : Span) : Except Fault α :=
  .error { problem, span }

/-- Whether a character is an ASCII letter or digit. -/
def isAsciiAlphanumeric (c : Char) : Bool := c.isAlpha || c.isDigit

/-- Whether an escaped character stands for itself: the ASCII characters other than
letters, digits and angles. -/
def isEscapable (c : Char) : Bool :=
  c.toNat < 0x80 && !isAsciiAlphanumeric c && c ≠ '<' && c ≠ '>'

/-! ## Numbers -/

/-- The value of a hexadecimal digit. -/
def hexValue? (c : Char) : Option Nat :=
  if '0' ≤ c && c ≤ '9' then some (c.toNat - '0'.toNat)
  else if 'a' ≤ c && c ≤ 'f' then some (c.toNat - 'a'.toNat + 10)
  else if 'A' ≤ c && c ≤ 'F' then some (c.toNat - 'A'.toNat + 10)
  else none

/-- The character that hexadecimal digits number. -/
def hexChar? (digits : List Char) : Option Char :=
  let value := (digits.filterMap hexValue?).foldl (fun value digit => 16 * value + digit) 0
  if h : value.isValidChar then some (Char.ofNatAux value h) else none

/-- Reads a number of hexadecimal digits. -/
def readDigits : Nat → Cursor → Except Fault (List Char × Cursor)
  | 0, c => .ok ([], c)
  | count + 1, c =>
    match c.next? with
    | none => fail .escapeUnfinished c.here
    | some digit =>
      if (hexValue? digit).isNone then fail .hexDigit c.char
      else do
        let (digits, c) ← readDigits count c.advance
        return (digit :: digits, c)

/-- The literal that digits between two places number. -/
def hexLiteral (digits : List Char) (numbered written : Span) (isOctet : Bool) :
    Except Fault Literal :=
  match hexChar? digits with
  | some char => .ok ⟨char, written, isOctet⟩
  | none => fail .hexNoCharacter numbered

/-- Reads a literal by number behind the letter that says how many digits it has;
between braces it may have any number. -/
def readNumbered (backslash letter : Cursor) (count : Nat) :
    Except Fault (Literal × Cursor) := do
  let c := letter.advance
  if c.isEnd then fail .escapeUnfinished c.here
  else if c.faces '{' then
    let (digits, close) := c.advance.taking (· ≠ '}')
    match digits.find? fun (_, digit) => (hexValue? digit).isNone with
    | some (index, _) => fail .hexDigit (.char index)
    | none =>
      if close.isEnd then fail .escapeUnfinished (c.upTo close)
      else
        let behind := close.advance
        if digits.isEmpty then fail .hexEmpty (c.upTo behind)
        else
          let written := backslash.upTo behind
          let literal ← hexLiteral (digits.map (·.2)) (c.bump.upTo close) written false
          return (literal, behind)
  else
    let (digits, behind) ← readDigits count c
    let literal ← hexLiteral digits (c.upTo behind) (backslash.upTo behind) (count = 2)
    return (literal, behind)

/-- The largest count of a repetition. -/
def countLimit : Nat := 4294967295

/-- Reads the number of a repetition.  Blanks may stand around it, and the cursor
goes on behind it also if it is none. -/
def readCount (c : Cursor) : Except Fault Nat × Cursor :=
  let first := c.skipBlanks
  let (digits, last) := first.taking Text.isAsciiDigit
  let value := Text.decimalValue 0 (digits.map (·.2))
  let count :=
    if digits.isEmpty then fail .countMissing (first.upTo last)
    else if countLimit < value then fail .decimalInvalid (first.upTo last)
    else .ok value
  (count, last.skipBlanks.skip)

/-! ## Properties -/

/-- The query that a text between braces writes: a name, or a name and a value
behind an equals sign, a colon or an inequality. -/
def PropertyQuery.ofText (text : String) : PropertyQuery :=
  let halves? (mark : String) : Option (String × String) :=
    match text.splitOn mark with
    | name :: value :: more => some (name, mark.intercalate (value :: more))
    | _ => none
  match halves? "!=", halves? ":", halves? "=" with
  | some (name, value), _, _ => .valued name value true
  | none, some (name, value), _ => .valued name value false
  | none, none, some (name, value) => .valued name value false
  | none, none, none => .named text

/-- Reads a property behind its letter: one character, or a text between braces. -/
def readProperty (backslash letter : Cursor) (negated : Bool) :
    Except Fault (Atom × Cursor) := do
  let c := letter.advance
  match c.next? with
  | none => fail .escapeUnfinished c.here
  | some '{' =>
    let (name, close) := c.advance.taking (· ≠ '}')
    if close.isEnd then fail .escapeUnfinished close.here
    else
      let query := PropertyQuery.ofText (String.ofList (name.map (·.2)))
      return (.property query negated (backslash.upTo close.bump), close.bump)
  | some '\\' => fail .propertyWriting c.char
  | some char =>
    let behind := c.advance
    return (.property (.named (String.singleton char)) negated (backslash.upTo behind), behind)

/-! ## Conditions on words -/

/-- The condition of a name. -/
def boundaryOfName? : String → Option Boundary
  | "start" => some .opening
  | "end" => some .closing
  | "start-half" => some .openingHalf
  | "end-half" => some .closingHalf
  | _ => none

/-- Reads the name of a condition on words between braces.  Where the first
character shows that a count is meant, nothing is read. -/
def readBoundaryName (backslash brace : Cursor) : Except Fault (Option (Boundary × Cursor)) :=
  let isNamed (c : Char) : Bool := c.isAlpha || c = '-'
  let inner := brace.advance
  match inner.next? with
  | none => fail .boundaryUnfinished (backslash.upTo inner)
  | some char =>
    if !isNamed char then .ok none
    else
      let (name, close) := inner.taking isNamed
      if !close.faces '}' then fail .boundaryUnclosed (brace.upTo close)
      else
        match boundaryOfName? (String.ofList (name.map (·.2))) with
        | some boundary => .ok (some (boundary, close.bump))
        | none => fail .boundaryUnknown (inner.upTo close)

/-- Reads the condition that the letter before the cursor opens. -/
def readBoundary (backslash c : Cursor) : Except Fault (Atom × Cursor) := do
  if c.faces '{' then
    match ← readBoundaryName backslash c with
    | some (boundary, behind) => return (.boundary boundary (backslash.upTo behind), behind)
    | none => return (.boundary .either (backslash.upTo c), c)
  else return (.boundary .either (backslash.upTo c), c)

/-! ## Escapes -/

/-- The control character that a letter stands for. -/
def controlOf? : Char → Option Char
  | 'a' => some '\x07'
  | 'f' => some '\x0c'
  | 't' => some '\t'
  | 'n' => some '\n'
  | 'r' => some '\r'
  | 'v' => some '\x0b'
  | _ => none

/-- Reads an escape, at the backslash. -/
def readEscape (backslash : Cursor) : Except Fault (Atom × Cursor) :=
  let c := backslash.bump
  let behind := c.bump
  let span := backslash.upTo behind
  match c.next? with
  | none => fail .escapeUnfinished (backslash.upTo c)
  | some 'x' => do let (l, d) ← readNumbered backslash c 2; return (.literal l, d)
  | some 'u' => do let (l, d) ← readNumbered backslash c 4; return (.literal l, d)
  | some 'U' => do let (l, d) ← readNumbered backslash c 8; return (.literal l, d)
  | some 'p' => readProperty backslash c false
  | some 'P' => readProperty backslash c true
  | some 'd' => .ok (.shorthand .digit false span, behind)
  | some 's' => .ok (.shorthand .blank false span, behind)
  | some 'w' => .ok (.shorthand .word false span, behind)
  | some 'D' => .ok (.shorthand .digit true span, behind)
  | some 'S' => .ok (.shorthand .blank true span, behind)
  | some 'W' => .ok (.shorthand .word true span, behind)
  | some 'A' => .ok (.textStart span, behind)
  | some 'z' => .ok (.textFinish span, behind)
  | some 'b' => readBoundary backslash behind
  | some 'B' => .ok (.boundary .neither span, behind)
  | some '<' => .ok (.boundary .opening span, behind)
  | some '>' => .ok (.boundary .closing span, behind)
  | some char =>
    if char.isDigit then fail .backreference span
    else if isEscapable char then .ok (.literal ⟨char, span, false⟩, behind)
    else
      match controlOf? char with
      | some control => .ok (.literal ⟨control, span, false⟩, behind)
      | none => fail .escapeUnknown span

/-- Reads an atom, of which a character is given. -/
def readAtom (c : Cursor) (char : Char) : Except Fault (Atom × Cursor) :=
  match char with
  | '\\' => readEscape c
  | '.' => .ok (.dot c.char, c.bump)
  | '^' => .ok (.start c.char, c.bump)
  | '$' => .ok (.finish c.char, c.bump)
  | _ => .ok (.literal ⟨char, c.char, false⟩, c.bump)

end ReleaseBundle.Pattern
