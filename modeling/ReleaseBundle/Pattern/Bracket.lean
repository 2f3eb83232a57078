import ReleaseBundle.Pattern.Atom

/-!
# Reading bracketed sets

A set between square brackets lists characters, ranges, classes and further sets;
two sets may be joined by an operation, and operations group from the left.  The
reader keeps one level for each bracket that is open, and every step of it takes a
character or more.
-/

namespace ReleaseBundle.Pattern

/-- One open bracket. -/
structure SetLevel where
  /-- The bracket and what belongs to it. -/
  opening : Span
  negated : Bool
  /-- The operation that waits for its right side, with its left side. -/
  left? : Option (SetOperation × SetTree)
  /-- What is listed since, the latest first. -/
  parts : List SetTree
  /-- Where that starts. -/
  first : Nat

namespace SetLevel

/-- What is listed since the last operation. -/
def list (level : SetLevel) : SetTree :=
  match level.parts with
  | [] => .empty (.here level.first)
  | [part] => part
  | last :: more =>
    let first := (more.getLast?.getD last).span.first
    .union level.parts.reverse ⟨first, last.span.last⟩

/-- The set that is read so far. -/
def tree (level : SetLevel) : SetTree :=
  match level.left? with
  | none => level.list
  | some (kind, left) => .operation kind left level.list ⟨left.span.first, level.list.span.last⟩

/-- The level with one more part. -/
def push (level : SetLevel) (part : SetTree) : SetLevel :=
  { level with parts := part :: level.parts }

/-- The level with an operation whose right side starts at a place. -/
def operate (level : SetLevel) (kind : SetOperation) (first : Nat) : SetLevel :=
  { level with left? := some (kind, level.tree), parts := [], first }

end SetLevel

/-- Reads the hyphens at the start of a bracketed set, which stand for themselves.
The fuel is a bound on their number. -/
def readHyphens (bracket : Cursor) : Nat → Cursor → Except Fault (List SetTree × Cursor)
  | 0, c => .ok ([], c)
  | fuel + 1, c =>
    if !c.faces '-' then .ok ([], c)
    else if c.advance.isEnd then fail .classUnclosed bracket.here
    else do
      let (parts, behind) ← readHyphens bracket fuel c.advance
      return (parts ++ [.literal ⟨'-', c.char, false⟩], behind)

/-- Reads an opening bracket and what stands only behind it: a negation, hyphens, or
a closing bracket that stands for itself. -/
def openSet (bracket : Cursor) : Except Fault (SetLevel × Cursor) := do
  let unclosed (c : Cursor) : Except Fault Unit :=
    if c.isEnd then fail .classUnclosed (bracket.upTo c) else .ok ()
  let c := bracket.advance
  unclosed c
  let negated := c.faces '^'
  let c := if negated then c.advance else c
  unclosed c
  let (hyphens, c') ← readHyphens bracket c.rest.length c
  if hyphens.isEmpty && c'.faces ']' then
    unclosed c'.advance
    let closing := SetTree.literal ⟨']', c'.char, false⟩
    return (⟨bracket.upTo c'.advance, negated, none, [closing], c.index⟩, c'.advance)
  else return (⟨bracket.upTo c', negated, none, hyphens, c.index⟩, c')

/-- The named class that is written between colons at a bracket, if one is. -/
def asciiClass? (bracket : Cursor) : Option (SetTree × Cursor) := do
  let c ← bracket.behind? "[:"
  let negated := c.faces '^'
  let c := if negated then c.bump else c
  let name := c.rest.takeWhile (· ≠ ':')
  let behind ← (c.drop name.length).behind? ":]"
  let kind ← AsciiClass.ofName? (String.ofList name)
  return (.ascii kind negated (bracket.upTo behind), behind)

/-- Reads what may be an end of a range. -/
def readSetAtom (c : Cursor) (char : Char) : Except Fault (Atom × Cursor) :=
  if char = '\\' then readEscape c else .ok (.literal ⟨char, c.char, false⟩, c.bump)

/-- An atom as a part of a set. -/
def setPart : Atom → Except Fault SetTree
  | .literal l => .ok (.literal l)
  | .property query negated span => .ok (.property query negated span)
  | .shorthand kind negated span => .ok (.shorthand kind negated span)
  | atom => fail .classEscape atom.span

/-- An atom as an end of a range. -/
def rangeEnd : Atom → Except Fault Literal
  | .literal l => .ok l
  | atom => fail .classRangeEnd atom.span

/-- The character behind the next one.  Where blanks mean nothing it is looked for
behind them, and behind one number sign among them. -/
def peek? (c : Cursor) : Option Char :=
  let rest := c.bump.rest
  if !c.loose then rest.head?
  else
    let far :=
      match rest.dropWhile Text.isBlank with
      | '#' :: more => more.dropWhile Text.isBlank
      | more => more
    far.head?.or rest.head?

/-- Reads an atom or a range; a hyphen makes no range before a closing bracket or
another hyphen. -/
def readSetPart (opening : Span) (c : Cursor) (char : Char) :
    Except Fault (SetTree × Cursor) := do
  let (a, behind) ← readSetAtom c char
  let hyphen := behind.skip
  if hyphen.isEnd then fail .classUnclosed opening
  else if !hyphen.faces '-' || peek? hyphen == some ']' || peek? hyphen == some '-' then
    return (← setPart a, hyphen)
  else
    let d := hyphen.advance
    match d.next? with
    | none => fail .classUnclosed opening
    | some last =>
      let (b, behind) ← readSetAtom d last
      let span : Span := ⟨a.span.first, b.span.last⟩
      let first ← rangeEnd a
      let last ← rangeEnd b
      if last.char < first.char then fail .classRange span
      else return (.range first last span, behind)

/-- The operation that is written at a cursor, and the cursor behind it. -/
def setOperation? (c : Cursor) : Option (SetOperation × Cursor) :=
  match c.behind? "&&", c.behind? "--", c.behind? "~~" with
  | some behind, _, _ => some (.inter, behind)
  | none, some behind, _ => some (.diff, behind)
  | none, none, some behind => some (.symmDiff, behind)
  | none, none, none => none

/-- Reads the rest of a bracketed set whose brackets are open, the innermost first,
up to the bracket that closes the last.  The fuel is a bound on the number of
steps. -/
def readSet : Nat → SetLevel → List SetLevel → Cursor → Except Fault (Tree × Cursor)
  | 0, level, _, _ => fail .classUnclosed level.opening
  | fuel + 1, level, outer, c => do
    let c := c.skip
    match c.next? with
    | none => fail .classUnclosed level.opening
    | some '[' =>
      match asciiClass? c with
      | some (part, behind) => readSet fuel (level.push part) outer behind
      | none =>
        let (inner, behind) ← openSet c
        readSet fuel inner (level :: outer) behind
    | some ']' =>
      let span : Span := ⟨level.opening.first, c.bump.index⟩
      match outer with
      | [] => return (.bracketed level.tree level.negated span, c.bump)
      | next :: outer =>
        readSet fuel (next.push (.bracketed level.tree level.negated span)) outer c.bump
    | some char =>
      match setOperation? c with
      | some (kind, behind) => readSet fuel (level.operate kind behind.index) outer behind
      | none =>
        let (part, behind) ← readSetPart level.opening c char
        readSet fuel (level.push part) outer behind

/-- Reads a bracketed set, at its bracket. -/
def readBracketed (bracket : Cursor) : Except Fault (Tree × Cursor) := do
  let (level, c) ← openSet bracket
  readSet (c.rest.length + 1) level [] c

end ReleaseBundle.Pattern
