import ReleaseBundle.Pattern.Bracket
import ReleaseBundle.Text.Letter

/-!
# Reading a pattern's text

From the text of a pattern to its tree (`Tree.ofText`).  The reader keeps one level
for each group that is open, and every step of it takes a character or more: a
group opens or closes, a branch ends, an atom or a bracketed set is read, or what
was read last is repeated.
-/

namespace ReleaseBundle.Pattern

/-! ## Levels -/

/-- One open group, or the whole text. -/
structure Level where
  /-- Where the first branch starts. -/
  first : Nat
  /-- The finished branches, the latest first. -/
  branches : List Tree
  /-- Where the present branch starts. -/
  start : Nat
  /-- What the present branch holds, the latest first. -/
  parts : List Tree

namespace Level

/-- The level of a group whose content starts at a place. -/
def empty (start : Nat) : Level := ⟨start, [], start, []⟩

/-- The present branch, which ends at a place. -/
def branch (level : Level) (last : Nat) : Tree :=
  match level.parts with
  | [] => .empty
  | [part] => part
  | parts => .cat parts.reverse ⟨level.start, last⟩

/-- What the group holds, which ends at a place. -/
def tree (level : Level) (last : Nat) : Tree :=
  match level.branches with
  | [] => level.branch last
  | branches => .alt (branches.reverse ++ [level.branch last]) ⟨level.first, last⟩

/-- The level with one more part. -/
def push (level : Level) (part : Tree) : Level :=
  { level with parts := part :: level.parts }

/-- The level behind the end of a branch, which takes one character. -/
def endBranch (level : Level) (last : Nat) : Level :=
  { level with branches := level.branch last :: level.branches, start := last + 1, parts := [] }

end Level

/-- How a group was opened. -/
structure Opening where
  /-- The bracket. -/
  span : Span
  items : List FlagItem
  numbered : Bool
  /-- Whether the text around the group is read loosely. -/
  loose : Bool

/-- What is read so far. -/
structure Progress where
  cursor : Cursor
  level : Level
  /-- The open groups with the levels around them, the innermost first. -/
  outer : List (Opening × Level)
  /-- The names of groups and where they stand. -/
  names : List (String × Span)

/-! ## Groups -/

/-- Reads flags up to the character that ends them, a colon or a closing bracket. -/
def readFlags (loose : Bool) (items : List (FlagItem × Nat)) (index : Nat) :
    List Char → Except Fault (List FlagItem × Cursor)
  | [] => fail .flagUnfinished (.here index)
  | c :: rest =>
    if c = ':' || c = ')' then
      match items.getLast? with
      | some (.negation, i) => fail .flagDangling (.char i)
      | _ => .ok (items.map (·.1), ⟨index, c :: rest, loose⟩)
    else
      let item? := if c = '-' then some FlagItem.negation else FlagItem.flag <$> Flag.ofChar? c
      match item? with
      | none => fail .flagUnknown (.char index)
      | some item =>
        match items.find? (·.1 = item) with
        | some (_, i) =>
          let problem := if item = .negation then .flagNegatedTwice else .flagRepeated
          .error ⟨problem, .char index, some (.char i)⟩
        | none => readFlags loose (items ++ [(item, index)]) (index + 1) rest

/-- Whether a character may stand in the name of a group. -/
def isNameChar (atStart : Bool) (c : Char) : Bool :=
  if atStart then c = '_' || Text.isLetter c
  else c = '_' || c = '.' || c = '[' || c = ']' || Text.isLetterOrNumber c

/-- Reads the name of a group and the angle that ends it. -/
def readName (names : List (String × Span)) (c : Cursor) :
    Except Fault (String × Span × Cursor) :=
  let name := c.rest.takeWhile (· ≠ '>')
  let close := c.drop name.length
  match name.zipIdx.find? fun (char, i) => !isNameChar (i = 0) char with
  | some (_, i) => fail .nameCharacter (.char (c.index + i))
  | none =>
    if close.isEnd then fail .nameUnfinished close.here
    else if name.isEmpty then fail .nameEmpty c.here
    else
      let name := String.ofList name
      match names.lookup name with
      | some other => .error ⟨.nameRepeated, c.upTo close, some other⟩
      | none => .ok (name, c.upTo close, close.bump)

/-- The cursor behind what would open a condition on the text around a place. -/
def lookAround? (c : Cursor) : Option Cursor :=
  ["?=", "?!", "?<=", "?<!"].findSome? c.behind?

/-- The progress with a group opened whose content starts at a cursor. -/
def Progress.openGroup (p : Progress) (items : List FlagItem) (numbered : Bool) (c : Cursor) :
    Progress :=
  let loose := (switch? items .loose).getD p.cursor.loose
  { p with
    cursor := { c with loose }
    level := .empty c.index
    outer := (⟨p.cursor.char, items, numbered, p.cursor.loose⟩, p.level) :: p.outer }

/-- Reads the flags of a group or of the rest of one, at the first of them. -/
def Progress.readFlagged (p : Progress) (question c : Cursor) : Except Fault Progress := do
  if c.isEnd then fail .groupUnclosed p.cursor.char
  else
    let (items, close) ← readFlags c.loose [] c.index c.rest
    if close.faces ':' then return p.openGroup items false close.bump
    else if items.isEmpty then fail .nothingToRepeat question.here
    else
      let loose := (switch? items .loose).getD p.cursor.loose
      return { p with
        cursor := { close.bump with loose }
        level := p.level.push (.flags items) }

/-- Reads what opens a group, at its bracket. -/
def Progress.readOpening (p : Progress) : Except Fault Progress := do
  let c := p.cursor.advance
  match lookAround? c with
  | some behind => fail .lookAround (p.cursor.upTo behind)
  | none =>
    match (c.behind? "?P<").or (c.behind? "?<") with
    | some start =>
      let (name, span, behind) ← readName p.names start
      return { p.openGroup [] true behind with names := p.names ++ [(name, span)] }
    | none =>
      match c.behind? "?" with
      | some behind => p.readFlagged c behind
      | none => return p.openGroup [] true c

/-- Closes the innermost group, at its bracket. -/
def Progress.close (p : Progress) : Except Fault Progress :=
  match p.outer with
  | [] => fail .groupUnopened p.cursor.char
  | (opening, level) :: outer =>
    let behind := p.cursor.bump
    let inner := p.level.tree p.cursor.index
    .ok { p with
      cursor := { behind with loose := opening.loose }
      level := level.push
        (.group opening.items opening.numbered inner ⟨opening.span.first, behind.index⟩)
      outer }

/-! ## Repetitions -/

/-- Whether the mark for the shortest repetition stands at a cursor, and the cursor
behind it. -/
def readMark (c : Cursor) : Bool × Cursor := if c.faces '?' then (true, c.bump) else (false, c)

/-- The progress with its last part repeated; the cursor stands behind the count. -/
def Progress.times (p : Progress) (least : Nat) (most? : Option Nat) (c : Cursor) :
    Except Fault Progress :=
  match p.level.parts with
  | part :: parts =>
    if part.isRepeatable then
      let (marked, c) := readMark c
      let repeated := Tree.times part least most? marked ⟨part.first, c.index⟩
      .ok { p with cursor := c, level := { p.level with parts := repeated :: parts } }
    else fail .nothingToRepeat p.cursor.here
  | [] => fail .nothingToRepeat p.cursor.here

/-- The counts that stand between braces: a number, a least one, or both bounds. -/
structure Counts where
  least : Nat
  most? : Option Nat

/-- Reads counts behind their opening brace, up to the closing one. -/
def readCounts (brace : Cursor) : Except Fault (Counts × Cursor) := do
  let unclosed (c : Cursor) : Except Fault Unit :=
    if c.isEnd then fail .countUnclosed (brace.upTo c) else .ok ()
  let c := brace.advance
  unclosed c
  let (least, c) := readCount c
  unclosed c
  if c.faces ',' then
    let c := c.advance
    unclosed c
    if c.faces '}' then
      return (⟨← least, none⟩, c)
    else
      let least ← least
      let (most, c) := readCount c
      return (⟨least, some (← most)⟩, c)
  else
    let count ← least
    return (⟨count, some count⟩, c)

/-- Reads a counted repetition, at its brace. -/
def Progress.readCounted (p : Progress) : Except Fault Progress := do
  unless p.level.parts.head?.any Tree.isRepeatable do
    fail .nothingToRepeat p.cursor.here
  let (counts, close) ← readCounts p.cursor
  if !close.faces '}' then fail .countUnclosed (p.cursor.upTo close)
  else
    let behind := close.advance
    if counts.most?.any (· < counts.least) then
      fail .countOrder (p.cursor.upTo (readMark behind).2)
    else p.times counts.least counts.most? behind

/-! ## The whole text -/

/-- Reads one thing, of which a character is given. -/
def Progress.step (p : Progress) (char : Char) : Except Fault Progress :=
  match char with
  | '(' => p.readOpening
  | ')' => p.close
  | '|' =>
    .ok { p with cursor := p.cursor.bump, level := p.level.endBranch p.cursor.index }
  | '[' => do
    let (set, behind) ← readBracketed p.cursor
    return { p with cursor := behind, level := p.level.push set }
  | '?' => p.times 0 (some 1) p.cursor.bump
  | '*' => p.times 0 none p.cursor.bump
  | '+' => p.times 1 none p.cursor.bump
  | '{' => p.readCounted
  | _ => do
    let (atom, behind) ← readAtom p.cursor char
    return { p with cursor := behind, level := p.level.push (.atom atom) }

/-- Reads the rest of a text.  The fuel is a bound on the number of steps. -/
def Progress.finish : Nat → Progress → Except Fault Progress
  | 0, p => .ok p
  | fuel + 1, p =>
    let c := p.cursor.skip
    match c.next? with
    | none => .ok { p with cursor := c }
    | some char => do Progress.finish fuel (← { p with cursor := c }.step char)

/-- The tree of a pattern's text. -/
def Tree.ofText (text : String) : Except Fault Tree := do
  let p ← Progress.finish (text.length + 1) ⟨.start text, .empty 0, [], []⟩
  match p.outer with
  | (opening, _) :: _ => fail .groupUnclosed opening.span
  | [] =>
    let tree := p.level.tree p.cursor.index
    match tree.tooDeep? 0 with
    | some span => fail (.depth depthLimit) span
    | none => return tree

end ReleaseBundle.Pattern
