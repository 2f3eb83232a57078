import ReleaseBundle.Pattern.PropertyName
import ReleaseBundle.Pattern.Reader

/-!
# What a pattern's text means

From the tree of a text to its pattern (`Pattern.written`).  The flags make up
**modes**, which hold from where they are written to the end of the group.  A text
may do without Unicode: its classes then hold ASCII characters only, and one that
would go beyond them is refused.
-/

namespace ReleaseBundle.Pattern

/-- How letters are read. -/
structure Modes where
  anyCase : Bool
  manyLines : Bool
  dotAll : Bool
  /-- A repetition is as short as may be if it is not marked. -/
  shortest : Bool
  unicode : Bool
  carriage : Bool
deriving DecidableEq, Repr

namespace Modes

/-- The modes at the start of a text. -/
def initial : Modes := ⟨false, false, false, false, true, false⟩

/-- The modes behind a list of flags. -/
def switch (modes : Modes) (items : List FlagItem) : Modes where
  anyCase := (switch? items .anyCase).getD modes.anyCase
  manyLines := (switch? items .manyLines).getD modes.manyLines
  dotAll := (switch? items .dotAll).getD modes.dotAll
  shortest := (switch? items .shortest).getD modes.shortest
  unicode := (switch? items .unicode).getD modes.unicode
  carriage := (switch? items .carriage).getD modes.carriage

end Modes

/-! ## Sets -/

/-- A set with the variants in case, where they count. -/
def withCase (modes : Modes) (chars : Charset) : Charset :=
  if !modes.anyCase then chars else if modes.unicode then .anyCase chars else .anyAsciiCase chars

/-- A set or, if it is negated, what is left of all characters. -/
def negate (modes : Modes) (span : Span) (negated : Bool) (chars : Charset) :
    Except Fault Charset :=
  if !negated then .ok chars
  else if modes.unicode then .ok (.compl chars)
  else fail .notText span

/-- The characters of a class that has a name. -/
def AsciiClass.chars : AsciiClass → Charset
  | alnum => .ranges [('0', '9'), ('A', 'Z'), ('a', 'z')]
  | alpha => .ranges [('A', 'Z'), ('a', 'z')]
  | ascii => .range '\x00' '\x7f'
  | blank => .ranges [('\t', '\t'), (' ', ' ')]
  | cntrl => .ranges [('\x00', '\x1f'), ('\x7f', '\x7f')]
  | digit => .range '0' '9'
  | graph => .range '!' '~'
  | lower => .range 'a' 'z'
  | print => .range ' ' '~'
  | punct => .ranges [('!', '/'), (':', '@'), ('[', '\x60'), ('\x7b', '~')]
  | space => .ranges [('\t', '\r'), (' ', ' ')]
  | upper => .range 'A' 'Z'
  | word => .ranges [('0', '9'), ('A', 'Z'), ('_', '_'), ('a', 'z')]
  | xdigit => .ranges [('0', '9'), ('A', 'F'), ('a', 'f')]

/-- The characters of words. -/
def wordChars (modes : Modes) : Charset :=
  if modes.unicode then .word else AsciiClass.word.chars

/-- The characters of a class that a letter names. -/
def Shorthand.chars (modes : Modes) : Shorthand → Charset
  | digit => if modes.unicode then .ofCategory .decimalNumber else AsciiClass.digit.chars
  | blank => if modes.unicode then .blank else AsciiClass.space.chars
  | word => wordChars modes

/-- The set of a property. -/
def propertySet (modes : Modes) (query : PropertyQuery) (negated : Bool) (span : Span) :
    Except Fault Charset :=
  if !modes.unicode then fail .unicodeNeeded span
  else
    match query.resolve with
    | .ok chars => negate modes span (negated != query.isNegated) (withCase modes chars)
    | .error problem => fail problem span

/-- The character of a literal in a set. -/
def listedChar (modes : Modes) (l : Literal) : Except Fault Char :=
  if modes.unicode || l.char.toNat < 0x80 then .ok l.char
  else if l.isOctet then fail .notText l.span
  else fail .unicodeNeeded l.span

mutual

/-- The set that a tree means. -/
def SetTree.meaning (modes : Modes) : SetTree → Except Fault Charset
  | .empty _ => .ok .none
  | .literal l => do return .single (← listedChar modes l)
  | .range first last _ => do return .range (← listedChar modes first) (← listedChar modes last)
  | .ascii kind negated span => negate modes span negated (withCase modes kind.chars)
  | .property query negated span => propertySet modes query negated span
  | .shorthand kind negated span => negate modes span negated (kind.chars modes)
  | .bracketed inner negated span => do
    negate modes span negated (withCase modes (← inner.meaning modes))
  | .union parts _ => do return .unions (← allMeanings modes parts)
  | .operation kind a b _ => do
    let a := withCase modes (← a.meaning modes)
    let b := withCase modes (← b.meaning modes)
    match kind with
    | .inter => return .inter a b
    | .diff => return .diff a b
    | .symmDiff => return .symmDiff a b

/-- The sets that trees mean. -/
def allMeanings (modes : Modes) : List SetTree → Except Fault (List Charset)
  | [] => .ok []
  | part :: rest => do return (← part.meaning modes) :: (← allMeanings modes rest)

end

/-! ## Patterns -/

/-- The set of the characters that the dot stands for. -/
def dotChars (modes : Modes) : Charset :=
  if modes.dotAll then .all
  else if modes.carriage then .compl (.union (.single '\r') (.single '\n'))
  else .compl (.single '\n')

/-- The pattern of an atom. -/
def Atom.meaning (modes : Modes) : Atom → Except Fault Pattern
  | literal l =>
    if modes.unicode || l.char.toNat < 0x80 then .ok (.one (withCase modes (.single l.char)))
    else if l.isOctet then fail .notText l.span
    else .ok (.one (.single l.char))
  | dot span => if modes.unicode then .ok (.one (dotChars modes)) else fail .notText span
  | start _ => .ok (.look (if modes.manyLines then .lineStart modes.carriage else .start))
  | finish _ => .ok (.look (if modes.manyLines then .lineFinish modes.carriage else .finish))
  | textStart _ => .ok (.look .start)
  | textFinish _ => .ok (.look .finish)
  | boundary kind _ => .ok (.look (.boundary kind (wordChars modes)))
  | property query negated span => .one <$> propertySet modes query negated span
  | shorthand kind negated span => .one <$> negate modes span negated (kind.chars modes)

mutual

/-- The pattern that a tree means, and the modes behind it. -/
def Tree.meaning (modes : Modes) : Tree → Except Fault (Pattern × Modes)
  | .empty => .ok (.empty, modes)
  | .flags items => .ok (.empty, modes.switch items)
  | .atom a => do return (← a.meaning modes, modes)
  | .bracketed inner negated span => do
    let chars ← negate modes span negated (withCase modes (← inner.meaning modes))
    return (.one chars, modes)
  | .times inner least most? marked _ => do
    let (p, modes) ← inner.meaning modes
    return (.times p least most? (marked != modes.shortest), modes)
  | .group items numbered inner _ => do
    let (p, _) ← inner.meaning (modes.switch items)
    return (.group p numbered, modes)
  | .cat parts _ => catMeaning modes parts
  | .alt branches _ => altMeaning modes branches

/-- The pattern of trees one after another. -/
def catMeaning (modes : Modes) : List Tree → Except Fault (Pattern × Modes)
  | [] => .ok (.empty, modes)
  | part :: rest => do
    let (p, modes) ← part.meaning modes
    let (q, modes) ← catMeaning modes rest
    return (.cat p q, modes)

/-- The pattern of one of some trees; flags hold in the later ones too. -/
def altMeaning (modes : Modes) : List Tree → Except Fault (Pattern × Modes)
  | [] => .ok (.one .none, modes)
  | [branch] => branch.meaning modes
  | branch :: rest => do
    let (p, modes) ← branch.meaning modes
    let (q, modes) ← altMeaning modes rest
    return (.alt p q, modes)

end

/-- The pattern that a text writes, however much room it takes. -/
def written (text : String) : Except Fault Pattern := do
  let (p, _) ← (← Tree.ofText text).meaning .initial
  return p

end ReleaseBundle.Pattern
