import ReleaseBundle.Pattern.Basic
import ReleaseBundle.Pattern.Fault

/-!
# The tree of a pattern's text

What a text says before it is known what it means: flags may still turn the same
letters into other patterns.  Every node knows the stretch of the text that it was
read from, so that a fault found later can be shown there.  Trees go down to a
limited depth only (`Tree.tooDeep?`).
-/

namespace ReleaseBundle.Pattern

/-- A way of reading that a text may switch on and off. -/
inductive Flag where
  /-- Letters stand for their variants in case too. -/
  | anyCase
  /-- The conditions on the text's ends hold at those of lines. -/
  | manyLines
  /-- The dot stands for a line break too. -/
  | dotAll
  /-- Repetitions are as short as may be. -/
  | shortest
  /-- Classes go beyond ASCII. -/
  | unicode
  /-- A carriage return ends a line too. -/
  | carriage
  /-- Blanks and comments in the text mean nothing. -/
  | loose
deriving DecidableEq, Repr

/-- The flag that a letter stands for. -/
def Flag.ofChar? : Char → Option Flag
  | 'i' => some anyCase
  | 'm' => some manyLines
  | 's' => some dotAll
  | 'U' => some shortest
  | 'u' => some unicode
  | 'R' => some carriage
  | 'x' => some loose
  | _ => none

/-- A list of flags as it is written: what stands behind a negation is switched
off. -/
inductive FlagItem where
  | negation
  | flag (flag : Flag)
deriving DecidableEq, Repr

/-- What a list does to a flag, if it names it. -/
def switch? (items : List FlagItem) (flag : Flag) : Option Bool :=
  if items.contains (.flag flag) then
    some (!(items.takeWhile (· ≠ .flag flag)).contains .negation)
  else none

/-- One character as it is written. -/
structure Literal where
  char : Char
  span : Span
  /-- Whether it is written by the two digits of an octet. -/
  isOctet : Bool
deriving DecidableEq, Repr

/-- A class that a letter names. -/
inductive Shorthand where
  | digit
  | blank
  | word
deriving DecidableEq, Repr

/-- A class of ASCII characters that has a name. -/
inductive AsciiClass where
  | alnum
  | alpha
  | ascii
  | blank
  | cntrl
  | digit
  | graph
  | lower
  | print
  | punct
  | space
  | upper
  | word
  | xdigit
deriving DecidableEq, Repr

/-- The class of a name. -/
def AsciiClass.ofName? : String → Option AsciiClass
  | "alnum" => some alnum
  | "alpha" => some alpha
  | "ascii" => some ascii
  | "blank" => some blank
  | "cntrl" => some cntrl
  | "digit" => some digit
  | "graph" => some graph
  | "lower" => some lower
  | "print" => some print
  | "punct" => some punct
  | "space" => some space
  | "upper" => some upper
  | "word" => some word
  | "xdigit" => some xdigit
  | _ => none

/-- How a property is asked for. -/
inductive PropertyQuery where
  /-- By its name, or that of a general category. -/
  | named (name : String)
  /-- By a name and one of its values, which the characters should have or, if it is
  written so, differ in. -/
  | valued (name value : String) (differs : Bool)
deriving DecidableEq, Repr

/-- Whether a query asks for what has not got a value. -/
def PropertyQuery.isNegated : PropertyQuery → Bool
  | named _ => false
  | valued _ _ differs => differs

/-- What one character, or one escape, of a text says. -/
inductive Atom where
  | literal (literal : Literal)
  | dot (span : Span)
  /-- The start of the text or of a line. -/
  | start (span : Span)
  /-- The end of the text or of a line. -/
  | finish (span : Span)
  /-- The start of the text. -/
  | textStart (span : Span)
  /-- The end of the text. -/
  | textFinish (span : Span)
  | boundary (kind : Boundary) (span : Span)
  | property (query : PropertyQuery) (negated : Bool) (span : Span)
  | shorthand (kind : Shorthand) (negated : Bool) (span : Span)
deriving DecidableEq, Repr

/-- The stretch that an atom was read from. -/
def Atom.span : Atom → Span
  | literal l => l.span
  | dot span | start span | finish span | textStart span | textFinish span => span
  | boundary _ span => span
  | property _ _ span => span
  | shorthand _ _ span => span

/-- An operation on two sets. -/
inductive SetOperation where
  | inter
  | diff
  | symmDiff
deriving DecidableEq, Repr

/-- What stands between square brackets. -/
inductive SetTree where
  | empty (span : Span)
  | literal (literal : Literal)
  | range (first last : Literal) (span : Span)
  | ascii (kind : AsciiClass) (negated : Bool) (span : Span)
  | property (query : PropertyQuery) (negated : Bool) (span : Span)
  | shorthand (kind : Shorthand) (negated : Bool) (span : Span)
  | bracketed (inner : SetTree) (negated : Bool) (span : Span)
  | union (parts : List SetTree) (span : Span)
  | operation (kind : SetOperation) (a b : SetTree) (span : Span)
deriving Repr

/-- The stretch that a set was read from. -/
def SetTree.span : SetTree → Span
  | empty span => span
  | literal l => l.span
  | range _ _ span => span
  | ascii _ _ span => span
  | property _ _ span => span
  | shorthand _ _ span => span
  | bracketed _ _ span => span
  | union _ span => span
  | operation _ _ _ span => span

/-- What a text says. -/
inductive Tree where
  | empty
  /-- Flags for what follows in the group. -/
  | flags (items : List FlagItem)
  | atom (atom : Atom)
  | bracketed (inner : SetTree) (negated : Bool) (span : Span)
  /-- A repetition, with the mark for the shortest one or without. -/
  | times (inner : Tree) (least : Nat) (most? : Option Nat) (marked : Bool) (span : Span)
  /-- A group, which may set flags; one that does not is numbered. -/
  | group (items : List FlagItem) (numbered : Bool) (inner : Tree) (span : Span)
  | cat (parts : List Tree) (span : Span)
  | alt (branches : List Tree) (span : Span)
deriving Repr

/-- Where the stretch starts that a tree was read from. -/
def Tree.first : Tree → Nat
  | empty | flags _ => 0
  | atom a => a.span.first
  | bracketed _ _ span => span.first
  | times _ _ _ _ span => span.first
  | group _ _ _ span => span.first
  | cat _ span => span.first
  | alt _ span => span.first

/-- Whether a repetition has something to repeat in a tree. -/
def Tree.isRepeatable : Tree → Bool
  | empty | flags _ => false
  | _ => true

/-! ## Depth -/

/-- How many nodes may lie within each other. -/
def depthLimit : Nat := 250

mutual

/-- The stretch of the first set that lies too deep below some nodes. -/
def SetTree.tooDeep? (depth : Nat) : SetTree → Option Span
  | .empty _ | .literal _ | .range _ _ _ | .ascii _ _ _ | .property _ _ _ | .shorthand _ _ _ => none
  | .bracketed inner _ span =>
    if depthLimit ≤ depth then some span else inner.tooDeep? (depth + 1)
  | .union parts span =>
    if depthLimit ≤ depth then some span else anySetTooDeep? (depth + 1) parts
  | .operation _ a b span =>
    if depthLimit ≤ depth then some span
    else (a.tooDeep? (depth + 1)).or (b.tooDeep? (depth + 1))

/-- The same for a list of sets. -/
def anySetTooDeep? (depth : Nat) : List SetTree → Option Span
  | [] => none
  | part :: rest => (part.tooDeep? depth).or (anySetTooDeep? depth rest)

end

mutual

/-- The stretch of the first node that lies too deep below some others. -/
def Tree.tooDeep? (depth : Nat) : Tree → Option Span
  | .empty | .flags _ | .atom _ => none
  | .bracketed inner _ span =>
    if depthLimit ≤ depth then some span else inner.tooDeep? (depth + 1)
  | .times inner _ _ _ span =>
    if depthLimit ≤ depth then some span else inner.tooDeep? (depth + 1)
  | .group _ _ inner span =>
    if depthLimit ≤ depth then some span else inner.tooDeep? (depth + 1)
  | .cat parts span =>
    if depthLimit ≤ depth then some span else anyTooDeep? (depth + 1) parts
  | .alt branches span =>
    if depthLimit ≤ depth then some span else anyTooDeep? (depth + 1) branches

/-- The same for a list of nodes. -/
def anyTooDeep? (depth : Nat) : List Tree → Option Span
  | [] => none
  | part :: rest => (part.tooDeep? depth).or (anyTooDeep? depth rest)

end

end ReleaseBundle.Pattern
