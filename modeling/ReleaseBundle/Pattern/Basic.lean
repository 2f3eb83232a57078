import ReleaseBundle.Pattern.Charset

/-!
# Patterns

A **pattern** describes stretches of a text: characters of a set, conditions on
the place between two characters, one pattern after another, one or the other, and
one some number of times.  Stretches are named by their ends, which are places: a
text of `n` characters has the places from zero to `n`.

A pattern is read as a step between sets of places (`Pattern.ends`): from the
places where a stretch may start to those where it may end.  Repetition then is
repetition of the step, and it needs no more rounds than the text has places:
whoever steps more often stands still in between.
-/

namespace ReleaseBundle

open Text

/-- How a place lies to the words beside it. -/
inductive Boundary where
  /-- Between a word and what is none. -/
  | either
  /-- Inside a word, or away from any. -/
  | neither
  /-- Before a word and behind none. -/
  | opening
  /-- Behind a word and before none. -/
  | closing
  /-- Behind no word. -/
  | openingHalf
  /-- Before no word. -/
  | closingHalf
deriving DecidableEq, Repr

/-- Whether a place lies so, given whether words stand before and behind it. -/
def Boundary.holds (boundary : Boundary) (before behind : Bool) : Bool :=
  match boundary with
  | either => before != behind
  | neither => before == behind
  | opening => !before && behind
  | closing => before && !behind
  | openingHalf => !before
  | closingHalf => !behind

/-- A condition on a place between two characters. -/
inductive Look where
  /-- The start of the text. -/
  | start
  /-- The end of the text. -/
  | finish
  /-- The start of a line; lines may also end with a carriage return. -/
  | lineStart (carriage : Bool)
  /-- The end of a line; lines may also end with a carriage return. -/
  | lineFinish (carriage : Bool)
  /-- A place beside words, whose characters are those of a set. -/
  | boundary (kind : Boundary) (word : Charset)
deriving DecidableEq, Repr

namespace Look

/-- Whether a condition holds of a place, given the characters before and behind
it.  Between a carriage return and a line break there is no end of a line. -/
def holds (look : Look) (before? behind? : Option Char) : Bool :=
  match look with
  | start => before?.isNone
  | finish => behind?.isNone
  | lineStart carriage =>
    before?.isNone || before? == some '\n' ||
      (carriage && before? == some '\r' && behind? != some '\n')
  | lineFinish carriage =>
    behind?.isNone || (carriage && behind? == some '\r') ||
      (behind? == some '\n' && !(carriage && before? == some '\r'))
  | boundary kind word => kind.holds (before?.any word.has) (behind?.any word.has)

end Look

/-- A description of stretches of a text. -/
inductive Pattern where
  | empty
  /-- One character of a set. -/
  | one (chars : Charset)
  /-- Nothing, at a place that meets a condition. -/
  | look (condition : Look)
  | cat (p q : Pattern)
  | alt (p q : Pattern)
  /-- A number of times, from `least` to `most?`; without the latter as often as
  may be.  Whether the shortest stretch is preferred to the longest changes nothing
  about which there are. -/
  | times (p : Pattern) (least : Nat) (most? : Option Nat) (shortest : Bool)
  /-- A pattern in round brackets; the stretch that a numbered one stands for could be
  asked for. -/
  | group (p : Pattern) (numbered : Bool)
deriving DecidableEq, Repr

namespace Pattern

/-- Places with more places, each once. -/
def unite (places more : List Nat) : List Nat :=
  places ++ more.filter fun i => !places.contains i

/-- The places that are reached by a number of steps. -/
def iterate (step : List Nat → List Nat) : Nat → List Nat → List Nat
  | 0, places => places
  | rounds + 1, places => iterate step rounds (step places)

/-- The places that are reached by steps up to a number, from the places that the
last round found. -/
def spread (step : List Nat → List Nat) : Nat → List Nat → List Nat → List Nat
  | 0, reached, _ => reached
  | rounds + 1, reached, found =>
    if found.isEmpty then reached
    else
      let next := (step found).filter fun i => !reached.contains i
      spread step rounds (reached ++ next) next

/-- The places where a stretch may end that starts at one of some places. -/
def ends : Pattern → Array Char → List Nat → List Nat
  | empty, _, starts => starts
  | one chars, text, starts =>
    (starts.filter fun i => text[i]?.any chars.has).map (· + 1)
  | look condition, text, starts =>
    starts.filter fun i => condition.holds (if i = 0 then none else text[i - 1]?) text[i]?
  | cat p q, text, starts => q.ends text (p.ends text starts)
  | alt p q, text, starts => unite (p.ends text starts) (q.ends text starts)
  | times p least most? _, text, starts =>
    let places := text.size + 1
    let more := match most? with
      | some most => min (most - least) places
      | none => places
    let early := iterate (p.ends text) (min least places) starts
    spread (p.ends text) more early early
  | group p _, text, starts => p.ends text starts

/-- Whether a pattern describes a stretch somewhere in a text. -/
def occursIn (p : Pattern) (text : String) : Bool :=
  let chars := text.toList.toArray
  !(p.ends chars (List.range (chars.size + 1))).isEmpty

/-! ## Boundary tests -/

/-- Two or three of a letter are found among three, but not four. -/
example : (times (one (.single 'a')) 2 (some 3) false).ends #['a', 'a', 'a'] [0] = [2, 3] := by
  decide

/-- A repetition of nothing comes to an end. -/
example : (times empty 0 none false).ends #['a'] [0] = [0] := by decide

end Pattern

end ReleaseBundle
