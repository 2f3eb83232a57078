import ReleaseBundle.Pattern.Reduced
import ReleaseBundle.Text.Utf8
import Std.Data.HashMap

/-!
# The footprint of a pattern

Patterns are found by automata over octets, and one whose automaton would take too much
room is refused.  The **footprint** of a pattern is that room: every state takes the
same number of octets, and a state with a table takes more for every line of it.  A
pattern needs two automata, one that reads a text from its start and one that reads it
backwards, and either may be the larger one.

This module does not make the automata but counts their states as they would be made.
It stops as soon as the limit is passed, so that a long repetition takes no longer to
refuse than the largest pattern takes to accept.
-/

namespace ReleaseBundle.Pattern

open Text

/-! ## Counting -/

/-- How much there is of an automaton. -/
structure Tally where
  states : Nat
  /-- The octets that the tables take. -/
  tables : Nat
deriving DecidableEq, Repr

namespace Tally

/-- The octets that a state takes without its table. -/
def stateRoom : Nat := 32

/-- The octets that a line takes in a table of ranges. -/
def rangeRoom : Nat := 8

/-- The octets that a line takes in a table of ways that are all open. -/
def wayRoom : Nat := 4

/-- The octets that are taken. -/
def room (t : Tally) : Nat := stateRoom * t.states + t.tables

/-- The octets that an automaton may take. -/
def limit : Nat := 10485760

end Tally

/-- A part of an automaton in the making; none if there is no room for it. -/
abbrev Draft (α : Type) := StateT Tally Option α

namespace Draft

/-- Adds states, and octets for their tables. -/
def grow (states tables : Nat) : Draft Unit := fun t =>
  let grown : Tally := ⟨t.states + states, t.tables + tables⟩
  if grown.room ≤ Tally.limit then some ((), grown) else none

/-- Adds a state with a table of so many octets, and gives its number. -/
def state (tables : Nat) : Draft Nat := do
  let number := (← get).states
  grow 1 tables
  return number

/-- Adds ways out of a fork. -/
def ways (count : Nat) : Draft Unit := grow 0 (count * Tally.wayRoom)

/-- Leads a part on to the next one.  One that ends in a fork needs a way there. -/
def lead (endsInFork : Bool) : Draft Unit := if endsInFork then ways 1 else pure ()

end Draft

/-! ## Sets beyond ASCII -/

/-- A line of a table of ranges: the octets, and the number of the state behind. -/
structure Arrow where
  octets : OctetRange
  target : Nat
deriving DecidableEq, Repr

/-- States that may be shared, each in a slot of its own: a later one takes the place of
an earlier one. -/
abbrev Shared (κ : Type) := Std.HashMap Nat (κ × Nat)

namespace Shared

/-- Mixes a number into another one, to spread keys over slots. -/
def mix (mixed : UInt64) (n : Nat) : UInt64 := (mixed ^^^ n.toUInt64) * 1099511628211

/-- What mixing starts with. -/
def seed : UInt64 := 14695981039346656037

/-- The slot of a table of ranges. -/
def slotOfTable (arrows : List Arrow) : Nat :=
  let mixed := arrows.foldl (fun mixed arrow =>
    mix (mix (mix mixed arrow.octets.first.toNat) arrow.octets.last.toNat) arrow.target) seed
  (mixed % 10000).toNat

/-- The slot of a single range. -/
def slotOfArrow (arrow : Arrow) : Nat :=
  let mixed := mix (mix (mix seed arrow.target) arrow.octets.first.toNat) arrow.octets.last.toNat
  (mixed % 1000).toNat

/-- The number of a state that is in its slot already, or else of a new one, with a
table of so many octets. -/
def obtain {κ : Type} [DecidableEq κ] (slot : Nat) (key : κ) (tables : Nat) :
    StateT (Shared κ) (StateT Tally Option) Nat := do
  let added : StateT (Shared κ) (StateT Tally Option) Nat := do
    let number ← (Draft.state tables : Draft Nat)
    modify (·.insert slot (key, number))
    return number
  match (← get)[slot]? with
  | some (there, number) => if there = key then return number else added
  | none => added

end Shared

/-- The ranges that sequences start with, each with what follows it in those that come
one after another. -/
def byFirst : List (List OctetRange) → List (OctetRange × List (List OctetRange))
  | [] => []
  | [] :: rest => byFirst rest
  | (range :: tail) :: rest =>
    match byFirst rest with
    | (next, tails) :: more =>
      if next = range then (range, tail :: tails) :: more
      else (range, [tail]) :: (next, tails) :: more
    | [] => [(range, [tail])]

/-- Counts the states of sequences up to a length, which all lead to one target, and
gives the number of the first.  States with the same table are shared. -/
def sequencesForth (target : Nat) :
    Nat → List (List OctetRange) → StateT (Shared (List Arrow)) (StateT Tally Option) Nat
  | 0, _ => return target
  | length + 1, sequences => do
    let arrows ← (byFirst sequences).mapM fun (octets, tails) => do
      if tails.all (·.isEmpty) then return ⟨octets, target⟩
      else return ⟨octets, ← sequencesForth target length tails⟩
    Shared.obtain (Shared.slotOfTable arrows) arrows (arrows.length * Tally.rangeRoom)

/-- Counts the states of a sequence that is read backwards, behind a target, and gives
the number of the last octet's. -/
def sequenceBack (target : Nat) :
    List OctetRange → StateT (Shared Arrow) (StateT Tally Option) Nat
  | [] => return target
  | octets :: rest => do
    let arrow : Arrow := ⟨octets, target⟩
    sequenceBack (← Shared.obtain (Shared.slotOfArrow arrow) arrow 0) rest

/-- Counts the states of a set, and tells whether it ends in a fork. -/
def Draft.ofSet (backwards : Bool) (set : List Interval) : Draft Bool := do
  if set.all (·.last < 0x80) then
    Draft.grow 2 (set.length * Tally.rangeRoom)
  else
    let sequences := set.flatMap Utf8.sequences
    if backwards then
      Draft.grow 1 0
      let target ← Draft.state 0
      let _ ← (sequences.forM fun sequence => do
        let _ ← sequenceBack target sequence
        (Draft.ways 1 : Draft Unit)).run ∅
    else
      let target ← Draft.state 0
      let _ ← (sequencesForth target 4 sequences).run ∅
  return false

/-! ## Choices of literals -/

/-- The words up to each empty one. -/
def chunks : List (List UInt8) → List (List (List UInt8))
  | [] => [[]]
  | [] :: rest => [] :: chunks rest
  | word :: rest =>
    match chunks rest with
    | chunk :: more => (word :: chunk) :: more
    | [] => [[word]]

/-- Words without those empty ones at the front that come after another. -/
def dropRepeatedEmpty : List (List UInt8) → List (List UInt8)
  | [] :: rest => [] :: rest.dropWhile (·.isEmpty)
  | words => words

/-- What words are followed by behind each of the octets that they start with. -/
def behindFirst (words : List (List UInt8)) : List (List (List UInt8)) :=
  (words.filterMap (·.head?)).eraseDups.map fun octet =>
    words.filterMap fun
      | first :: rest => if first = octet then some rest else none
      | [] => none

/-- Counts the tree of words up to a length: a node leads on by the octets that its
words start with, and the words that come after an empty one have a table of their
own. -/
def wordTree : Nat → List (List UInt8) → Tally
  | 0, _ => ⟨0, 0⟩
  | length + 1, words =>
    let tables := (chunks (dropRepeatedEmpty words)).map behindFirst
    let below := (tables.flatten.filter (·.any (!·.isEmpty))).map (wordTree length)
    let full := tables.filter (!·.isEmpty)
    let lines := (full.map List.length).filter (1 < ·)
    let ways := full.length + (tables.length - 1)
    ⟨(below.map Tally.states).sum + full.length + 1,
      (below.map Tally.tables).sum + lines.sum * Tally.rangeRoom + ways * Tally.wayRoom⟩

/-- The octets of a literal. -/
def Reduced.octets? : Reduced → Option (List UInt8)
  | .literal chars => some (chars.flatMap String.utf8EncodeChar)
  | _ => none

/-! ## Everything else -/

namespace Draft

/-- A draft again and again, each led on to the next one. -/
def again (draft : Draft Bool) : Nat → Bool → Draft Bool
  | 0, endsInFork => return endsInFork
  | count + 1, endsInFork => do
    let next ← draft
    lead endsInFork
    again draft count next

/-- A draft a number of times. -/
def exactly (draft : Draft Bool) : Nat → Draft Bool
  | 0 => do
    grow 1 0
    return false
  | count + 1 => do again draft count (← draft)

/-- A draft that may come a number of times more, or not at all. -/
def upTo (draft : Draft Bool) : Nat → Bool → Draft Bool
  | 0, endsInFork => do
    lead endsInFork
    return false
  | count + 1, endsInFork => do
    grow 1 0
    let next ← draft
    lead endsInFork
    ways 2
    upTo draft count next

/-- A draft as often as may be, but a number of times at least. -/
def atLeast (draft : Draft Bool) (neverEmpty : Bool) : Nat → Draft Bool
  | 0 => do
    if neverEmpty then
      grow 1 0
      let next ← draft
      ways 1
      lead next
      return true
    else
      let next ← draft
      grow 3 0
      lead next
      ways 4
      return false
  | 1 => do
    let next ← draft
    grow 1 0
    lead next
    ways 1
    return true
  | least + 2 => do
    let first ← exactly draft (least + 1)
    let last ← draft
    grow 1 0
    lead first
    lead last
    ways 1
    return true

/-- A draft a number of times. -/
def times (draft : Draft Bool) (neverEmpty : Bool) (least : Nat) : Option Nat → Draft Bool
  | none => atLeast draft neverEmpty least
  | some most => do
    if least = 0 && most = 1 then
      grow 1 0
      let next ← draft
      grow 1 0
      ways 2
      lead next
      return false
    else
      let first ← exactly draft least
      if least = most then return first
      else
        grow 1 0
        upTo draft (most - least) first

/-- One of some drafts.  The fork comes behind the first two of them. -/
def oneOf : List (Draft Bool) → Draft Bool
  | [draft] => draft
  | drafts => do
    let early ← (drafts.take 2).mapM id
    grow 2 0
    early.forM join
    (drafts.drop 2).forM fun draft => do join (← draft)
    return false
where
  /-- Joins a branch, which may end in a fork. -/
  join (endsInFork : Bool) : Draft Unit := do
    ways 1
    lead endsInFork

end Draft

/-- The drafts of the branches of a reduced pattern.  Every draft tells whether it ends
in a fork. -/
def Reduced.drafts (backwards : Bool) : Reduced → List (Draft Bool)
  | .alt r s => join r (drafts backwards r) :: drafts backwards s
  | .empty | .look _ => [do
    Draft.grow 1 0
    return false]
  | .literal chars => [do
    Draft.grow (octets chars) 0
    return false]
  | .one set => [Draft.ofSet backwards set]
  | .group r =>
    let draft := join r (drafts backwards r)
    [if backwards then draft
     else do
      Draft.grow 1 0
      let next ← draft
      Draft.grow 1 0
      Draft.lead next
      return false]
  | .times r least most? _ =>
    [Draft.times (join r (drafts backwards r)) r.isNeverEmpty least most?]
  | .cat r s =>
    let one := join r (drafts backwards r)
    let other := join s (drafts backwards s)
    let (first, second) := if backwards then (other, one) else (one, other)
    [do
      let next ← first
      let last ← second
      Draft.lead next
      return last]
where
  /-- The draft of a reduced pattern from those of its branches; literals alone make a
  tree of words. -/
  join (r : Reduced) (drafts : List (Draft Bool)) : Draft Bool :=
    match r.branches.mapM Reduced.octets? with
    | some (first :: second :: rest) => do
      let words := first :: second :: rest
      let tree := wordTree ((words.map List.length).foldl max 0 + 1)
        (if backwards then words.map List.reverse else words)
      Draft.grow (tree.states + 1) tree.tables
      return false
    | _ => Draft.oneOf drafts

/-- The draft of a whole automaton.  Before the pattern, unless it starts at the start of
what is read, any octets may come. -/
def Reduced.automaton (backwards : Bool) (r : Reduced) : Draft Unit := do
  let anchored := if backwards then r.isAtFinish else r.isAtStart
  if anchored then Draft.grow 1 0
  else
    Draft.grow 3 Tally.rangeRoom
    Draft.ways 2
  let whole := if backwards then r else .group r
  let next ← (Reduced.drafts.join backwards whole (whole.drafts backwards))
  Draft.grow 1 0
  Draft.lead next

/-- Whether both automata of a pattern have room. -/
def fits (p : Pattern) : Bool :=
  let r := Reduced.ofPattern p
  (r.automaton false |>.run ⟨0, 0⟩).isSome && (r.automaton true |>.run ⟨0, 0⟩).isSome

end ReleaseBundle.Pattern
