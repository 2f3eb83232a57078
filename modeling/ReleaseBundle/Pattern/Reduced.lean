import ReleaseBundle.Pattern.Basic
import ReleaseBundle.Pattern.Extent

/-!
# Reduced patterns

A pattern is **reduced** before an automaton is made from it: characters that stand
one after another become one literal, a choice of characters becomes one set, what all
branches of a choice start with is written once before it, and a repetition that
changes nothing goes.
-/

namespace ReleaseBundle.Pattern

open Text

/-- A reduced pattern.  The first part of a `cat` is none itself, and so is the first
branch of an `alt`. -/
inductive Reduced where
  | empty
  /-- Characters one after another. -/
  | literal (chars : List Char)
  /-- One character of a set. -/
  | one (set : List Interval)
  | look (condition : Look)
  | cat (r s : Reduced)
  | alt (r s : Reduced)
  | times (r : Reduced) (least : Nat) (most? : Option Nat) (shortest : Bool)
  /-- A numbered group. -/
  | group (r : Reduced)
deriving DecidableEq, Repr

namespace Reduced

/-! ## Parts and branches -/

/-- What stands one after another. -/
def parts : Reduced → List Reduced
  | empty => []
  | cat r s => r :: s.parts
  | r => [r]

/-- What is to choose from. -/
def branches : Reduced → List Reduced
  | alt r s => r :: s.branches
  | r => [r]

/-- One reduced pattern after another.  Literals that meet become one. -/
def append : Reduced → Reduced → Reduced
  | empty, s => s
  | r, empty => r
  | cat r rest, s => cat r (rest.append s)
  | literal a, literal b => literal (a ++ b)
  | literal a, cat (literal b) s => cat (literal (a ++ b)) s
  | r, s => cat r s

/-- Reduced patterns one after another. -/
def concat (parts : List Reduced) : Reduced := parts.foldr append empty

/-- The choice of some branches, of which there is one at least. -/
def choice : List Reduced → Reduced
  | [] => one []
  | [r] => r
  | r :: rest => alt r (choice rest)

/-- The pattern of one character of a set: a literal if there is only one. -/
def ofSet : List Interval → Reduced
  | [⟨first, last⟩] => if first = last then literal [Char.ofNat first] else one [⟨first, last⟩]
  | set => one set

/-! ## Lengths -/

/-- How many octets a literal takes. -/
def octets (chars : List Char) : Nat := (String.ofList chars).utf8ByteSize

/-- The least number of octets that a stretch takes; nothing for a pattern that stands
for none. -/
def leastLength? : Reduced → Option Nat
  | empty | look _ => some 0
  | literal chars => some (octets chars)
  | one set => set.head?.map fun i => (Char.ofNat i.first).utf8Size
  | cat r s => do return (← r.leastLength?) + (← s.leastLength?)
  | alt r s => do return min (← r.leastLength?) (← s.leastLength?)
  | times r least _ _ => r.leastLength?.map (· * least)
  | group r => r.leastLength?

/-- Whether every stretch takes an octet. -/
def isNeverEmpty (r : Reduced) : Bool := r.leastLength?.any (0 < ·)

/-- Whether every stretch is empty. -/
def isAlwaysEmpty : Reduced → Bool
  | empty | look _ => true
  | literal _ | one _ => false
  | cat r s | alt r s => r.isAlwaysEmpty && s.isAlwaysEmpty
  | times r _ _ _ | group r => r.isAlwaysEmpty

/-- Whether every stretch starts at the start of the text. -/
def isAtStart : Reduced → Bool
  | look condition => condition = .start
  | cat r s => r.isAtStart || r.isAlwaysEmpty && s.isAtStart
  | alt r s => r.isAtStart && s.isAtStart
  | times r least _ _ => 0 < least && r.isAtStart
  | group r => r.isAtStart
  | empty | literal _ | one _ => false

/-- Whether every stretch ends at the end of the text. -/
def isAtFinish : Reduced → Bool
  | look condition => condition = .finish
  | cat r s => s.isAtFinish || s.isAlwaysEmpty && r.isAtFinish
  | alt r s => r.isAtFinish && s.isAtFinish
  | times r least _ _ => 0 < least && r.isAtFinish
  | group r => r.isAtFinish
  | empty | literal _ | one _ => false

/-! ## Choices -/

/-- Whether a numbered group is part of a pattern. -/
def hasGroup : Reduced → Bool
  | group _ => true
  | cat r s | alt r s => r.hasGroup || s.hasGroup
  | times r _ _ _ => r.hasGroup
  | empty | literal _ | one _ | look _ => false

/-- The single character that a pattern stands for. -/
def char? : Reduced → Option Char
  | literal [c] => some c
  | _ => none

/-- The set that one character is taken from. -/
def set? : Reduced → Option (List Interval)
  | one set => some set
  | _ => none

/-- The set of branches that are single characters, or sets of them. -/
def unionOf? (branches : List Reduced) : Option (List Interval) :=
  match branches.mapM char?, branches.mapM set? with
  | some chars, _ => some (Interval.normalize (chars.map fun c => .single c.toNat))
  | none, some sets => some (Interval.normalize sets.flatten)
  | none, none => none

/-- The choice of some branches, with those that are choices taken apart and single
characters united. -/
def unite (branches : List Reduced) : Reduced :=
  let branches := branches.flatMap Reduced.branches
  match branches with
  | [r] => r
  | _ =>
    match unionOf? branches with
    | some set => ofSet set
    | none => choice branches

/-- Whether a pattern is a `cat`. -/
def isCat : Reduced → Bool
  | cat _ _ => true
  | _ => false

/-- The parts that two lists both start with.  Numbered groups are never the same. -/
def sharedStart : List Reduced → List Reduced → List Reduced
  | r :: rest, s :: more => if r = s && !r.hasGroup then r :: sharedStart rest more else []
  | _, _ => []

/-- The choice of some branches, with what they all start with written before it. -/
def alternatives (branches : List Reduced) : Reduced :=
  let all := branches.flatMap Reduced.branches
  match all with
  | first :: second :: rest =>
    let shared := (second :: rest).foldl (fun shared r => sharedStart shared r.parts) first.parts
    if (unionOf? all).isSome || !all.all isCat || shared.isEmpty then unite all
    else (concat shared).append (unite (all.map fun r => concat (r.parts.drop shared.length)))
  | _ => unite all

/-! ## Repetitions -/

/-- A repetition, unless it is none.  There is no use in more than one empty
stretch. -/
def repeated (r : Reduced) (least : Nat) (most? : Option Nat) (shortest : Bool) : Reduced :=
  let most? := if r.isAlwaysEmpty then some (min (most?.getD 1) 1) else most?
  let least := if r.isAlwaysEmpty then min least 1 else least
  if most? = some 0 then empty
  else if least = 1 && most? = some 1 then r
  else times r least most? shortest

/-! ## Reducing -/

/-- The branches of a pattern, reduced. -/
def branchesOf : Pattern → List Reduced
  | .alt p q => alternatives (branchesOf p) :: branchesOf q
  | .empty => [empty]
  | .one chars => [ofSet chars.extent]
  | .look condition => [look condition]
  | .cat p q => [(alternatives (branchesOf p)).append (alternatives (branchesOf q))]
  | .times p least most? shortest =>
    [(alternatives (branchesOf p)).repeated least most? shortest]
  | .group p numbered =>
    let r := alternatives (branchesOf p)
    [if numbered then group r else r]

/-- A pattern, reduced. -/
def ofPattern (p : Pattern) : Reduced := alternatives (branchesOf p)

end Reduced

end ReleaseBundle.Pattern
