import ReleaseBundle.Journal
import ReleaseBundle.Pattern.Refusal

/-!
# Which records are shown

The command line shows records up to a level, and the environment may say more:
a comma-separated list of **directives**, each a level for all topics, a topic,
or a topic with a level, and behind a slash a pattern that occurs in every record
that is shown.  Of the directives that fit a record's topic the one with the
longest address decides.  What cannot be read is passed over with a complaint.
Main statements: of two directives for the same topics the later one stands
(`mem_directives_add`, `eq_of_mem_directives_add`).
-/

namespace ReleaseBundle.CommandLine

/-- A bound on the records of some topics. -/
structure Directive where
  /-- The start of the addresses of the topics; without it all topics are meant. -/
  address? : Option String
  /-- The least pressing level that is shown, as its rank; zero shows nothing. -/
  rank : Nat
deriving DecidableEq, Repr

namespace Directive

/-- Whether a directive is about a topic's address. -/
def fits (d : Directive) (address : String) : Bool := d.address?.all (·.isPrefixOf address)

/-- The length of the address. -/
def length (d : Directive) : Nat := (d.address?.map String.length).getD 0

end Directive

/-- What is wrong with a text that should write a filter. -/
inductive FilterFault where
  /-- It has a part that is no directive, or a level that is none. -/
  | unreadable (part : String)
  /-- It has more than one slash. -/
  | slashes (text : String)
  /-- The pattern is refused. -/
  | pattern (text : String) (refusal : Pattern.Refusal)
deriving DecidableEq, Repr

/-- What is wrong, in words. -/
def FilterFault.message : FilterFault → String
  | unreadable part => s!"invalid logging spec '{part}'"
  | slashes text => s!"invalid logging spec '{text}' (too many '/'s)"
  | pattern text refusal => "invalid regex filter - " ++ refusal.message text

/-- The complaint about a fault. -/
def FilterFault.complaint (fault : FilterFault) : String :=
  s!"warning: {fault.message}, ignoring it\n"

/-- Which records are shown. -/
structure LogFilter where
  directives : List Directive
  /-- The pattern that occurs in the records that are shown. -/
  pattern? : Option Pattern
deriving DecidableEq, Repr

namespace LogFilter

/-- The rank of a level's name, or of the name for no level. -/
def rank? (name : String) : Option Nat :=
  if name.toLower = "off" then some 0 else Level.rank <$> Level.ofName? name

/-- The rank that shows everything. -/
def allRanks : Nat := Level.trace.rank

/-- A text without the blanks at its two ends. -/
def trim (text : String) : String := String.ofList (Text.trimBlanks text.toList)

/-- The directive that a text writes. -/
def directive (text : String) : Except FilterFault Directive :=
  match text.splitOn "=" with
  | [one] =>
    match rank? one with
    | some rank => .ok ⟨none, rank⟩
    | none => .ok ⟨some one, allRanks⟩
  | [address, level] =>
    let level := trim level
    if level.isEmpty then .ok ⟨some address, allRanks⟩
    else
      match rank? level with
      | some rank => .ok ⟨some address, rank⟩
      | none => .error (.unreadable level)
  | _ => .error (.unreadable text)

/-- The filter with one more directive, in the place of one for the same address
if there is one. -/
def add (f : LogFilter) (d : Directive) : LogFilter :=
  if f.directives.any fun old => old.address? = d.address? then
    { f with
      directives := f.directives.map fun old => if old.address? = d.address? then d else old }
  else { f with directives := f.directives ++ [d] }

/-- The filter that shows all topics up to a level. -/
def upTo (level : Level) : LogFilter := ⟨[⟨none, level.rank⟩], none⟩

/-- The filter with the directives of a list, and what is wrong with the others. -/
def addList (f : LogFilter) (list : String) : LogFilter × List FilterFault :=
  let texts := ((list.splitOn ",").map trim).filter (· ≠ "")
  texts.foldl (fun (f, faults) text =>
    match directive text with
    | .ok d => (f.add d, faults)
    | .error fault => (f, faults ++ [fault])) (f, [])

/-- The filter with what a text writes, and what is wrong with the text. -/
def addText (f : LogFilter) (text : String) : LogFilter × List FilterFault :=
  match text.splitOn "/" with
  | [list] => f.addList list
  | [list, part] =>
    let (f, faults) := f.addList list
    match Pattern.ofText part with
    | .ok pattern => ({ f with pattern? := some pattern }, faults)
    | .error refusal => (f, faults ++ [.pattern part refusal])
  | _ => (f, [.slashes text])

/-- The directive that decides for an address: the longest that fits, and of two
of one length the later one. -/
def deciding? (f : LogFilter) (address : String) : Option Directive :=
  f.directives.foldl (fun best? d =>
    if d.fits address then
      match best? with
      | some best => if d.length < best.length then best? else some d
      | none => some d
    else best?) none

/-- Whether a record is shown. -/
def shows (f : LogFilter) (r : Record) : Bool :=
  match f.deciding? r.topic.label with
  | some d => r.level.rank ≤ d.rank && f.pattern?.all (·.occursIn r.text)
  | none => false

/-- A directive that is added is one of the filter's. -/
theorem mem_directives_add (f : LogFilter) (d : Directive) : d ∈ (f.add d).directives := by
  unfold add
  split
  · next there =>
    obtain ⟨old, member, same⟩ := List.any_eq_true.mp there
    exact List.mem_map.mpr ⟨old, member, by rw [if_pos (of_decide_eq_true same)]⟩
  · exact List.mem_append.mpr (Or.inr List.mem_cons_self)

/-- No other directive is about the same topics: the later one stands. -/
theorem eq_of_mem_directives_add {f : LogFilter} {d e : Directive}
    (h : e ∈ (f.add d).directives) (same : e.address? = d.address?) : e = d := by
  unfold add at h
  split at h
  · obtain ⟨old, -, rfl⟩ := List.mem_map.mp h
    split at same
    · next eq => rw [if_pos eq]
    · next ne => exact absurd same ne
  · next absent =>
    rcases List.mem_append.mp h with member | member
    · exact absurd (List.any_eq_true.mpr ⟨e, member, decide_eq_true same⟩) absent
    · exact List.mem_singleton.mp member

end LogFilter

end ReleaseBundle.CommandLine
