import ReleaseBundle.BuildError
import ReleaseBundle.Journal
import ReleaseBundle.OrderedMap

/-!
# The manifest

A manifest is an ordered list of named **groups**.  An entry of a group is the
path of a file, or "@" and the name of another group, whose files stand in the
entry's place.  Expanding a group follows its entries in order and keeps two
things: the **chain** of groups being expanded, from the first one asked for to
the present one, and the files met so far.  A group that is met while it is on
the chain refers to itself, and the chain shows how.

Expansion ends because a chain holds each defined group once at most: every
reference followed leaves fewer groups off the chain (`offChain_lt`).
-/

namespace ReleaseBundle

/-- Named groups of entries, in the order in which they are defined. -/
structure Manifest where
  groups : OrderedMap String (List String)
deriving DecidableEq, Inhabited

namespace Manifest

/-! ## Groups -/

/-- The manifest without groups. -/
def empty : Manifest := ⟨.empty⟩

/-- The names of the groups, in order. -/
def names (m : Manifest) : List String := m.groups.keys

/-- The entries of a group. -/
def entries? (m : Manifest) (group : String) : Option (List String) := m.groups.get? group

/-- Whether a group is defined. -/
def contains (m : Manifest) (group : String) : Bool := (m.entries? group).isSome

/-- The manifest with a group defined, or defined anew in its old place. -/
def define (m : Manifest) (name : String) (entries : List String) : Manifest :=
  ⟨m.groups.insert name entries⟩

/-- The manifest of a list of definitions; of two definitions of one name the
later one holds, in the place of the first. -/
def ofList (groups : List (String × List String)) : Manifest := ⟨.ofList groups⟩

/-- **What is defined is found**, and no other group changes. -/
theorem entries?_define (m : Manifest) (name group : String) (entries : List String) :
    (m.define name entries).entries? group =
      if group = name then some entries else m.entries? group :=
  m.groups.get?_insert name group entries

theorem mem_names_of_entries? {m : Manifest} {group : String} {entries : List String}
    (h : m.entries? group = some entries) : group ∈ m.names :=
  OrderedMap.mem_keys_of_get? h

/-! ## Expansion -/

/-- The group that an entry refers to, if it is a reference. -/
def reference? (entry : String) : Option String :=
  match entry.toList with
  | '@' :: name => some (String.ofList name)
  | _ => none

/-- How far an expansion is: the groups being expanded, the first one asked for
first, and the files met so far. -/
structure Progress where
  chain : List String
  files : List String
deriving DecidableEq, Repr

/-- The number of groups that are not on a chain. -/
def offChain (m : Manifest) (chain : List String) : Nat :=
  m.names.countP fun name => !chain.contains name

/-- Taking a defined group on the chain leaves fewer groups off it. -/
theorem offChain_lt {m : Manifest} {group : String} {chain : List String}
    (hg : group ∈ m.names) (hc : group ∉ chain) :
    m.offChain (chain ++ [group]) < m.offChain chain := by
  obtain ⟨before, after, he⟩ := List.append_of_mem hg
  have fewer : ∀ names : List String,
      names.countP (fun name => !(chain ++ [group]).contains name) ≤
        names.countP fun name => !chain.contains name := by
    intro names
    apply List.countP_mono_left
    intro name _ h
    simp only [Bool.not_eq_true', List.contains_eq_mem, decide_eq_false_iff_not,
      List.mem_append, not_or] at h ⊢
    exact h.1
  have on : (!(chain ++ [group]).contains group) = false := by simp
  have off : (!chain.contains group) = true := by simp [hc]
  have h₁ := fewer before
  have h₂ := fewer after
  simp only [offChain, he, List.countP_append, List.countP_cons, on, off, Bool.false_eq_true,
    if_false, if_true]
  omega

mutual

/-- Expands a group.  It joins the chain while its entries are followed and
leaves it afterwards; `module` is named where a group is unknown. -/
def expandGroup (m : Manifest) (module group : String) (before : Progress) :
    Except BuildError { after : Progress // after.chain = before.chain } :=
  match found : m.entries? group with
  | none => .error (.unknownGroup module group)
  | some entries =>
    if on : group ∈ before.chain then .error (.groupCycle (before.chain ++ [group]))
    else do
      let ⟨inner, kept⟩ ← m.expandEntries module entries ⟨before.chain ++ [group], before.files⟩
      return ⟨⟨inner.chain.dropLast, inner.files⟩, by simp [kept]⟩
termination_by (m.offChain before.chain, 0)
decreasing_by
  exact Prod.Lex.left _ _ (offChain_lt (mem_names_of_entries? found) on)

/-- Follows entries in order: a file is met, and a reference is expanded. -/
def expandEntries (m : Manifest) (module : String) (entries : List String) (before : Progress) :
    Except BuildError { after : Progress // after.chain = before.chain } :=
  match entries with
  | [] => .ok ⟨before, rfl⟩
  | entry :: rest =>
    match reference? entry with
    | none => m.expandEntries module rest ⟨before.chain, before.files ++ [entry]⟩
    | some group => do
      let ⟨inner, kept⟩ ← m.expandGroup module group before
      let ⟨after, kept'⟩ ← m.expandEntries module rest inner
      return ⟨after, kept'.trans kept⟩
termination_by (m.offChain before.chain, entries.length + 1)
decreasing_by
  · exact Prod.Lex.right _ (by simp)
  · exact Prod.Lex.right _ (by simp)
  · rw [kept]; exact Prod.Lex.right _ (by simp)

end

/-- The files of a group, on behalf of a module. -/
def filesFor (m : Manifest) (module group : String) : Except BuildError (List String) := do
  let ⟨after, _⟩ ← m.expandGroup module group ⟨[], []⟩
  return after.files

/-- The files of several groups, one after the other. -/
def filesForAll (m : Manifest) (module : String) : List String → Except BuildError (List String)
  | [] => .ok []
  | group :: groups => do
    let files ← m.filesFor module group
    return files ++ (← m.filesForAll module groups)

/-- What is said while a group is expanded. -/
def filesForRecords (m : Manifest) (module group : String) : List Record :=
  match m.filesFor module group with
  | .ok files => [⟨.debug, .manifest, s!"Group '{group}' expands to {files.length} files"⟩]
  | .error _ => []

/-- What is said while several groups are expanded: nothing after the first that
fails. -/
def filesForAllRecords (m : Manifest) (module : String) : List String → List Record
  | [] => []
  | group :: groups =>
    m.filesForRecords module group ++
      match m.filesFor module group with
      | .ok _ => m.filesForAllRecords module groups
      | .error _ => []

end Manifest

end ReleaseBundle
