import Mathlib.Data.List.Chain
import Mathlib.Data.List.Nodup
import Mathlib.Data.List.Perm.Subperm
import ReleaseBundle.Proofs.Resolution

/-!
# How an expansion calls itself

Expanding a group makes a **call** for every reference that it follows, and hands it the
progress so far: the chain of the groups under way and the files met (`Manifest.Call`).
All calls of an expansion share one chain and one list of files.

What a call is handed matters in one way only: it succeeds exactly if its group expands by
itself and reaches none of the groups under way.  Then it has met the files of its group,
as it would have by itself, and left the chain as it was
(`Manifest.expandGroup_in_any_context`).

Which calls are made is told by **one pass** over a group that leaves the answers to
somebody else (`Manifest.passGroup`).  An expansion is a pass that answers its own calls
(`Manifest.outcome_passGroup`), and a pass comes to the same whoever answers, if the calls
that it makes are answered alike (`Manifest.passGroup_congr`).

A call is handed the chain of the one that makes it, with that one's group behind
(`Manifest.of_mem_calls`).  So where calls are **nested** and the first is made from
outside, the chain of each holds the groups of the calls around it: defined groups, all
different, that lead from one to the next (`Manifest.Nested.way`).  Fewer groups are off
the chain with every call, so no more calls are nested than there are groups, and one for
the name in which the way ends; and passes nested that deep come to what the expansion
comes to, whoever would answer further down (`Manifest.expansion_ends_on_every_manifest`).
-/

namespace ReleaseBundle.Manifest

variable {m : Manifest} {module start group name : String} {entries chain : List String}
  {before after : Progress}

/-! ## Expanding in a context -/

/-- **The groups under way have one thing to do with a group that expands**: it must not
reach them. -/
theorem groupFiles_eq_ok_iff {files : List String} :
    m.groupFiles module group before = .ok files ↔
      ∃ new, m.filesFor module group = .ok new ∧
        (∀ name, m.Reaches group name → name ∉ before.chain) ∧ files = before.files ++ new := by
  have account := accounts_groupFiles m module group before
  constructor
  · intro met
    rw [met] at account
    obtain ⟨new, expands, rfl, apart⟩ := account
    exact ⟨new, filesFor_of_expands module expands, apart, rfl⟩
  · rintro ⟨new, alone, apart, rfl⟩
    have expands := expands_of_filesFor alone
    cases met : m.groupFiles module group before with
    | ok files =>
      rw [met] at account
      obtain ⟨new', expands', rfl, -⟩ := account
      rw [expands'.unique expands]
    | error e =>
      rw [met] at account
      have stuck : m.Stuck module before.chain group e := account
      obtain ⟨name, on, reaches⟩ :=
        stuck.exists_around_of_expands (fun _ mem => Or.inl mem) expands
      exact absurd on (apart name reaches)

/-- **A group expands alike wherever it is called for.**  Handed any chain and any files, it
succeeds exactly if it expands by itself and reaches no group of the chain.  Then the chain
is the one it was handed, and the files are those it was handed with its own behind them. -/
theorem expandGroup_in_any_context (m : Manifest) (module group : String) (before : Progress) :
    ((∃ after, m.expandGroup module group before = .ok after) ↔
        (∃ files, m.filesFor module group = .ok files) ∧
          ∀ name, m.Reaches group name → name ∉ before.chain) ∧
      ∀ after, m.expandGroup module group before = .ok after →
        ∃ files, m.filesFor module group = .ok files ∧
          after.1 = ⟨before.chain, before.files ++ files⟩ := by
  have files_of_ok : ∀ after, m.expandGroup module group before = .ok after →
      ∃ new, m.filesFor module group = .ok new ∧
        (∀ name, m.Reaches group name → name ∉ before.chain) ∧
          after.1.files = before.files ++ new := by
    intro after expanded
    have met : m.groupFiles module group before = .ok after.1.files := by
      rw [groupFiles, expanded]
      rfl
    exact groupFiles_eq_ok_iff.mp met
  refine ⟨⟨?_, ?_⟩, ?_⟩
  · rintro ⟨after, expanded⟩
    obtain ⟨new, alone, apart, -⟩ := files_of_ok after expanded
    exact ⟨⟨new, alone⟩, apart⟩
  · rintro ⟨⟨new, alone⟩, apart⟩
    have met := groupFiles_eq_ok_iff.mpr ⟨new, alone, apart, rfl⟩
    rw [groupFiles] at met
    cases expanded : m.expandGroup module group before with
    | ok after => exact ⟨after, rfl⟩
    | error e =>
      rw [expanded] at met
      cases met
  · rintro ⟨after, kept⟩ expanded
    obtain ⟨new, alone, -, files⟩ := files_of_ok _ expanded
    have same : after = ⟨before.chain, before.files ++ new⟩ :=
      calc after = ⟨after.chain, after.files⟩ := rfl
        _ = ⟨before.chain, before.files ++ new⟩ := by rw [kept, files]
    exact ⟨new, alone, same⟩

/-- A group that expands by itself fails where one that it reaches is under way. -/
example : (ofList [("a", ["a.js", "@b"]), ("b", ["b.js"])]).groupFiles "m" "a" ⟨["b"], ["x.js"]⟩ =
    .error (.groupCycle ["b", "a", "b"]) := by
  cbv

/-! ## The calls of one pass -/

/-- A call for the expansion of a group: its name, and the progress that is handed on. -/
structure Call where
  group : String
  before : Progress
deriving DecidableEq, Repr

/-- A pass: the calls that it makes, in order, and what it comes to. -/
structure Pass where
  calls : List Call
  outcome : Except BuildError Progress

/-- Follows entries in order and has `ask` answer the calls; the first one that fails is the
last one that is made. -/
def passEntries (ask : Call → Except BuildError Progress) : List String → Progress → Pass
  | [], before => ⟨[], .ok before⟩
  | entry :: rest, before =>
    match reference? entry with
    | none => passEntries ask rest ⟨before.chain, before.files ++ [entry]⟩
    | some group =>
      match ask ⟨group, before⟩ with
      | .error e => ⟨[⟨group, before⟩], .error e⟩
      | .ok inner =>
        let behind := passEntries ask rest inner
        ⟨⟨group, before⟩ :: behind.calls, behind.outcome⟩

/-- Passes over a group and has `ask` answer the calls. -/
def passGroup (m : Manifest) (module : String) (ask : Call → Except BuildError Progress)
    (c : Call) : Pass :=
  match m.entries? c.group with
  | none => ⟨[], .error (.unknownGroup module c.group)⟩
  | some entries =>
    if c.group ∈ c.before.chain then ⟨[], .error (.groupCycle (c.before.chain ++ [c.group]))⟩
    else
      let inside := passEntries ask entries ⟨c.before.chain ++ [c.group], c.before.files⟩
      ⟨inside.calls, inside.outcome.map fun inner => ⟨inner.chain.dropLast, inner.files⟩⟩

theorem passGroup_of_unknown {ask : Call → Except BuildError Progress} {c : Call}
    (undefined : m.entries? c.group = none) :
    m.passGroup module ask c = ⟨[], .error (.unknownGroup module c.group)⟩ := by
  rw [passGroup, undefined]

theorem passGroup_of_onChain {ask : Call → Except BuildError Progress} {c : Call}
    (defined : m.entries? c.group = some entries) (on : c.group ∈ c.before.chain) :
    m.passGroup module ask c = ⟨[], .error (.groupCycle (c.before.chain ++ [c.group]))⟩ := by
  rw [passGroup, defined]
  exact if_pos on

theorem passGroup_of_defined {ask : Call → Except BuildError Progress} {c : Call}
    (defined : m.entries? c.group = some entries) (off : c.group ∉ c.before.chain) :
    m.passGroup module ask c =
      let inside := passEntries ask entries ⟨c.before.chain ++ [c.group], c.before.files⟩
      ⟨inside.calls, inside.outcome.map fun inner => ⟨inner.chain.dropLast, inner.files⟩⟩ := by
  rw [passGroup, defined]
  exact if_neg off

/-- What an expansion answers a call: the progress after it, or why it fails. -/
def answer (m : Manifest) (module : String) (c : Call) : Except BuildError Progress :=
  (m.expandGroup module c.group c.before).map Subtype.val

/-- The calls that a call makes itself while the expansion answers it. -/
def calls (m : Manifest) (module : String) (c : Call) : List Call :=
  (m.passGroup module (m.answer module) c).calls

theorem outcome_passEntries (m : Manifest) (module : String) (entries : List String)
    (before : Progress) : (passEntries (m.answer module) entries before).outcome =
      (m.expandEntries module entries before).map Subtype.val := by
  induction entries generalizing before with
  | nil =>
    rw [expandEntries]
    rfl
  | cons entry rest ih =>
    rw [passEntries, expandEntries]
    cases refers : reference? entry with
    | none => exact ih _
    | some group =>
      dsimp only [answer]
      rcases m.expandGroup module group before with e | ⟨inner, kept⟩
      · rfl
      · simp only [Except.map, ih inner, bind, Except.bind]
        cases m.expandEntries module rest inner <;> rfl

/-- **An expansion is a pass that answers its own calls.** -/
theorem outcome_passGroup (m : Manifest) (module : String) (c : Call) :
    (m.passGroup module (m.answer module) c).outcome = m.answer module c := by
  cases found : m.entries? c.group with
  | none =>
    rw [passGroup_of_unknown found, answer, expandGroup]
    split
    · rfl
    · simp_all
  | some entries =>
    by_cases on : c.group ∈ c.before.chain
    · rw [passGroup_of_onChain found on, answer, expandGroup]
      split
      · simp_all
      · simp [on, Except.map]
    · rw [passGroup_of_defined found on, answer, expandGroup]
      split
      · simp_all
      · rename_i entries' found'
        obtain rfl := Option.some.inj (found.symm.trans found')
        simp only [on, dif_neg, not_false_eq_true, outcome_passEntries, bind, Except.bind]
        cases m.expandEntries module entries ⟨c.before.chain ++ [c.group], c.before.files⟩ <;> rfl

theorem filesFor_eq_answer (m : Manifest) (module group : String) :
    m.filesFor module group = (m.answer module ⟨group, ⟨[], []⟩⟩).map Progress.files := by
  rw [filesFor, answer]
  dsimp only
  cases m.expandGroup module group ⟨[], []⟩ <;> rfl

/-- A call that succeeds leaves the chain as it was. -/
theorem chain_of_answer {c : Call} (answered : m.answer module c = .ok after) :
    after.chain = c.before.chain := by
  rw [answer] at answered
  cases expanded : m.expandGroup module c.group c.before with
  | error e =>
    rw [expanded] at answered
    cases answered
  | ok inner =>
    rw [expanded] at answered
    obtain rfl := Except.ok.inj answered
    exact inner.2

/-- Entries are followed with calls for the names that they refer to, each handed the chain
that was there before. -/
theorem of_mem_passEntries {ask : Call → Except BuildError Progress}
    (keeps : ∀ c after, ask c = .ok after → after.chain = c.before.chain) {d : Call}
    (made : d ∈ (passEntries ask entries before).calls) :
    "@" ++ d.group ∈ entries ∧ d.before.chain = before.chain := by
  induction entries generalizing before with
  | nil => cases made
  | cons entry rest ih =>
    rw [passEntries] at made
    cases refers : reference? entry with
    | none =>
      rw [refers] at made
      obtain ⟨mem, same⟩ := ih made
      exact ⟨List.mem_cons_of_mem entry mem, same⟩
    | some group =>
      obtain rfl := reference?_eq_some_iff.mp refers
      have here : "@" ++ group ∈ ("@" ++ group) :: rest := List.mem_cons_self
      rw [refers] at made
      dsimp only at made
      cases answered : ask ⟨group, before⟩ with
      | error e =>
        rw [answered] at made
        obtain rfl := List.mem_singleton.mp made
        exact ⟨here, rfl⟩
      | ok inner =>
        rw [answered] at made
        rcases List.mem_cons.mp made with rfl | later
        · exact ⟨here, rfl⟩
        · obtain ⟨mem, same⟩ := ih later
          exact ⟨List.mem_cons_of_mem _ mem, same.trans (keeps _ _ answered)⟩

/-- **What a call has to do with the one that makes it**: the one that makes it is for a
group off the chain, which refers to the name called for and is put on the chain. -/
theorem of_mem_calls {c d : Call} (made : d ∈ m.calls module c) :
    c.group ∉ c.before.chain ∧ m.Refers c.group d.group ∧
      d.before.chain = c.before.chain ++ [c.group] := by
  rw [calls] at made
  cases found : m.entries? c.group with
  | none =>
    rw [passGroup_of_unknown found] at made
    cases made
  | some entries =>
    by_cases on : c.group ∈ c.before.chain
    · rw [passGroup_of_onChain found on] at made
      cases made
    · rw [passGroup_of_defined found on] at made
      obtain ⟨mem, same⟩ := of_mem_passEntries (fun _ _ => chain_of_answer) made
      exact ⟨on, ⟨entries, found, mem⟩, same⟩

/-- Fewer groups are off the chain of a call than off that of the one that makes it. -/
theorem offChain_lt_of_mem_calls {c d : Call} (made : d ∈ m.calls module c) :
    m.offChain d.before.chain < m.offChain c.before.chain := by
  obtain ⟨off, ⟨entries, defined, -⟩, chain⟩ := of_mem_calls made
  rw [chain]
  exact offChain_lt (mem_names_of_entries? defined) off

theorem passEntries_congr {ask ask' : Call → Except BuildError Progress}
    (same : ∀ d ∈ (passEntries ask entries before).calls, ask' d = ask d) :
    passEntries ask' entries before = passEntries ask entries before := by
  induction entries generalizing before with
  | nil => rfl
  | cons entry rest ih =>
    rw [passEntries, passEntries]
    rw [passEntries] at same
    cases refers : reference? entry with
    | none =>
      rw [refers] at same
      exact ih same
    | some group =>
      rw [refers] at same
      dsimp only at same ⊢
      cases answered : ask ⟨group, before⟩ with
      | error e =>
        rw [answered] at same
        rw [same ⟨group, before⟩ List.mem_cons_self, answered]
      | ok inner =>
        rw [answered] at same
        rw [same ⟨group, before⟩ List.mem_cons_self, answered]
        dsimp only
        rw [ih fun d mem => same d (List.mem_cons_of_mem _ mem)]

/-- **A pass comes to the same whoever answers**, if the calls that it makes are answered
alike. -/
theorem passGroup_congr {ask ask' : Call → Except BuildError Progress} {c : Call}
    (same : ∀ d ∈ (m.passGroup module ask c).calls, ask' d = ask d) :
    m.passGroup module ask' c = m.passGroup module ask c := by
  cases found : m.entries? c.group with
  | none => rw [passGroup_of_unknown found, passGroup_of_unknown found]
  | some entries =>
    by_cases on : c.group ∈ c.before.chain
    · rw [passGroup_of_onChain found on, passGroup_of_onChain found on]
    · rw [passGroup_of_defined found on] at same
      rw [passGroup_of_defined found on, passGroup_of_defined found on, passEntries_congr same]

/-! ## Nested calls -/

/-- A chain leads from a start to a name: its groups are defined and all different, and each
of them refers to the next. -/
structure Way (m : Manifest) (start : String) (chain : List String) (name : String) : Prop where
  starts : (chain ++ [name]).head? = some start
  refers : (chain ++ [name]).IsChain m.Refers
  distinct : chain.Nodup
  defined : ∀ group ∈ chain, m.contains group = true

namespace Way

theorem refl (m : Manifest) (start : String) : m.Way start [] start where
  starts := rfl
  refers := List.isChain_singleton start
  distinct := List.nodup_nil
  defined := List.forall_mem_nil _

/-- A way leads on to what its last group refers to, if that group is new to it. -/
theorem concat (way : m.Way start chain group) (off : group ∉ chain)
    (refers : m.Refers group name) : m.Way start (chain ++ [group]) name where
  starts := by
    rw [List.head?_append, way.starts]
    rfl
  refers := List.isChain_append.mpr ⟨way.refers, List.isChain_singleton name, by simpa using refers⟩
  distinct := by
    rw [← List.concat_eq_append]
    exact List.Nodup.concat off way.distinct
  defined := by
    intro other mem
    rcases List.mem_append.mp mem with earlier | last
    · exact way.defined other earlier
    · obtain ⟨entries, defined, -⟩ := refers
      obtain rfl := List.mem_singleton.mp last
      simp [contains, defined]

/-- No way is longer than there are groups. -/
theorem length_le (way : m.Way start chain name) : chain.length ≤ m.names.length :=
  (List.subperm_of_subset way.distinct fun group mem =>
    mem_names_iff.mpr (way.defined group mem)).length_le

end Way

/-- Calls nested in one another: the first is made from outside, where no group is under way
and no file has been met, and each of the others is made by the one before it. -/
structure Nested (m : Manifest) (module start : String) (nest : List Call) : Prop where
  first : nest.head? = some ⟨start, ⟨[], []⟩⟩
  next : nest.IsChain fun c d => d ∈ m.calls module c

theorem Nested.concat_iff {outer : List Call} {c d : Call} :
    m.Nested module start (outer ++ [c] ++ [d]) ↔
      m.Nested module start (outer ++ [c]) ∧ d ∈ m.calls module c := by
  constructor
  · rintro ⟨first, next⟩
    obtain ⟨before, -, made⟩ := List.isChain_append.mp next
    refine ⟨⟨?_, before⟩, made c (by simp) d (by simp)⟩
    cases outer <;> exact first
  · rintro ⟨⟨first, next⟩, made⟩
    refine ⟨?_, List.isChain_append.mpr ⟨next, List.isChain_singleton d, by simpa using made⟩⟩
    cases outer <;> exact first

/-- **The chain of a nested call** holds the groups of the calls around it, and they lead
from the first to the name that it is for. -/
theorem Nested.way {outer : List Call} {call : Call}
    (nested : m.Nested module start (outer ++ [call])) :
    call.before.chain = outer.map Call.group ∧
      m.Way start call.before.chain call.group := by
  induction outer using List.reverseRecOn generalizing call with
  | nil =>
    obtain rfl := Option.some.inj nested.first
    exact ⟨rfl, .refl m start⟩
  | append_singleton outer caller ih =>
    obtain ⟨around, made⟩ := Nested.concat_iff.mp nested
    obtain ⟨chain, way⟩ := ih around
    obtain ⟨off, refers, handed⟩ := of_mem_calls made
    refine ⟨?_, ?_⟩
    · rw [handed, chain, List.map_append]
      rfl
    · rw [handed]
      exact way.concat off refers

/-! ## How deep the calls go -/

/-- What a call is answered by passes nested `depth` deep, below which `bottom` answers. -/
def answerWithin (m : Manifest) (module : String) (bottom : Call → Except BuildError Progress) :
    Nat → Call → Except BuildError Progress
  | 0, c => bottom c
  | depth + 1, c => (m.passGroup module (m.answerWithin module bottom depth) c).outcome

/-- **Passes nested deep enough are those of the expansion**: nobody is asked further down
than there are groups off the chain. -/
theorem passGroup_answerWithin (bottom : Call → Except BuildError Progress) (depth : Nat)
    {c : Call} (enough : m.offChain c.before.chain ≤ depth) :
    m.passGroup module (m.answerWithin module bottom depth) c =
      m.passGroup module (m.answer module) c := by
  induction depth generalizing c with
  | zero =>
    refine passGroup_congr fun d made => ?_
    have fewer := offChain_lt_of_mem_calls made
    omega
  | succ depth ih =>
    refine passGroup_congr fun d made => ?_
    have fewer := offChain_lt_of_mem_calls made
    rw [answerWithin, ih (by omega), outcome_passGroup]

theorem offChain_nil (m : Manifest) : m.offChain [] = m.names.length := by
  simp [offChain]

/-- **Every manifest is expanded to an end.**  Where calls are nested, the chain of each
holds the groups of the calls around it, in order: defined groups, all different, that lead
by references from the start to the name called for.  Every call leaves fewer groups off the
chain than the one that makes it, so there are at most as many in a nest as there are
groups, and one more.  And whoever would answer below that depth, the files of the group are
told, or why it does not expand. -/
theorem expansion_ends_on_every_manifest (m : Manifest) (module start : String) :
    (∀ outer call, m.Nested module start (outer ++ [call]) →
      call.before.chain = outer.map Call.group ∧ m.Way start call.before.chain call.group ∧
        (∀ inner ∈ m.calls module call,
          m.offChain inner.before.chain < m.offChain call.before.chain) ∧
        (outer ++ [call]).length ≤ m.names.length + 1) ∧
      ∀ bottom, (m.answerWithin module bottom (m.names.length + 1) ⟨start, ⟨[], []⟩⟩).map
        Progress.files = m.filesFor module start := by
  constructor
  · intro outer call nested
    obtain ⟨chain, way⟩ := nested.way
    refine ⟨chain, way, fun inner made => offChain_lt_of_mem_calls made, ?_⟩
    have short := way.length_le
    rw [chain, List.length_map] at short
    rw [List.length_append, List.length_singleton]
    omega
  · intro bottom
    have enough : m.offChain [] ≤ m.names.length := (offChain_nil m).le
    rw [answerWithin, passGroup_answerWithin bottom m.names.length enough, outcome_passGroup,
      filesFor_eq_answer]

/-- The depth is reached by a cycle through all groups: a level less, and somebody else is
asked. -/
example : (ofList [("a", ["@b"]), ("b", ["@a"])]).answerWithin "m" (fun _ => .ok ⟨[], ["?"]⟩) 2
    ⟨"a", ⟨[], []⟩⟩ = .ok ⟨[], ["?"]⟩ := by
  decide

namespace Sample

/-- Two groups that refer to each other, each of them to a third one first. -/
def roundabout : Manifest :=
  ofList [("all", ["@base", "@more"]), ("more", ["@base", "@all"]), ("base", ["a.js"])]

/-- The calls around the one that comes back to where the first began. -/
def lap : List Call := [⟨"all", ⟨[], []⟩⟩, ⟨"more", ⟨["all"], ["a.js"]⟩⟩]

/-- The call that comes back. -/
def comeback : Call := ⟨"all", ⟨["all", "more"], ["a.js", "a.js"]⟩⟩

theorem nested_lap : roundabout.Nested "m" "all" (lap ++ [comeback]) := by
  -- The calls are told by passes that nobody has to answer.
  have outermost : roundabout.calls "m" ⟨"all", ⟨[], []⟩⟩ =
      [⟨"base", ⟨["all"], []⟩⟩, ⟨"more", ⟨["all"], ["a.js"]⟩⟩] := by
    rw [calls, ← passGroup_answerWithin (fun c => .ok c.before) 3 (by decide)]
    decide
  have middle : roundabout.calls "m" ⟨"more", ⟨["all"], ["a.js"]⟩⟩ =
      [⟨"base", ⟨["all", "more"], ["a.js"]⟩⟩, comeback] := by
    rw [calls, ← passGroup_answerWithin (fun c => .ok c.before) 2 (by decide)]
    decide
  refine ⟨rfl, List.isChain_cons_cons.mpr ⟨?_, List.isChain_cons_cons.mpr
    ⟨?_, List.isChain_singleton comeback⟩⟩⟩
  · rw [outermost]
    exact List.mem_cons_of_mem _ List.mem_cons_self
  · rw [middle]
    exact List.mem_cons_of_mem _ List.mem_cons_self

theorem expansion_ends_roundabout :
    roundabout.Nested "m" "all" (lap ++ [comeback]) ∧
      comeback.before.chain = lap.map Call.group ∧
      roundabout.Way "all" comeback.before.chain comeback.group ∧
      (∀ inner ∈ roundabout.calls "m" comeback,
        roundabout.offChain inner.before.chain < roundabout.offChain comeback.before.chain) ∧
      (lap ++ [comeback]).length ≤ roundabout.names.length + 1 :=
  ⟨nested_lap, (roundabout.expansion_ends_on_every_manifest "m" "all").1 lap comeback nested_lap⟩

end Sample

end ReleaseBundle.Manifest
