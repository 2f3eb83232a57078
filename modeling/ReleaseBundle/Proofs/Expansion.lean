import Mathlib.Logic.Relation
import ReleaseBundle.Manifest

/-!
# What a group expands to

A manifest is a graph: a group **refers** to the names of its entries that start
with "@" (`Manifest.Refers`), and what it **expands** to is told without any
order of work by the least relation that replaces each such entry by an
expansion of the group it names (`Manifest.Expands`).  Expanding by a chain of
groups under way finds exactly these expansions.

The argument goes through one account of each outcome (`accounts_groupFiles`).
A success is an expansion of the group; a failure is **stuck** (`Manifest.Stuck`)
at the first reference from the left that leads to an unknown name or back onto
the chain.  Since every group on the chain refers, by way of the others, to the
present one, a name met again lies on a cycle of references; and since an
expansion is a finite tree, no name below it lies on one.
-/

namespace ReleaseBundle.Manifest

variable {m : Manifest}

/-! ## References and expansions -/

/-- An entry is a reference exactly if it is "@" and a name. -/
theorem reference?_eq_some_iff {entry name : String} :
    reference? entry = some name ↔ entry = "@" ++ name := by
  constructor
  · intro h
    simp only [reference?] at h
    split at h
    · rename_i rest spelled
      cases h
      apply String.toList_inj.mp
      simp [spelled]
    · cases h
  · rintro rfl
    simp [reference?]

theorem reference?_eq_none_iff {entry : String} :
    reference? entry = none ↔ ∀ name, entry ≠ "@" ++ name := by
  rw [Option.eq_none_iff_forall_ne_some]
  exact forall_congr' fun name => not_congr reference?_eq_some_iff

/-- A defined group refers to every name that stands behind "@" among its
entries. -/
def Refers (m : Manifest) (group name : String) : Prop :=
  ∃ entries, m.entries? group = some entries ∧ "@" ++ name ∈ entries

/-- A name is reached from a group by following references, none or more. -/
def Reaches (m : Manifest) : String → String → Prop := Relation.ReflTransGen m.Refers

/-- A name from which references lead back to it. -/
def OnCycle (m : Manifest) (name : String) : Prop := Relation.TransGen m.Refers name name

/-- The files that entries stand for, in order: an entry without "@" for itself,
and "@" with a name for the files of the entries of that group. -/
inductive Spells (m : Manifest) : List String → List String → Prop where
  | nil : Spells m [] []
  | file {entry : String} {rest files : List String} (plain : ∀ name, entry ≠ "@" ++ name)
      (after : Spells m rest files) : Spells m (entry :: rest) (entry :: files)
  | reference {name : String} {entries rest inner files : List String}
      (defined : m.entries? name = some entries) (inside : Spells m entries inner)
      (after : Spells m rest files) : Spells m (("@" ++ name) :: rest) (inner ++ files)

/-- The files that a defined group stands for. -/
def Expands (m : Manifest) (group : String) (files : List String) : Prop :=
  ∃ entries, m.entries? group = some entries ∧ m.Spells entries files

theorem Spells.unique {entries files files' : List String} (h : m.Spells entries files)
    (h' : m.Spells entries files') : files = files' := by
  induction h generalizing files' with
  | nil =>
    cases h'
    rfl
  | @file entry rest files plain _ ih =>
    generalize spelled : entry :: rest = entries at h'
    cases h' with
    | nil => cases spelled
    | file _ after' =>
      obtain ⟨rfl, rfl⟩ := List.cons.inj spelled
      rw [ih after']
    | reference =>
      obtain ⟨rfl, rfl⟩ := List.cons.inj spelled
      exact absurd rfl (plain _)
  | @reference name entries rest inner files defined _ _ ihInside ihAfter =>
    generalize spelled : ("@" ++ name) :: rest = listed at h'
    cases h' with
    | nil => cases spelled
    | file plain' =>
      obtain ⟨rfl, rfl⟩ := List.cons.inj spelled
      exact absurd rfl (plain' _)
    | reference defined' inside' after' =>
      obtain ⟨same, rfl⟩ := List.cons.inj spelled
      obtain rfl := (String.append_right_inj "@").mp same
      obtain rfl := Option.some.inj (defined.symm.trans defined')
      rw [ihInside inside', ihAfter after']

/-- **A group has one expansion at most.** -/
theorem Expands.unique {group : String} {files files' : List String} (h : m.Expands group files)
    (h' : m.Expands group files') : files = files' := by
  obtain ⟨entries, defined, spells⟩ := h
  obtain ⟨entries', defined', spells'⟩ := h'
  obtain rfl := Option.some.inj (defined.symm.trans defined')
  exact spells.unique spells'

/-- Every name that the entries refer to expands as well, and no chain of
references goes on forever below it. -/
theorem Spells.acc {entries files : List String} (h : m.Spells entries files) {name : String}
    (hn : "@" ++ name ∈ entries) :
    (∃ inner, m.Expands name inner) ∧ Acc (fun b a => m.Refers a b) name := by
  induction h generalizing name with
  | nil => cases hn
  | file plain _ ih =>
    rcases List.mem_cons.mp hn with here | later
    · exact absurd here.symm (plain name)
    · exact ih later
  | reference defined inside _ ihInside ihAfter =>
    rcases List.mem_cons.mp hn with here | later
    · obtain rfl := (String.append_right_inj "@").mp here
      refine ⟨⟨_, _, defined, inside⟩, Acc.intro _ fun below refers => ?_⟩
      obtain ⟨entries', defined', mem⟩ := refers
      obtain rfl := Option.some.inj (defined.symm.trans defined')
      exact (ihInside mem).2
    · exact ihAfter later

theorem Expands.acc {group : String} {files : List String} (h : m.Expands group files) :
    Acc (fun b a => m.Refers a b) group := by
  obtain ⟨entries, defined, spells⟩ := h
  refine Acc.intro _ fun below refers => ?_
  obtain ⟨entries', defined', mem⟩ := refers
  obtain rfl := Option.some.inj (defined.symm.trans defined')
  exact (spells.acc mem).2

/-- What a group with an expansion reaches has an expansion. -/
theorem Expands.of_reaches {group name : String} {files : List String}
    (h : m.Expands group files) (reaches : m.Reaches group name) :
    ∃ inner, m.Expands name inner := by
  induction reaches with
  | refl => exact ⟨files, h⟩
  | tail _ refers ih =>
    obtain ⟨inner, entries, defined, spells⟩ := ih
    obtain ⟨entries', defined', mem⟩ := refers
    obtain rfl := Option.some.inj (defined.symm.trans defined')
    exact (spells.acc mem).1

theorem Expands.contains {group : String} {files : List String} (h : m.Expands group files) :
    m.contains group = true := by
  obtain ⟨entries, defined, -⟩ := h
  simp [Manifest.contains, defined]

/-- A group with an expansion lies on no cycle. -/
theorem Expands.not_onCycle {group : String} {files : List String} (h : m.Expands group files) :
    ¬ m.OnCycle group := by
  intro cycle
  have back : Relation.TransGen (fun b a => m.Refers a b) group group :=
    Relation.transGen_swap.mpr cycle
  induction h.acc.transGen with
  | intro name _ ih => exact ih name back h cycle back

/-! ## What expanding finds

`expandGroup` returns the chain with a proof that it is the one it was given, so
all it tells is the files; these are read off it once, and each step of it is one
equation. -/

/-- The files met when a group has been expanded, those met before included. -/
def groupFiles (m : Manifest) (module group : String) (before : Progress) :
    Except BuildError (List String) :=
  (fun after => after.1.files) <$> m.expandGroup module group before

/-- The files met when entries have been followed. -/
def entriesFiles (m : Manifest) (module : String) (entries : List String) (before : Progress) :
    Except BuildError (List String) :=
  (fun after => after.1.files) <$> m.expandEntries module entries before

theorem filesFor_eq_groupFiles (module group : String) :
    m.filesFor module group = m.groupFiles module group ⟨[], []⟩ := by
  simp only [filesFor, groupFiles]
  cases m.expandGroup module group ⟨[], []⟩ <;> rfl

theorem groupFiles_of_unknown {module group : String} {before : Progress}
    (unknown : m.entries? group = none) :
    m.groupFiles module group before = .error (.unknownGroup module group) := by
  rw [groupFiles, expandGroup]
  split
  · rfl
  · simp_all

theorem groupFiles_of_onChain {module group : String} {before : Progress} {entries : List String}
    (defined : m.entries? group = some entries) (on : group ∈ before.chain) :
    m.groupFiles module group before = .error (.groupCycle (before.chain ++ [group])) := by
  rw [groupFiles, expandGroup]
  split
  · simp_all
  · simp [on, Functor.map, Except.map]

theorem groupFiles_of_defined {module group : String} {before : Progress} {entries : List String}
    (defined : m.entries? group = some entries) (off : group ∉ before.chain) :
    m.groupFiles module group before =
      m.entriesFiles module entries ⟨before.chain ++ [group], before.files⟩ := by
  rw [groupFiles, expandGroup]
  split
  · simp_all
  · rename_i entries' defined'
    obtain rfl := Option.some.inj (defined.symm.trans defined')
    simp only [off, dif_neg, not_false_eq_true, entriesFiles]
    cases m.expandEntries module entries ⟨before.chain ++ [group], before.files⟩ <;> rfl

@[simp] theorem entriesFiles_nil (module : String) (before : Progress) :
    m.entriesFiles module [] before = .ok before.files := by
  rw [entriesFiles, expandEntries]
  rfl

theorem entriesFiles_file {module entry : String} {rest : List String} {before : Progress}
    (plain : reference? entry = none) :
    m.entriesFiles module (entry :: rest) before =
      m.entriesFiles module rest ⟨before.chain, before.files ++ [entry]⟩ := by
  rw [entriesFiles, expandEntries, plain]
  rfl

theorem entriesFiles_reference {module entry group : String} {rest : List String}
    {before : Progress} (refers : reference? entry = some group) :
    m.entriesFiles module (entry :: rest) before =
      (m.groupFiles module group before).bind fun files =>
        m.entriesFiles module rest ⟨before.chain, files⟩ := by
  rw [entriesFiles, expandEntries, refers, groupFiles]
  dsimp only
  rcases m.expandGroup module group before with _ | ⟨⟨chain, files⟩, kept⟩
  · rfl
  · change chain = before.chain at kept
    subst kept
    simp only [entriesFiles, Functor.map, Except.map, Except.bind, bind]
    cases m.expandEntries module rest ⟨before.chain, files⟩ <;> rfl

/-! ## Each outcome accounted for -/

/-- How expanding a group fails while the groups of a chain are under way: its
name is unknown, or it is on the chain, or it is defined and its entries, read up
to the first reference that does not expand, lead to such a name. -/
inductive Stuck (m : Manifest) (module : String) : List String → String → BuildError → Prop where
  | unknown {chain : List String} {group : String} (undefined : m.entries? group = none) :
      Stuck m module chain group (.unknownGroup module group)
  | cycle {chain entries : List String} {group : String}
      (defined : m.entries? group = some entries) (on : group ∈ chain) :
      Stuck m module chain group (.groupCycle (chain ++ [group]))
  | inside {chain before after : List String} {group name : String} {e : BuildError}
      (defined : m.entries? group = some (before ++ ("@" ++ name) :: after))
      (off : group ∉ chain)
      (expand : ∀ earlier, "@" ++ earlier ∈ before → ∃ files, m.Expands earlier files)
      (stuck : Stuck m module (chain ++ [group]) name e) : Stuck m module chain group e

/-- The two ways in which expanding a group may end. -/
def Accounts (m : Manifest) (module group : String) (before : Progress) :
    Except BuildError (List String) → Prop
  | .ok files => ∃ new, m.Expands group new ∧ files = before.files ++ new ∧
      ∀ name, m.Reaches group name → name ∉ before.chain
  | .error e => m.Stuck module before.chain group e

/-- The two ways in which following entries may end. -/
def AccountsAll (m : Manifest) (module : String) (entries : List String) (before : Progress) :
    Except BuildError (List String) → Prop
  | .ok files => ∃ new, m.Spells entries new ∧ files = before.files ++ new ∧
      ∀ name, "@" ++ name ∈ entries → ∀ below, m.Reaches name below → below ∉ before.chain
  | .error e => ∃ earlier name later, entries = earlier ++ ("@" ++ name) :: later ∧
      (∀ other, "@" ++ other ∈ earlier → ∃ files, m.Expands other files) ∧
      m.Stuck module before.chain name e

theorem accountsAll_file {module entry : String} {rest : List String} {before : Progress}
    (plain : ∀ name, entry ≠ "@" ++ name) {result : Except BuildError (List String)}
    (h : m.AccountsAll module rest ⟨before.chain, before.files ++ [entry]⟩ result) :
    m.AccountsAll module (entry :: rest) before result := by
  cases result with
  | ok files =>
    obtain ⟨new, spells, rfl, off⟩ := h
    refine ⟨entry :: new, .file plain spells, by simp, fun name mem => ?_⟩
    rcases List.mem_cons.mp mem with here | later
    · exact absurd here.symm (plain name)
    · exact off name later
  | error e =>
    obtain ⟨earlier, name, later, rfl, expand, stuck⟩ := h
    refine ⟨entry :: earlier, name, later, rfl, fun other mem => ?_, stuck⟩
    rcases List.mem_cons.mp mem with here | inside
    · exact absurd here.symm (plain other)
    · exact expand other inside

theorem accountsAll_reference {module name : String} {rest files : List String}
    {before : Progress} (first : m.Accounts module name before (.ok files))
    {result : Except BuildError (List String)}
    (h : m.AccountsAll module rest ⟨before.chain, files⟩ result) :
    m.AccountsAll module (("@" ++ name) :: rest) before result := by
  obtain ⟨inner, ⟨entries, defined, inside⟩, rfl, off⟩ := first
  cases result with
  | ok files =>
    obtain ⟨new, spells, rfl, off'⟩ := h
    refine ⟨inner ++ new, .reference defined inside spells, by simp, fun other mem => ?_⟩
    rcases List.mem_cons.mp mem with here | later
    · obtain rfl := (String.append_right_inj "@").mp here
      exact off
    · exact off' other later
  | error e =>
    obtain ⟨earlier, other, later, rfl, expand, stuck⟩ := h
    refine ⟨("@" ++ name) :: earlier, other, later, rfl, fun third mem => ?_, stuck⟩
    rcases List.mem_cons.mp mem with here | among
    · obtain rfl := (String.append_right_inj "@").mp here
      exact ⟨inner, entries, defined, inside⟩
    · exact expand third among

/-- A group that is off the chain ends as its entries do, read with the group on
the chain. -/
theorem accounts_of_entries {module group : String} {before : Progress} {entries : List String}
    (defined : m.entries? group = some entries) (off : group ∉ before.chain)
    {result : Except BuildError (List String)}
    (h : m.AccountsAll module entries ⟨before.chain ++ [group], before.files⟩ result) :
    m.Accounts module group before result := by
  cases result with
  | ok files =>
    obtain ⟨new, spells, rfl, apart⟩ := h
    refine ⟨new, ⟨entries, defined, spells⟩, rfl, fun name reaches on => ?_⟩
    rcases Relation.ReflTransGen.cases_head reaches with rfl | ⟨next, ⟨_, defined', mem⟩, below⟩
    · exact off on
    · obtain rfl := Option.some.inj (defined.symm.trans defined')
      exact apart next mem name below (List.mem_append_left _ on)
  | error e =>
    obtain ⟨earlier, name, later, rfl, expand, stuck⟩ := h
    exact .inside defined off expand stuck

/-- **Every outcome of expanding a group is accounted for.** -/
theorem accounts_groupFiles (m : Manifest) (module group : String) (before : Progress) :
    m.Accounts module group before (m.groupFiles module group before) := by
  refine (expandGroup.mutual_induct m
    (fun group before => m.Accounts module group before (m.groupFiles module group before))
    (fun entries before =>
      m.AccountsAll module entries before (m.entriesFiles module entries before))
    ?undefined ?onChain ?defined ?noEntry ?file ?reference).1 group before
  case undefined =>
    intro group before undefined
    rw [groupFiles_of_unknown undefined]
    exact .unknown undefined
  case onChain =>
    intro group before entries defined on
    rw [groupFiles_of_onChain defined on]
    exact .cycle defined on
  case defined =>
    intro group before entries defined off ih
    rw [groupFiles_of_defined defined off]
    exact accounts_of_entries defined off ih
  case noEntry =>
    intro before
    rw [entriesFiles_nil]
    exact ⟨[], .nil, by simp, by simp⟩
  case file =>
    intro before entry rest plain ih
    rw [entriesFiles_file plain]
    exact accountsAll_file (reference?_eq_none_iff.mp plain) ih
  case reference =>
    intro before entry rest group refers ih ihRest
    rw [entriesFiles_reference refers]
    obtain rfl := reference?_eq_some_iff.mp refers
    cases met : m.groupFiles module group before with
    | ok files =>
      rw [met] at ih
      exact accountsAll_reference ih (ihRest ⟨before.chain, files⟩ rfl)
    | error e =>
      rw [met] at ih
      exact ⟨[], group, rest, rfl, by simp, ih⟩

/-! ## Unknown names and cycles -/

/-- Where expanding a group is stuck, it reaches an undefined name, or one on a cycle, or
one of the groups `around` it; every other group of the chain has to refer, through others
or not, to the group being expanded. -/
theorem Stuck.undefined_or_onCycle_or_around {module group : String} {chain around : List String}
    {e : BuildError} (h : m.Stuck module chain group e)
    (under : ∀ outer ∈ chain, outer ∈ around ∨ Relation.TransGen m.Refers outer group) :
    ∃ name, m.Reaches group name ∧
      ((m.contains name = false ∧ e = .unknownGroup module name) ∨
        (m.OnCycle name ∧ ∃ earlier, e = .groupCycle (earlier ++ [name])) ∨ name ∈ around) := by
  induction h with
  | unknown undefined =>
    exact ⟨_, .refl, Or.inl ⟨by simp [Manifest.contains, undefined], rfl⟩⟩
  | cycle _ on =>
    rcases under _ on with outside | cycle
    · exact ⟨_, .refl, Or.inr (Or.inr outside)⟩
    · exact ⟨_, .refl, Or.inr (Or.inl ⟨cycle, _, rfl⟩)⟩
  | @inside chain before after group name e defined _ _ _ ih =>
    have refers : m.Refers group name := ⟨_, defined, by simp⟩
    obtain ⟨found, reaches, reason⟩ := ih fun outer mem => by
      rcases List.mem_append.mp mem with earlier | last
      · exact (under outer earlier).imp_right fun leads => leads.tail refers
      · obtain rfl := List.mem_singleton.mp last
        exact Or.inr (.single refers)
    exact ⟨found, .head refers reaches, reason⟩

/-- If every group of the chain refers, through others or not, to the group being
expanded, then it is stuck at an undefined name or at one on a cycle. -/
theorem Stuck.undefined_or_onCycle {module group : String} {chain : List String} {e : BuildError}
    (h : m.Stuck module chain group e)
    (under : ∀ outer ∈ chain, Relation.TransGen m.Refers outer group) :
    ∃ name, m.Reaches group name ∧
      ((m.contains name = false ∧ e = .unknownGroup module name) ∨
        (m.OnCycle name ∧ ∃ earlier, e = .groupCycle (earlier ++ [name]))) := by
  have alone : ∀ outer ∈ chain,
      outer ∈ ([] : List String) ∨ Relation.TransGen m.Refers outer group :=
    fun outer mem => Or.inr (under outer mem)
  obtain ⟨name, reaches, unknown | cycle | outside⟩ := h.undefined_or_onCycle_or_around alone
  · exact ⟨name, reaches, Or.inl unknown⟩
  · exact ⟨name, reaches, Or.inr cycle⟩
  · cases outside

theorem filesFor_of_stuck {module group : String} {e : BuildError}
    (h : m.filesFor module group = .error e) : m.Stuck module [] group e := by
  have account := accounts_groupFiles m module group ⟨[], []⟩
  rwa [← filesFor_eq_groupFiles, h] at account

theorem expands_of_filesFor {module group : String} {files : List String}
    (h : m.filesFor module group = .ok files) : m.Expands group files := by
  have account := accounts_groupFiles m module group ⟨[], []⟩
  rw [← filesFor_eq_groupFiles, h] at account
  obtain ⟨new, expands, rfl, -⟩ := account
  simpa using expands

/-- A group expands if all it reaches is defined and off every cycle. -/
theorem exists_filesFor_of_reaches (module : String) {group : String}
    (sound : ∀ name, m.Reaches group name → m.contains name = true ∧ ¬ m.OnCycle name) :
    ∃ files, m.filesFor module group = .ok files := by
  cases found : m.filesFor module group with
  | ok files => exact ⟨files, rfl⟩
  | error e =>
    obtain ⟨name, reaches, ⟨undefined, -⟩ | ⟨cycle, -⟩⟩ :=
      (filesFor_of_stuck found).undefined_or_onCycle (by simp)
    · have defined := (sound name reaches).1
      rw [undefined] at defined
      cases defined
    · exact absurd cycle (sound name reaches).2

theorem Expands.sound {group : String} {files : List String} (h : m.Expands group files)
    {name : String} (reaches : m.Reaches group name) :
    m.contains name = true ∧ ¬ m.OnCycle name := by
  obtain ⟨inner, expands⟩ := h.of_reaches reaches
  exact ⟨expands.contains, expands.not_onCycle⟩

/-- A group with an expansion is stuck only where it reaches one of the groups around it. -/
theorem Stuck.exists_around_of_expands {module group : String} {chain around files : List String}
    {e : BuildError} (h : m.Stuck module chain group e)
    (under : ∀ outer ∈ chain, outer ∈ around ∨ Relation.TransGen m.Refers outer group)
    (expands : m.Expands group files) : ∃ name ∈ around, m.Reaches group name := by
  obtain ⟨name, reaches, ⟨undefined, -⟩ | ⟨cycle, -⟩ | outside⟩ :=
    h.undefined_or_onCycle_or_around under
  · have defined := (expands.sound reaches).1
    rw [undefined] at defined
    cases defined
  · exact absurd cycle (expands.sound reaches).2
  · exact ⟨name, outside, reaches⟩

/-- **Expanding a group finds its expansion.**  What it finds is the expansion of
the group; it finds one exactly if every name that is reached from the group is
defined and lies on no cycle of references; and when it tells of a cycle, the
chain it shows holds a name that is reached from the group and lies on one. -/
theorem filesFor_meets_expansion (m : Manifest) (module group : String) :
    (∀ files, m.filesFor module group = .ok files ↔ m.Expands group files) ∧
      ((∃ files, m.filesFor module group = .ok files) ↔
        ∀ name, m.Reaches group name → m.contains name = true ∧ ¬ m.OnCycle name) ∧
      ∀ chain, m.filesFor module group = .error (.groupCycle chain) →
        ∃ name ∈ chain, m.Reaches group name ∧ m.OnCycle name := by
  refine ⟨fun files => ⟨expands_of_filesFor, fun expands => ?_⟩,
    ⟨fun ⟨files, found⟩ name reaches => (expands_of_filesFor found).sound reaches,
      exists_filesFor_of_reaches module⟩,
    fun chain failed => ?_⟩
  · obtain ⟨files', found⟩ :=
      exists_filesFor_of_reaches module fun name reaches => expands.sound reaches
    rw [found, (expands_of_filesFor found).unique expands]
  · obtain ⟨name, reaches, ⟨-, unknown⟩ | ⟨cycle, earlier, shown⟩⟩ :=
      (filesFor_of_stuck failed).undefined_or_onCycle (by simp)
    · cases unknown
    · obtain rfl := BuildError.groupCycle.inj shown
      exact ⟨name, by simp, reaches, cycle⟩

/-- A group that is referred to twice is expanded twice. -/
example : (ofList [("a", ["a.js"]), ("b", ["@a", "x.js", "@a"])]).filesFor "m" "b" =
    .ok ["a.js", "x.js", "a.js"] := by
  cbv

end ReleaseBundle.Manifest
