import ReleaseBundle.Proofs.ExpansionFailure

/-!
# Manifests that expand alike

What a group expands to, or why it does not, is told by its expansions and by where it is
stuck; so a group ends alike in two manifests if both can be carried over from one to the
other (`Manifest.filesFor_eq_of_carried`).  Two changes of a manifest are seen through in
this way.

A reference may be **inlined**: where a group that expands is referred to, its files may
stand in the reference's place.  No caller is on the way that such a group expands, and what
comes after it is reached as before, so every group ends as it did, also in failure
(`Manifest.filesFor_of_inlined`).

Looking up is **local**: a group looks only at the groups it reaches.  Whatever a manifest
holds besides, and in whatever order, modules are looked up alike
(`Bundle.ofModules_looks_at_reached`).
-/

namespace ReleaseBundle

namespace Manifest

variable {m m' : Manifest} {module host group name : String} {chain : List String} {e : BuildError}
  {before after entries entries' files files' : List String}

/-- **A group ends alike in two manifests** if its expansions and failures can be carried over
from one to the other. -/
theorem filesFor_eq_of_carried (expand : ∀ files, m'.Expands group files → m.Expands group files)
    (stuck : ∀ e, m'.Stuck module [] group e → m.Stuck module [] group e) :
    m'.filesFor module group = m.filesFor module group := by
  cases found : m'.filesFor module group with
  | ok files => exact (filesFor_of_expands module (expand files (expands_of_filesFor found))).symm
  | error e => exact (filesFor_eq_error_iff.mpr (stuck e (filesFor_of_stuck found))).symm

/-! ## What lists of entries spell -/

theorem Spells.append (h : m.Spells entries files) (h' : m.Spells entries' files') :
    m.Spells (entries ++ entries') (files ++ files') := by
  induction h with
  | nil => exact h'
  | file plain _ ih => exact .file plain ih
  | reference defined inside _ _ ih =>
    rw [List.append_assoc]
    exact .reference defined inside ih

/-- What is spelled by entries one after the other is spelled part by part. -/
theorem Spells.exists_of_append (h : m.Spells (entries ++ entries') files) :
    ∃ first rest, m.Spells entries first ∧ m.Spells entries' rest ∧ files = first ++ rest := by
  induction entries generalizing files with
  | nil => exact ⟨[], files, .nil, h, rfl⟩
  | cons entry entries ih =>
    rw [List.cons_append] at h
    generalize all : entry :: (entries ++ entries') = listed at h
    cases h with
    | nil => cases all
    | file plain behind =>
      obtain ⟨rfl, rfl⟩ := List.cons.inj all
      obtain ⟨first, rest, spells, spells', rfl⟩ := ih behind
      exact ⟨entry :: first, rest, .file plain spells, spells', rfl⟩
    | @reference _ _ _ inner _ defined inside behind =>
      obtain ⟨rfl, rfl⟩ := List.cons.inj all
      obtain ⟨first, rest, spells, spells', rfl⟩ := ih behind
      exact ⟨inner ++ first, rest, .reference defined inside spells, spells',
        (List.append_assoc _ _ _).symm⟩

/-- Files are not references. -/
theorem Spells.plain (h : m.Spells entries files) : ∀ name, "@" ++ name ∉ files := by
  induction h with
  | nil => simp
  | file plain _ ih =>
    intro name mem
    rcases List.mem_cons.mp mem with here | later
    · exact plain name here.symm
    · exact ih name later
  | reference _ _ _ ihInside ihAfter =>
    intro name mem
    rcases List.mem_append.mp mem with inside | later
    · exact ihInside name inside
    · exact ihAfter name later

/-- A reference alone spells what its group expands to. -/
theorem Spells.expands (h : m.Spells ["@" ++ name] files) : m.Expands name files := by
  generalize alone : ["@" ++ name] = listed at h
  cases h with
  | nil => cases alone
  | file plain _ => exact absurd (List.cons.inj alone).1.symm (plain name)
  | reference defined inside behind =>
    obtain ⟨same, rfl⟩ := List.cons.inj alone
    obtain rfl := (String.append_right_inj "@").mp same
    cases behind
    exact ⟨_, defined, by simpa using inside⟩

/-- Files stand for themselves, and for nothing else. -/
theorem Spells.eq_of_plain (plain : ∀ name, "@" ++ name ∉ entries) (h : m.Spells entries files) :
    files = entries := by
  induction h with
  | nil => rfl
  | file _ _ ih => rw [ih fun name mem => plain name (List.mem_cons_of_mem _ mem)]
  | @reference name => exact absurd List.mem_cons_self (plain name)

/-! ## Inlining a reference -/

/-- Where files stand in the place of a reference, every other reference comes behind the same
ones as before, and perhaps behind the reference that is gone. -/
theorem exists_split_of_inlined (group : String) {earlier later : List String}
    (plain : ∀ name, "@" ++ name ∉ files)
    (same : before ++ (files ++ after) = earlier ++ ("@" ++ name) :: later) :
    ∃ earlier' later', before ++ ("@" ++ group) :: after = earlier' ++ ("@" ++ name) :: later' ∧
      ∀ other, "@" ++ other ∈ earlier' → "@" ++ other ∈ earlier ∨ other = group := by
  induction before generalizing earlier with
  | cons entry before ih =>
    cases earlier with
    | nil =>
      obtain ⟨rfl, -⟩ := List.cons.inj same
      exact ⟨[], before ++ ("@" ++ group) :: after, rfl, by simp⟩
    | cons first earlier =>
      obtain ⟨rfl, rest⟩ := List.cons.inj same
      obtain ⟨earlier', later', split, among⟩ := ih rest
      refine ⟨entry :: earlier', later', by rw [List.cons_append, split]; rfl, fun other mem => ?_⟩
      rcases List.mem_cons.mp mem with here | mem
      · exact Or.inl (here ▸ List.mem_cons_self)
      · exact (among other mem).imp_left (List.mem_cons_of_mem entry)
  | nil =>
    rw [List.nil_append] at same ⊢
    -- The name is none of the files, so it comes behind them.
    obtain ⟨more, behind⟩ : ∃ more, after = more ++ ("@" ++ name) :: later ∧ more ⊆ earlier := by
      induction files generalizing earlier with
      | nil => exact ⟨earlier, same, List.Subset.refl earlier⟩
      | cons file files ih =>
        cases earlier with
        | nil => exact absurd ((List.cons.inj same).1 ▸ List.mem_cons_self) (plain name)
        | cons first earlier =>
          obtain ⟨more, split, sub⟩ :=
            ih (fun name mem => plain name (List.mem_cons_of_mem file mem)) (List.cons.inj same).2
          exact ⟨more, split, List.subset_cons_of_subset first sub⟩
    refine ⟨("@" ++ group) :: more, later, by rw [behind.1]; rfl, fun other mem => ?_⟩
    rcases List.mem_cons.mp mem with here | mem
    · exact Or.inr ((String.append_right_inj "@").mp here)
    · exact Or.inl (behind.2 mem)

section

variable (defined : m.entries? host = some (before ++ ("@" ++ group) :: after))
  (expands : m.Expands group files)
include defined expands

/-- Entries spell what they spelled before a reference in some group was inlined. -/
theorem Spells.of_inlined (h : (m.define host (before ++ files ++ after)).Spells entries files') :
    m.Spells entries files' := by
  induction h with
  | nil => exact .nil
  | file plain _ ih => exact .file plain ih
  | @reference name entries rest inner files' defined' _ _ ihInside ihAfter =>
    rw [entries?_define] at defined'
    split at defined'
    · rename_i here
      subst here
      obtain rfl := Option.some.inj defined'
      obtain ⟨start, last, spells, spellsAfter, rfl⟩ := ihInside.exists_of_append
      obtain ⟨first, middle, spellsBefore, spellsFiles, rfl⟩ := spells.exists_of_append
      obtain ⟨listed, known, inside⟩ := expands
      -- The files stand for themselves, as the reference does for them.
      obtain rfl := spellsFiles.eq_of_plain inside.plain
      have whole := spellsBefore.append (.reference known inside spellsAfter)
      rw [← List.append_assoc] at whole
      exact .reference defined whole ihAfter
    · exact .reference defined' ihInside ihAfter

theorem Expands.of_inlined (h : (m.define host (before ++ files ++ after)).Expands name files') :
    m.Expands name files' := by
  obtain ⟨entries, known, inside⟩ := h
  have whole : (m.define host (before ++ files ++ after)).Spells ["@" ++ name] (files' ++ []) :=
    .reference known inside .nil
  have spells := Spells.of_inlined defined expands whole
  rw [List.append_nil] at spells
  exact spells.expands

/-- Expanding is stuck where it was before a reference was inlined. -/
theorem Stuck.of_inlined
    (h : (m.define host (before ++ files ++ after)).Stuck module chain name e) :
    m.Stuck module chain name e := by
  induction h with
  | unknown undefined =>
    rw [entries?_define] at undefined
    split at undefined
    · cases undefined
    · exact .unknown undefined
  | cycle defined' on =>
    rw [entries?_define] at defined'
    split at defined'
    · rename_i here
      exact .cycle (here ▸ defined) on
    · exact .cycle defined' on
  | @inside chain earlier later name next e defined' off expand _ ih =>
    have expand' : ∀ other, "@" ++ other ∈ earlier → ∃ files, m.Expands other files := by
      intro other mem
      obtain ⟨part, found⟩ := expand other mem
      exact ⟨part, Expands.of_inlined defined expands found⟩
    rw [entries?_define] at defined'
    split at defined'
    · rename_i here
      subst here
      have same := Option.some.inj defined'
      rw [List.append_assoc] at same
      obtain ⟨listed, known, inside⟩ := expands
      obtain ⟨earlier', later', split, among⟩ := exists_split_of_inlined group inside.plain same
      rw [split] at defined
      refine .inside defined off (fun other mem => ?_) ih
      rcases among other mem with mem | rfl
      · exact expand' other mem
      · exact ⟨files, listed, known, inside⟩
    · exact .inside defined' off expand' ih

end

/-- **A reference may be inlined.**  If a group that expands is referred to among the entries
of another, its files may stand in the reference's place: every name, defined or not, has the
files it had, or fails as it did and for the same chain. -/
theorem filesFor_of_inlined (m : Manifest) (host group label : String)
    (before after files : List String)
    (defined : m.entries? host = some (before ++ ("@" ++ group) :: after))
    (found : m.filesFor label group = .ok files) :
    ∀ module name, (m.define host (before ++ files ++ after)).filesFor module name =
      m.filesFor module name := by
  intro module name
  have expands := expands_of_filesFor found
  exact filesFor_eq_of_carried (fun _ => Expands.of_inlined defined expands)
    (fun _ => Stuck.of_inlined defined expands)

namespace Sample

/-- A manifest with three groups, two of which refer to a third; the last has a fault. -/
def shared : Manifest :=
  ofList [("base", ["a.js", "b.js"]), ("all", ["@base", "c.js", "@base"]),
    ("bad", ["@all", "@bad"])]

theorem filesFor_of_inlined_shared :
    shared.entries? "all" = some (["@base", "c.js"] ++ ("@" ++ "base") :: []) ∧
      shared.filesFor "m" "base" = .ok ["a.js", "b.js"] ∧
      ∀ module name,
        (shared.define "all" (["@base", "c.js"] ++ ["a.js", "b.js"] ++ [])).filesFor module name =
          shared.filesFor module name :=
  ⟨by decide, by cbv, shared.filesFor_of_inlined "all" "base" "m" ["@base", "c.js"] []
    ["a.js", "b.js"] (by decide) (by cbv)⟩

end Sample

/-! ## Looking only at what is reached -/

/-- Two manifests have the same entries for every name that is reached from one in the first. -/
def AgreesBelow (m m' : Manifest) (group : String) : Prop :=
  ∀ name, m.Reaches group name → m'.entries? name = m.entries? name

theorem AgreesBelow.of_refers (h : m.AgreesBelow m' group) (refers : m.Refers group name) :
    m.AgreesBelow m' name :=
  fun below reaches => h below (.head refers reaches)

/-- What entries spell is the same in a manifest that agrees below the names they refer to. -/
theorem Spells.of_agrees (h : m.Spells entries files)
    (agrees : ∀ name, "@" ++ name ∈ entries → m.AgreesBelow m' name) : m'.Spells entries files := by
  induction h with
  | nil => exact .nil
  | file plain _ ih =>
    exact .file plain (ih fun name mem => agrees name (List.mem_cons_of_mem _ mem))
  | @reference name entries _ _ _ defined _ _ ihInside ihAfter =>
    have here : m.AgreesBelow m' name := agrees name List.mem_cons_self
    refine .reference ((here name .refl).trans defined) (ihInside fun next mem => ?_)
      (ihAfter fun next mem => agrees next (List.mem_cons_of_mem _ mem))
    exact here.of_refers ⟨entries, defined, mem⟩

theorem Expands.of_agrees (h : m.Expands group files) (agrees : m.AgreesBelow m' group) :
    m'.Expands group files := by
  obtain ⟨entries, defined, spells⟩ := h
  exact ⟨entries, (agrees group .refl).trans defined,
    spells.of_agrees fun name mem => agrees.of_refers ⟨entries, defined, mem⟩⟩

theorem Stuck.of_agrees (h : m.Stuck module chain group e) (agrees : m.AgreesBelow m' group) :
    m'.Stuck module chain group e := by
  induction h with
  | unknown undefined => exact .unknown ((agrees _ .refl).trans undefined)
  | cycle defined on => exact .cycle ((agrees _ .refl).trans defined) on
  | inside defined off expand _ ih =>
    refine .inside ((agrees _ .refl).trans defined) off (fun earlier mem => ?_)
      (ih (agrees.of_refers ⟨_, defined, by simp⟩))
    obtain ⟨files, expands⟩ := expand earlier mem
    exact ⟨files, expands.of_agrees
      (agrees.of_refers ⟨_, defined, List.mem_append_left _ mem⟩)⟩

/-- **A group looks only at what it reaches.** -/
theorem filesFor_of_agrees (module : String) (agrees : m.AgreesBelow m' group) :
    m'.filesFor module group = m.filesFor module group :=
  (filesFor_eq_of_carried (fun _ h => h.of_agrees agrees) (fun _ h => h.of_agrees agrees)).symm

end Manifest

namespace Bundle

variable {m m' : Manifest} {d : ModuleDecl} {modules : List ModuleDecl}

/-- **A module looks only at what its group reaches**, and not even at that if it has a list of
files. -/
theorem ofModule_of_agrees
    (agrees : d.files? = none → ∀ group, d.group? = some group → m.AgreesBelow m' group) :
    ofModule m' d = ofModule m d ∧ ofModuleRecords m' d = ofModuleRecords m d := by
  cases listed : d.files? with
  | some files => simp [ofModule, ofModuleRecords, listed]
  | none =>
    cases asked : d.group? with
    | none => simp [ofModule, ofModuleRecords, listed, asked]
    | some group =>
      have same := Manifest.filesFor_of_agrees d.name (agrees listed group asked)
      simp [ofModule, ofModuleRecords, Manifest.filesForRecords, listed, asked, same]

/-- A module with a list of files has these files, as they are written, in every manifest and
whatever its group. -/
theorem ofModule_of_listed (m : Manifest) {files : List String} (listed : d.files? = some files) :
    ofModule m d = if files = [] then .error (.noSources d.name)
      else .ok ⟨d.name, .listed files, files.map Path.ofText, d.header, d.footer⟩ := by
  rw [ofModule, listed]
  rfl

theorem ofModules_of_agrees
    (agrees : ∀ d ∈ modules, d.files? = none → ∀ group, d.group? = some group →
      m.AgreesBelow m' group) :
    ofModules m' modules = ofModules m modules ∧
      ofModulesRecords m' modules = ofModulesRecords m modules := by
  induction modules with
  | nil => exact ⟨rfl, rfl⟩
  | cons d modules ih =>
    obtain ⟨first, later⟩ := List.forall_mem_cons.mp agrees
    obtain ⟨same, records⟩ := ofModule_of_agrees first
    obtain ⟨rest, others⟩ := ih later
    simp only [ofModules, ofModulesRecords, same, records, rest, others, and_self]

/-- **Looking modules up is local.**  If two manifests have the same entries for every name that
is reached from the group of a module without a list of files, modules are looked up alike:
the same bundles or the same first failure, and the same is said on the way.  A module with a
list of files depends neither on a manifest nor on its group, and its list is taken as it is
written; and every bundle has a source file. -/
theorem ofModules_looks_at_reached (m m' : Manifest) (modules : List ModuleDecl)
    (agree : ∀ d ∈ modules, d.files? = none → ∀ group, d.group? = some group →
      ∀ name, m.Reaches group name → m'.entries? name = m.entries? name) :
    ofModules m' modules = ofModules m modules ∧
      ofModulesRecords m' modules = ofModulesRecords m modules ∧
      (∀ (d : ModuleDecl) files, d.files? = some files → ∀ (any : Manifest) group?,
        ofModule any { d with group? } =
          if files = [] then .error (.noSources d.name)
          else .ok ⟨d.name, .listed files, files.map Path.ofText, d.header, d.footer⟩) ∧
      ∀ bundles, ofModules m modules = .ok bundles → ∀ b ∈ bundles, b.files ≠ [] := by
  obtain ⟨same, records⟩ := ofModules_of_agrees agree
  refine ⟨same, records, fun d files listed any group? => ?_, fun bundles found b mem => ?_⟩
  · exact ofModule_of_listed (d := { d with group? }) any listed
  · obtain ⟨d, -, found'⟩ := exists_of_mem_ofModules found mem
    exact files_ne_nil_of_ofModule found'

end Bundle

namespace Sample

/-- A module that asks for a group, and one that lists a file and names no group there is. -/
def lookedUp : List ModuleDecl :=
  [⟨"m", some "all", none, ⟨"f"⟩, ⟨"f"⟩⟩, ⟨"n", some "nope", some ["@x"], ⟨"f"⟩, ⟨"f"⟩⟩]

/-- The group that is asked for and what it refers to, in another order than in
`Manifest.Sample.shared`, and beside them another group with a fault. -/
def rearranged : Manifest :=
  Manifest.ofList [("worse", ["@nope"]), ("all", ["@base", "c.js", "@base"]),
    ("base", ["a.js", "b.js"])]

/-- From the group that is asked for only one other is reached. -/
theorem reaches_shared {name : String} (reaches : Manifest.Sample.shared.Reaches "all" name) :
    name = "all" ∨ name = "base" := by
  induction reaches with
  | refl => exact Or.inl rfl
  | tail _ refers ih =>
    obtain ⟨entries, defined, mem⟩ := refers
    rcases ih with rfl | rfl
    · obtain rfl : ["@base", "c.js", "@base"] = entries := Option.some.inj defined
      have named := List.mem_filterMap.mpr ⟨_, mem, Manifest.reference?_eq_some_iff.mpr rfl⟩
      exact Or.inr (by simpa [Manifest.reference?] using named)
    · obtain rfl : ["a.js", "b.js"] = entries := Option.some.inj defined
      have named := List.mem_filterMap.mpr ⟨_, mem, Manifest.reference?_eq_some_iff.mpr rfl⟩
      simp [Manifest.reference?] at named

theorem agree_rearranged : ∀ d ∈ lookedUp, d.files? = none → ∀ group, d.group? = some group →
    ∀ name, Manifest.Sample.shared.Reaches group name →
      rearranged.entries? name = Manifest.Sample.shared.entries? name := by
  intro d mem unlisted group asked name reaches
  rcases List.mem_cons.mp mem with rfl | mem
  · obtain rfl := Option.some.inj asked
    rcases reaches_shared reaches with rfl | rfl <;> decide
  · obtain rfl := List.mem_singleton.mp mem
    cases unlisted

/-- What both manifests make of the modules: each entry stands where it stood in its group, and a
file that is listed is one, whatever it is called like. -/
def lookedUpBundles : List Bundle :=
  [⟨"m", .group "all", [⟨"a.js"⟩, ⟨"b.js"⟩, ⟨"c.js"⟩, ⟨"a.js"⟩, ⟨"b.js"⟩], ⟨"f"⟩, ⟨"f"⟩⟩,
    ⟨"n", .listed ["@x"], [⟨"@x"⟩], ⟨"f"⟩, ⟨"f"⟩⟩]

theorem ofModules_looks_at_reached_rearranged :
    (∀ d ∈ lookedUp, d.files? = none → ∀ group, d.group? = some group →
        ∀ name, Manifest.Sample.shared.Reaches group name →
          rearranged.entries? name = Manifest.Sample.shared.entries? name) ∧
      Bundle.ofModules rearranged lookedUp = .ok lookedUpBundles ∧
      Bundle.ofModulesRecords rearranged lookedUp =
        Bundle.ofModulesRecords Manifest.Sample.shared lookedUp ∧
      (∀ any : Manifest, Bundle.ofModule any ⟨"n", some "nope", some ["@x"], ⟨"f"⟩, ⟨"f"⟩⟩ =
        .ok ⟨"n", .listed ["@x"], [⟨"@x"⟩], ⟨"f"⟩, ⟨"f"⟩⟩) ∧
      ∀ b ∈ lookedUpBundles, b.files ≠ [] := by
  have expanded : Manifest.Sample.shared.filesFor "m" "all" =
      .ok ["a.js", "b.js", "c.js", "a.js", "b.js"] := by cbv
  have resolved : Bundle.ofModules Manifest.Sample.shared lookedUp = .ok lookedUpBundles := by
    simp only [Bundle.ofModules, lookedUp, Bundle.ofModule, expanded]
    rfl
  obtain ⟨same, records, listed, some_file⟩ := Bundle.ofModules_looks_at_reached
    Manifest.Sample.shared rearranged lookedUp agree_rearranged
  exact ⟨agree_rearranged, same.trans resolved, records,
    fun any => listed ⟨"n", none, some ["@x"], ⟨"f"⟩, ⟨"f"⟩⟩ ["@x"] rfl any (some "nope"),
    some_file lookedUpBundles resolved⟩

end Sample

end ReleaseBundle
