import ReleaseBundle.Bundle
import ReleaseBundle.Proofs.Expansion

/-!
# How modules are looked up

A module that is found has the files of its list, or those that its group expands to
(`exists_of_ofModule`).  Modules are looked up in order, and the first that fails is told
(`ofModules_eq_error_iff`).  A module fails because it has no source file, or because
its group does not expand (`ofModule_eq_error_iff`); a module with a list of files has no
use for its group.

If every group of the manifest expands, a module fails on its group only by naming one
that is not defined (`filesFor_eq_error_iff_of_sound`).
-/

namespace ReleaseBundle

namespace Manifest

variable {m : Manifest}

theorem contains_eq_false_iff {group : String} :
    m.contains group = false ↔ m.entries? group = none := by
  simp [contains]

theorem mem_names_iff {group : String} : group ∈ m.names ↔ m.contains group = true := by
  constructor
  · intro mem
    obtain ⟨pair, among, rfl⟩ := List.mem_map.mp mem
    have found : m.entries? pair.1 = some pair.2 := OrderedMap.get?_eq_some_iff.mpr among
    simp [contains, found]
  · intro defined
    obtain ⟨entries, found⟩ := Option.isSome_iff_exists.mp defined
    exact mem_names_of_entries? found

theorem filesFor_of_expands (module : String) {group : String} {files : List String}
    (h : m.Expands group files) : m.filesFor module group = .ok files := by
  obtain ⟨files', found⟩ := exists_filesFor_of_reaches module fun name reaches => h.sound reaches
  rw [found, (expands_of_filesFor found).unique h]

theorem filesFor_of_unknown {module group : String} (unknown : m.contains group = false) :
    m.filesFor module group = .error (.unknownGroup module group) := by
  rw [filesFor_eq_groupFiles, groupFiles_of_unknown (contains_eq_false_iff.mp unknown)]

/-- A manifest each of whose groups expands. -/
def Sound (m : Manifest) : Prop := ∀ group ∈ m.names, ∃ files, m.Expands group files

/-- **In a sound manifest** a group fails to expand only if it is not there. -/
theorem filesFor_eq_error_iff_of_sound (sound : m.Sound) {module group : String} {e : BuildError} :
    m.filesFor module group = .error e ↔
      m.contains group = false ∧ e = .unknownGroup module group := by
  constructor
  · intro failed
    cases defined : m.contains group with
    | false =>
      rw [filesFor_of_unknown defined] at failed
      exact ⟨rfl, (Except.error.inj failed).symm⟩
    | true =>
      obtain ⟨files, expands⟩ := sound group (mem_names_iff.mpr defined)
      rw [filesFor_of_expands module expands] at failed
      cases failed
  · rintro ⟨unknown, rfl⟩
    exact filesFor_of_unknown unknown

/-- A group fails to expand for the sake of a group that is not defined, or of a cycle. -/
theorem filesFor_error_cases {module group : String} {e : BuildError}
    (failed : m.filesFor module group = .error e) :
    (∃ name, e = .unknownGroup module name) ∨ ∃ chain, e = .groupCycle chain := by
  obtain ⟨name, -, ⟨-, unknown⟩ | ⟨-, earlier, cycle⟩⟩ :=
    (filesFor_of_stuck failed).undefined_or_onCycle (by simp)
  · exact Or.inl ⟨name, unknown⟩
  · exact Or.inr ⟨_, cycle⟩

end Manifest

namespace Bundle

variable {m : Manifest} {d : ModuleDecl} {modules : List ModuleDecl} {e : BuildError}

/-- **What a module is found to be**: its list of files, or what a group expands to, between
its two wrapping files. -/
theorem exists_of_ofModule {b : Bundle} (found : ofModule m d = .ok b) :
    ∃ source files, (d.files? = some files ∨ ∃ group, m.Expands group files) ∧
      b = ⟨d.name, source, files.map Path.ofText, d.header, d.footer⟩ := by
  rw [ofModule] at found
  cases listed : d.files? with
  | some files =>
    rw [listed] at found
    exact ⟨.listed files, files, Or.inl rfl, (of_ofFiles found).2⟩
  | none =>
    rw [listed] at found
    cases asked : d.group? with
    | none =>
      rw [asked] at found
      cases found
    | some group =>
      rw [asked] at found
      dsimp only at found
      cases expanded : m.filesFor d.name group with
      | error cause =>
        rw [expanded] at found
        cases found
      | ok files =>
        rw [expanded] at found
        have expands := Manifest.expands_of_filesFor expanded
        exact ⟨.group group, files, Or.inr ⟨group, expands⟩, (of_ofFiles found).2⟩

/-- Every bundle is one of the modules, looked up. -/
theorem exists_of_mem_ofModules {bundles : List Bundle} (found : ofModules m modules = .ok bundles)
    {b : Bundle} (mem : b ∈ bundles) : ∃ d ∈ modules, ofModule m d = .ok b := by
  induction modules generalizing bundles with
  | nil =>
    cases found
    cases mem
  | cons d modules ih =>
    rw [ofModules] at found
    cases first : ofModule m d with
    | error cause =>
      rw [first] at found
      cases found
    | ok c =>
      cases rest : ofModules m modules with
      | error cause =>
        rw [first, rest] at found
        cases found
      | ok more =>
        rw [first, rest] at found
        cases found
        rcases List.mem_cons.mp mem with rfl | mem
        · exact ⟨d, List.mem_cons_self, first⟩
        · obtain ⟨d', mem_d', found'⟩ := ih rest mem
          exact ⟨d', List.mem_cons_of_mem d mem_d', found'⟩

theorem ofFiles_eq_error_iff {source : Source} {files : List String} :
    ofFiles d source files = .error e ↔ files = [] ∧ e = .noSources d.name := by
  rw [ofFiles]
  split
  · rename_i empty
    simp [empty, eq_comm]
  · rename_i some_file
    simp [some_file]

/-- **Why a module is not found**: it has no source file, or it asks for a group that does
not expand. -/
theorem ofModule_eq_error_iff :
    ofModule m d = .error e ↔
      e = .noSources d.name ∧
          (d.files? = some [] ∨ d.files? = none ∧
            ∀ group, d.group? = some group → m.filesFor d.name group = .ok []) ∨
        d.files? = none ∧ ∃ group, d.group? = some group ∧ m.filesFor d.name group = .error e := by
  rw [ofModule]
  cases listed : d.files? with
  | some files => simp [ofFiles_eq_error_iff, and_comm]
  | none =>
    cases asked : d.group? with
    | none => simp [eq_comm]
    | some group =>
      cases expanded : m.filesFor d.name group with
      | error cause => simp [bind, Except.bind, expanded]
      | ok files => simp [bind, Except.bind, expanded, ofFiles_eq_error_iff, and_comm]

/-- **The first module that fails is told.** -/
theorem ofModules_eq_error_iff :
    ofModules m modules = .error e ↔ ∃ before d after, modules = before ++ d :: after ∧
      (∀ c ∈ before, ∃ b, ofModule m c = .ok b) ∧ ofModule m d = .error e := by
  induction modules with
  | nil => simp [ofModules]
  | cons d modules ih =>
    rw [ofModules]
    constructor
    · intro failed
      cases first : ofModule m d with
      | error cause =>
        rw [first] at failed
        cases failed
        exact ⟨[], d, modules, rfl, List.forall_mem_nil _, first⟩
      | ok b =>
        rw [first] at failed
        cases rest : ofModules m modules with
        | ok bundles =>
          rw [rest] at failed
          cases failed
        | error cause =>
          rw [rest] at failed
          cases failed
          obtain ⟨before, c, after, rfl, found, fails⟩ := ih.mp rest
          exact ⟨d :: before, c, after, rfl, List.forall_mem_cons.mpr ⟨⟨b, first⟩, found⟩, fails⟩
    · rintro ⟨before, c, after, split, found, fails⟩
      cases before with
      | nil =>
        obtain ⟨rfl, rfl⟩ := List.cons.inj split
        rw [fails]
        rfl
      | cons d' before =>
        obtain ⟨rfl, rfl⟩ := List.cons.inj split
        obtain ⟨⟨b, first⟩, found⟩ := List.forall_mem_cons.mp found
        rw [first, ih.mpr ⟨before, c, after, rfl, found, fails⟩]
        rfl

/-- A module is not found for the sake of its sources or its group. -/
theorem ofModules_error_cases (failed : ofModules m modules = .error e) :
    (∃ module, e = .noSources module) ∨ (∃ module group, e = .unknownGroup module group) ∨
      ∃ chain, e = .groupCycle chain := by
  obtain ⟨before, d, after, -, -, fails⟩ := ofModules_eq_error_iff.mp failed
  obtain ⟨rfl, -⟩ | ⟨-, group, -, stuck⟩ := ofModule_eq_error_iff.mp fails
  · exact Or.inl ⟨d.name, rfl⟩
  · obtain ⟨name, rfl⟩ | cycle := Manifest.filesFor_error_cases stuck
    · exact Or.inr (Or.inl ⟨d.name, name, rfl⟩)
    · exact Or.inr (Or.inr cycle)

end Bundle

end ReleaseBundle
