import ReleaseBundle.Proofs.GrowingRuns
import ReleaseBundle.Proofs.SideBySide
import ReleaseBundle.Proofs.ValidationResult

/-!
# Which groups a validation checks

A validation expands every group of the manifest, used or not, so one that does not fail
knows that each of them expands (`Settings.sound_of_validate`), and no module is refused
for a cycle.  It does not ask which groups the modules name: a module that has no list of
files may name a group that is not defined, and is then refused when it is looked up.
That is the only way in which a group is unknown to a build after a validation
(`Settings.validated_groups_are_found`).
-/

namespace ReleaseBundle

namespace Settings

variable {s : Settings} {w : World} {findings : Findings}

theorem sound_of_validate (valid : (s.validate.run w).1 = .ok findings) : s.groups.Sound := by
  obtain ⟨referenced, known, -⟩ := exists_of_validate valid
  exact exists_referencedFiles_iff_sound.mp ⟨referenced, known⟩

/-- **Over a sound manifest**, a module is refused for its group only if it has no list of
files and names a group that is not defined. -/
theorem ofModule_error_of_sound {m : Manifest} (sound : m.Sound) {d : ModuleDecl} {e : BuildError}
    (failed : Bundle.ofModule m d = .error e) :
    e = .noSources d.name ∨ ∃ group, d.files? = none ∧ d.group? = some group ∧
      m.contains group = false ∧ e = .unknownGroup d.name group := by
  obtain ⟨rfl, -⟩ | ⟨unlisted, group, asked, stuck⟩ := Bundle.ofModule_eq_error_iff.mp failed
  · exact Or.inl rfl
  · obtain ⟨undefined, rfl⟩ := (Manifest.filesFor_eq_error_iff_of_sound sound).mp stuck
    exact Or.inr ⟨group, unlisted, asked, undefined, rfl⟩

/-- A module that names an undefined group, and has no list of files, is refused for it. -/
theorem ofModule_of_undefined {m : Manifest} {d : ModuleDecl} {group : String}
    (unlisted : d.files? = none) (asked : d.group? = some group)
    (undefined : m.contains group = false) :
    Bundle.ofModule m d = .error (.unknownGroup d.name group) :=
  Bundle.ofModule_eq_error_iff.mpr
    (Or.inr ⟨unlisted, group, asked, Manifest.filesFor_of_unknown undefined⟩)

/-- **After a validation the groups are found.**  If a validation does not fail, whatever
problems it finds, every group of the manifest expands.  No module is refused for a cycle,
and a group is unknown only where the first module that cannot be found names, itself, a
group that is not defined. -/
theorem validated_groups_are_found (s : Settings) (w : World) (findings : Findings)
    (valid : (s.validate.run w).1 = .ok findings) :
    (∀ group ∈ s.groups.names, ∃ files, s.groups.Expands group files) ∧
      (∀ chain, Bundle.ofModules s.groups s.modules ≠ .error (.groupCycle chain)) ∧
      ∀ module group, Bundle.ofModules s.groups s.modules = .error (.unknownGroup module group) ↔
        ∃ before d after, s.modules = before ++ d :: after ∧
          (∀ c ∈ before, ∃ b, Bundle.ofModule s.groups c = .ok b) ∧ d.name = module ∧
          d.files? = none ∧ d.group? = some group ∧ s.groups.contains group = false := by
  have sound := sound_of_validate valid
  refine ⟨sound, ?_, ?_⟩
  · intro chain cyclic
    obtain ⟨before, d, after, -, -, fails⟩ := Bundle.ofModules_eq_error_iff.mp cyclic
    obtain other | ⟨group, -, -, -, other⟩ := ofModule_error_of_sound sound fails
    all_goals cases other
  · intro module group
    constructor
    · intro unknown
      obtain ⟨before, d, after, split, found, fails⟩ := Bundle.ofModules_eq_error_iff.mp unknown
      obtain other | ⟨group', unlisted, asked, undefined, same⟩ :=
        ofModule_error_of_sound sound fails
      · cases other
      · obtain ⟨rfl, rfl⟩ := BuildError.unknownGroup.inj same
        exact ⟨before, d, after, split, found, rfl, unlisted, asked, undefined⟩
    · rintro ⟨before, d, after, split, found, rfl, unlisted, asked, undefined⟩
      exact Bundle.ofModules_eq_error_iff.mpr
        ⟨before, d, after, split, found, ofModule_of_undefined unlisted asked undefined⟩

end Settings

namespace Sample

open FileSystem

/-- A module whose group nobody defines. -/
def astray : Settings where
  __ := Settings.default
  modules := [⟨"m", some "nope", none, ⟨"f"⟩, ⟨"f"⟩⟩]

theorem isFile_source : tree.isFile (astray.root.join ⟨"f"⟩) = true :=
  isFile_iff.mpr ⟨_, _, resolve_source⟩

/-- Nothing is found wrong with it: the file that wraps it is there. -/
theorem validate_astray : (astray.validate.run ⟨tree, []⟩).1 = .ok ⟨1, []⟩ := by
  have known : astray.referencedFiles = .ok [] := rfl
  have named : [] ++ astray.wrapperFiles = [⟨"f"⟩] := by decide
  have missing : astray.missingIn tree [⟨"f"⟩] = [] :=
    Settings.missingIn_eq_nil_iff.mpr (by simpa using isFile_source)
  have found : astray.findingsIn tree [] = ⟨1, []⟩ := by
    rw [Settings.findingsIn, named, missing]
    rfl
  rw [Attempt.run_fst, Settings.effect_validate, known]
  exact congrArg Except.ok found

theorem ofModules_astray :
    Bundle.ofModules astray.groups astray.modules = .error (.unknownGroup "m" "nope") :=
  Bundle.ofModules_eq_error_iff.mpr
    ⟨[], _, [], rfl, nofun, Settings.ofModule_of_undefined rfl rfl rfl⟩

theorem validated_groups_are_found_astray :
    (astray.validate.run ⟨tree, []⟩).1 = .ok ⟨1, []⟩ ∧
      (∀ group ∈ astray.groups.names, ∃ files, astray.groups.Expands group files) ∧
      (∀ chain, Bundle.ofModules astray.groups astray.modules ≠ .error (.groupCycle chain)) ∧
      ∀ module group,
        Bundle.ofModules astray.groups astray.modules = .error (.unknownGroup module group) ↔
          ∃ before d after, astray.modules = before ++ d :: after ∧
            (∀ c ∈ before, ∃ b, Bundle.ofModule astray.groups c = .ok b) ∧ d.name = module ∧
            d.files? = none ∧ d.group? = some group ∧ astray.groups.contains group = false :=
  ⟨validate_astray, astray.validated_groups_are_found ⟨tree, []⟩ ⟨1, []⟩ validate_astray⟩

/-- **A validation overlooks a group that only a module names**: it finds nothing wrong,
and the module is refused when it is looked up. -/
theorem validation_overlooks_named_group :
    ¬ ∀ (s : Settings) (w : World) (findings : Findings),
      (s.validate.run w).1 = .ok findings →
        (∀ module group,
          Bundle.ofModules s.groups s.modules ≠ .error (.unknownGroup module group)) ∧
        ∀ chain, Bundle.ofModules s.groups s.modules ≠ .error (.groupCycle chain) := by
  intro catches
  have caught := catches astray ⟨tree, []⟩ ⟨1, []⟩ validate_astray
  exact caught.1 "m" "nope" ofModules_astray

end Sample

end ReleaseBundle
