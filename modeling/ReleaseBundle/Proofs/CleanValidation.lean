import ReleaseBundle.Proofs.SideBySide
import ReleaseBundle.Proofs.Spelling
import ReleaseBundle.Proofs.ValidationResult

/-!
# What a clean validation says about reading

A clean validation has found a file for every path that a bundle reads, in one spelling of
the path: validation looks for one spelling only, the first that the configuration has.
What the bundle reads is the spelling of its module.  So what it reads is that file, unless
the module's spelling ends as the path of a directory may, or is too long
(`Settings.clean_validation_covers_sources`).

No source is missing for any other reason: nothing is just not there, and nothing is a
directory.  If all spellings are those of files, reading fails only on what is not UTF-8.
-/

namespace ReleaseBundle

open FileSystem

variable {t u : FileSystem} {p : Path} {cause : IoError}

/-! ## Why reading fails -/

namespace FileSystem

/-- Of a file, reading says at most that it is no text. -/
theorem eq_notText_of_isFile (file : t.isFile p = true) (failed : t.readText p = .error cause) :
    cause = .notText := by
  obtain ⟨l, bytes, found⟩ := isFile_iff.mp file
  have read : t.readBytes p = .ok bytes :=
    readBytes_eq_ok_iff.mpr (node?_eq_some_iff.mpr ⟨l, found⟩)
  rw [readText, read] at failed
  cases text : String.fromUTF8? bytes with
  | some text =>
    simp only [bind, Except.bind, text] at failed
    cases failed
  | none =>
    simp only [bind, Except.bind, text] at failed
    exact (Except.error.inj failed).symm

theorem readText_of_resolve (lost : t.resolve .followed p = .error cause) :
    t.readText p = .error cause := by
  rw [readText, readBytes, lost]
  rfl

/-- **A path whose other spelling is a file** is that file, or cannot be read because it is
misspelled. -/
theorem isFile_or_misspelled {dir p q : Path} (same : p.SameAs q)
    (file : t.isFile (dir.join q) = true) :
    t.isFile (dir.join p) = true ∨
      ∃ cause, Misspelled (dir.join p) cause ∧ t.readText (dir.join p) = .error cause := by
  obtain ⟨l, bytes, found⟩ := isFile_iff.mp file
  obtain leads | ⟨cause, misspelled, lost⟩ := resolve_of_sameAs same found
  · exact Or.inl (isFile_iff.mpr ⟨l, bytes, leads⟩)
  · exact Or.inr ⟨cause, misspelled, readText_of_resolve lost⟩

end FileSystem

namespace Bundle

/-- Reading files fails on one of them. -/
theorem exists_of_readAll_error {paths : List Path} {e : BuildError}
    (failed : (readAll paths).effect t = (.error e, u)) :
    ∃ path ∈ paths, ∃ cause, t.readText path = .error cause ∧ e = .missingSource path cause := by
  induction paths with
  | nil => cases failed
  | cons path paths ih =>
    have first := effect_read t path
    cases read : t.readText path with
    | error cause =>
      rw [read] at first
      rw [readAll, Attempt.effect_bind_error first] at failed
      cases failed
      exact ⟨path, List.mem_cons_self, cause, read, rfl⟩
    | ok text =>
      rw [read] at first
      rw [readAll, Attempt.effect_bind_ok first, Attempt.effect_bind] at failed
      rcases rest : (readAll paths).effect t with ⟨_ | texts, v⟩
      · rw [rest] at failed
        cases failed
        obtain ⟨other, mem, cause, lost, rfl⟩ := ih rest
        exact ⟨other, List.mem_cons_of_mem path mem, cause, lost, rfl⟩
      · rw [rest] at failed
        cases failed

/-- A bundle's fragments are missing for the sake of one that cannot be read. -/
theorem exists_of_concatenate_error {b : Bundle} {root : Path} {e : BuildError}
    (failed : ((b.concatenate root).effect t).1 = .error e) :
    ∃ p cause, b.Reads p ∧ t.readText (root.join p) = .error cause ∧
      e = .missingSource (root.join p) cause := by
  rcases read : (readAll (b.readOrder.map root.join)).effect t with ⟨cause | texts, v⟩
  · rw [concatenate, Attempt.effect_bind_error read] at failed
    cases failed
    obtain ⟨path, mem, cause, lost, rfl⟩ := exists_of_readAll_error read
    obtain ⟨p, mem_p, rfl⟩ := List.mem_map.mp mem
    exact ⟨p, cause, mem_readOrder_iff.mp mem_p, lost, rfl⟩
  · rw [concatenate, Attempt.effect_bind_ok read,
      Attempt.effect_bind_ok (Attempt.effect_note _ v)] at failed
    cases failed

end Bundle

/-! ## Clean validations -/

namespace Settings

/-- **A clean validation covers what is read.**  After it, every path that a bundle reads is
a file; or the file is there, but the bundle has another spelling of its path, which is
read behind the file or is too long.  Putting the fragments together fails for no other
reason, but that a file is not UTF-8. -/
theorem clean_validation_covers_sources (s : Settings) (w : World) (findings : Findings)
    (bundles : List Bundle) (valid : (s.validate.run w).1 = .ok findings)
    (clean : findings.isClean = true)
    (resolved : Bundle.ofModules s.groups s.modules = .ok bundles) :
    ∀ b ∈ bundles,
      (∀ p, b.Reads p → w.files.isFile (s.root.join p) = true ∨
        ∃ q cause, p.SameAs q ∧ w.files.isFile (s.root.join q) = true ∧
          Misspelled (s.root.join p) cause ∧
          w.files.readText (s.root.join p) = .error cause) ∧
      ∀ e, ((b.concatenate s.root).run w).1 = .error e → ∃ p cause, b.Reads p ∧
        e = .missingSource (s.root.join p) cause ∧
          (w.files.isFile (s.root.join p) = true ∧ cause = .notText ∨
            Misspelled (s.root.join p) cause) := by
  obtain ⟨referenced, known, rfl⟩ := exists_of_validate valid
  obtain ⟨found, -⟩ := isClean_iff.mp clean
  intro b mem
  have covered : ∀ p, b.Reads p → w.files.isFile (s.root.join p) = true ∨
      ∃ q cause, p.SameAs q ∧ w.files.isFile (s.root.join q) = true ∧
        Misspelled (s.root.join p) cause ∧
        w.files.readText (s.root.join p) = .error cause := by
    intro p reads
    obtain ⟨q, named, same⟩ := exists_named_of_reads known resolved mem reads
    obtain file | ⟨cause, misspelled, lost⟩ := isFile_or_misspelled same (found q named)
    · exact Or.inl file
    · exact Or.inr ⟨q, cause, same, found q named, misspelled, lost⟩
  refine ⟨covered, fun e failed => ?_⟩
  rw [Attempt.run_fst] at failed
  obtain ⟨p, cause, reads, lost, rfl⟩ := Bundle.exists_of_concatenate_error failed
  refine ⟨p, cause, reads, rfl, ?_⟩
  obtain file | ⟨q, cause', -, -, misspelled, lost'⟩ := covered p reads
  · exact Or.inl ⟨file, eq_notText_of_isFile file lost⟩
  · obtain rfl := Except.error.inj (lost.symm.trans lost')
    exact Or.inr misspelled

end Settings

namespace Sample

/-- A module that lists its file twice, the second time with a slash behind it. -/
def slashed : Settings where
  __ := Settings.default
  modules := [⟨"m", none, some ["f", "f/"], ⟨"f"⟩, ⟨"f"⟩⟩]

def slashedBundle : Bundle := ⟨"m", .listed ["f", "f/"], [⟨"f"⟩, ⟨"f/"⟩], ⟨"f"⟩, ⟨"f"⟩⟩

theorem ofModules_slashed :
    Bundle.ofModules slashed.groups slashed.modules = .ok [slashedBundle] := rfl

/-- Both spellings are one path, which is found. -/
theorem validate_slashed : (slashed.validate.run ⟨tree, []⟩).1 = .ok ⟨2, []⟩ := by
  have known : slashed.referencedFiles = .ok [⟨"f"⟩] := rfl
  have named : [⟨"f"⟩] ++ slashed.wrapperFiles = [⟨"f"⟩, ⟨"f"⟩] := by decide
  have file : tree.isFile (slashed.root.join ⟨"f"⟩) = true :=
    isFile_iff.mpr ⟨_, _, resolve_source⟩
  have missing : slashed.missingIn tree [⟨"f"⟩, ⟨"f"⟩] = [] :=
    Settings.missingIn_eq_nil_iff.mpr (by simpa using file)
  have found : slashed.findingsIn tree [⟨"f"⟩] = ⟨2, []⟩ := by
    rw [Settings.findingsIn, named, missing]
    rfl
  rw [Attempt.run_fst, Settings.effect_validate, known]
  exact congrArg Except.ok found

theorem readText_slashed : tree.readText ⟨"./f/"⟩ = .error .notADirectory := by
  have sound : pathFault? ⟨"./f/"⟩ = none := rfl
  have walked : tree.walk .followed 40 [] [[dot], octets "f", []] = .error .notADirectory := by cbv
  exact readText_of_resolve ((resolve_of_sound sound).trans walked)

/-- The second spelling is read behind the file. -/
theorem concatenate_slashed :
    ((slashedBundle.concatenate slashed.root).run ⟨tree, []⟩).1 =
      .error (.missingSource ⟨"./f/"⟩ .notADirectory) := by
  have order : slashedBundle.readOrder.map slashed.root.join =
      [⟨"./f"⟩, ⟨"./f"⟩] ++ ⟨"./f/"⟩ :: [⟨"./f"⟩] := by decide
  have readable : ∀ q ∈ [(⟨"./f"⟩ : Path), ⟨"./f"⟩], ∃ text, tree.HoldsText q text := by
    intro q mem
    obtain rfl : q = ⟨"./f"⟩ := by simpa using mem
    exact ⟨"f", holds_source⟩
  have read : (Bundle.readAll ([⟨"./f"⟩, ⟨"./f"⟩] ++ ⟨"./f/"⟩ :: [⟨"./f"⟩])).effect tree =
      (.error (.missingSource ⟨"./f/"⟩ .notADirectory), tree) :=
    Bundle.effect_readAll_error readable readText_slashed
  rw [Attempt.run_fst, Bundle.concatenate, order, Attempt.effect_bind_error read]

theorem clean_validation_covers_sources_slashed :
    (slashed.validate.run ⟨tree, []⟩).1 = .ok ⟨2, []⟩ ∧ Findings.isClean ⟨2, []⟩ = true ∧
      Bundle.ofModules slashed.groups slashed.modules = .ok [slashedBundle] ∧
      ∀ b ∈ [slashedBundle],
        (∀ p, b.Reads p → tree.isFile (slashed.root.join p) = true ∨
          ∃ q cause, p.SameAs q ∧ tree.isFile (slashed.root.join q) = true ∧
            Misspelled (slashed.root.join p) cause ∧
            tree.readText (slashed.root.join p) = .error cause) ∧
        ∀ e, ((b.concatenate slashed.root).run ⟨tree, []⟩).1 = .error e →
          ∃ p cause, b.Reads p ∧ e = .missingSource (slashed.root.join p) cause ∧
            (tree.isFile (slashed.root.join p) = true ∧ cause = .notText ∨
              Misspelled (slashed.root.join p) cause) :=
  ⟨validate_slashed, rfl, ofModules_slashed,
    slashed.clean_validation_covers_sources ⟨tree, []⟩ ⟨2, []⟩ [slashedBundle] validate_slashed rfl
      ofModules_slashed⟩

/-- **A clean validation does not rule out missing sources**: of two spellings of a path it
looks for one. -/
theorem clean_validation_misses_spelling :
    ¬ ∀ (s : Settings) (w : World) (findings : Findings) (bundles : List Bundle),
      (s.validate.run w).1 = .ok findings → findings.isClean = true →
        Bundle.ofModules s.groups s.modules = .ok bundles →
          ∀ b ∈ bundles, ∀ e, ((b.concatenate s.root).run w).1 = .error e →
            ∃ path, e = .missingSource path .notText := by
  intro rules_out
  obtain ⟨path, other⟩ := rules_out slashed ⟨tree, []⟩ ⟨2, []⟩ [slashedBundle] validate_slashed rfl
    ofModules_slashed slashedBundle List.mem_cons_self _ concatenate_slashed
  cases other

end Sample

end ReleaseBundle
