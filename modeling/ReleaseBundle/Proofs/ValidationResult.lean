import Mathlib.Data.List.Forall2
import Mathlib.Data.List.Induction
import ReleaseBundle.Proofs.Effect
import ReleaseBundle.Proofs.Resolution
import ReleaseBundle.Validation

/-!
# What a validation finds

A validation only looks: it leaves the files as they are, and what it finds is a function
of the settings and the files (`Settings.effect_validate`).  It fails exactly if the files
that the configuration names are not known, because a group of the manifest does not
expand (`Settings.exists_of_validate`, `Manifest.exists_filesForAll_iff_sound`).

Files are named in the first spelling of their path only.  Every file is named, though,
in one spelling or another (`exists_sameAs_of_mem`), and this holds of every path that a
bundle reads (`Settings.exists_named_of_reads`).
-/

namespace ReleaseBundle

/-! ## One spelling for each path -/

theorem isAmong_iff {p : Path} {paths : List Path} :
    p.isAmong paths = true ↔ ∃ q ∈ paths, p.SameAs q := by
  simp [Path.isAmong]

theorem isAmong_reverse (p : Path) (paths : List Path) :
    p.isAmong paths.reverse = p.isAmong paths := List.any_reverse

/-- A path more is kept if it is not among those that are. -/
theorem distinctPaths_concat (paths : List Path) (p : Path) :
    distinctPaths (paths ++ [p]) =
      if p.isAmong (distinctPaths paths) then distinctPaths paths
      else distinctPaths paths ++ [p] := by
  simp only [distinctPaths, List.foldl_append, List.foldl_cons, List.foldl_nil, isAmong_reverse]
  split
  · rfl
  · exact List.reverse_cons

/-- **No path is lost**: one of the distinct paths spells it. -/
theorem exists_sameAs_of_mem {p : Path} {paths : List Path} (mem : p ∈ paths) :
    ∃ q ∈ distinctPaths paths, p.SameAs q := by
  induction paths using List.reverseRecOn with
  | nil => cases mem
  | append_singleton paths last ih =>
    rw [distinctPaths_concat]
    split
    next among =>
      -- The last path may be left out, but it is the same as one that is kept.
      rcases List.mem_append.mp mem with mem | mem
      · exact ih mem
      · rw [List.mem_singleton.mp mem]
        exact isAmong_iff.mp among
    next =>
      rcases List.mem_append.mp mem with mem | mem
      · obtain ⟨q, kept, same⟩ := ih mem
        exact ⟨q, List.mem_append_left _ kept, same⟩
      · exact ⟨p, List.mem_append_right _ mem, .refl p⟩

/-! ## The files of all groups -/

namespace Manifest

variable {m : Manifest} {label group : String} {groups files : List String}

/-- **All groups together have the files** that each of them expands to, in order. -/
theorem filesForAll_eq_ok_iff : m.filesForAll label groups = .ok files ↔
    ∃ parts, List.Forall₂ m.Expands groups parts ∧ files = parts.flatten := by
  induction groups generalizing files with
  | nil =>
    constructor
    · intro found
      cases found
      exact ⟨[], .nil, rfl⟩
    · rintro ⟨parts, expands, rfl⟩
      cases expands
      rfl
  | cons group groups ih =>
    rw [filesForAll]
    constructor
    · intro found
      cases first : m.filesFor label group with
      | error e =>
        rw [first] at found
        cases found
      | ok part =>
        cases rest : m.filesForAll label groups with
        | error e =>
          rw [first, rest] at found
          cases found
        | ok others =>
          rw [first, rest] at found
          cases found
          obtain ⟨parts, expands, rfl⟩ := ih.mp rest
          exact ⟨part :: parts, .cons (expands_of_filesFor first) expands, rfl⟩
    · rintro ⟨parts, expands, rfl⟩
      cases expands with
      | @cons _ part _ parts first rest =>
        rw [filesFor_of_expands label first, ih.mpr ⟨parts, rest, rfl⟩]
        rfl

/-- The files of several groups have each group's files among them. -/
theorem exists_of_filesForAll (h : m.filesForAll label groups = .ok files)
    (mem : group ∈ groups) : ∃ part, m.Expands group part ∧ part ⊆ files := by
  obtain ⟨parts, expands, rfl⟩ := filesForAll_eq_ok_iff.mp h
  obtain ⟨i, rfl⟩ := List.mem_iff_get.mp mem
  have bound : i < parts.length := expands.length_eq ▸ i.isLt
  exact ⟨parts.get ⟨i, bound⟩, expands.get i.isLt bound,
    fun _ mem => List.mem_flatten_of_mem (parts.get_mem ⟨i, bound⟩) mem⟩

theorem exists_filesForAll (label : String) (h : ∀ group ∈ groups, ∃ part, m.Expands group part) :
    ∃ files, m.filesForAll label groups = .ok files := by
  induction groups with
  | nil => exact ⟨[], rfl⟩
  | cons first groups ih =>
    obtain ⟨⟨part, expands⟩, h⟩ := List.forall_mem_cons.mp h
    obtain ⟨others, rest⟩ := ih h
    exact ⟨part ++ others, by rw [filesForAll, filesFor_of_expands label expands, rest]; rfl⟩

/-- **All groups together have files** exactly if each of them expands. -/
theorem exists_filesForAll_iff_sound (label : String) :
    (∃ files, m.filesForAll label m.names = .ok files) ↔ m.Sound := by
  constructor
  · rintro ⟨files, found⟩ group mem
    obtain ⟨part, expands, -⟩ := exists_of_filesForAll found mem
    exact ⟨part, expands⟩
  · exact exists_filesForAll label

end Manifest

/-! ## The findings -/

namespace Settings

variable (s : Settings)

/-- The named files that a tree does not have. -/
def missingIn (t : FileSystem) (named : List Path) : List Problem :=
  (named.filter fun p => !t.isFile (s.root.join p)).map .missingFile

/-- The files of a tree below watched directories that are not named. -/
def orphansIn (t : FileSystem) (named : List Path) : List Problem :=
  s.watchedDirs.flatMap fun watched => s.orphansAmong named (t.visitsFrom (s.root.join watched))

/-- What a validation finds in a tree when it knows the source files. -/
def findingsIn (t : FileSystem) (referenced : List Path) : Findings :=
  let named := referenced ++ s.wrapperFiles
  ⟨named.length, s.missingIn t named ++ s.orphansIn t named ++ s.unknownModules⟩

/-- **Orphans are told by walks alone**, not with the missing files or the unknown modules. -/
theorem orphan_not_mem (t : FileSystem) (named : List Path) (q : Path) :
    .orphan q ∉ s.missingIn t named ++ s.unknownModules := by
  intro mem
  rcases List.mem_append.mp mem with missing | unknown
  · obtain ⟨p, -, other⟩ := List.mem_map.mp missing
    cases other
  · obtain ⟨module, -, other⟩ := List.mem_filterMap.mp unknown
    split at other <;> cases other

theorem effect_missingFiles (t : FileSystem) (named : List Path) :
    (s.missingFiles named).effect t = (.ok (s.missingIn t named), t) := by
  induction named with
  | nil => rfl
  | cons path named ih =>
    have asked : (Attempt.request (.isFile (s.root.join path)) : Build Bool).effect t =
        (.ok (t.isFile (s.root.join path)), t) := Attempt.effect_request _ t
    rw [missingFiles, Attempt.effect_bind_ok asked, Attempt.effect_bind_ok ih, missingIn, missingIn,
      List.filter_cons]
    cases t.isFile (s.root.join path) <;> rfl

theorem effect_orphans (t : FileSystem) (named dirs : List Path) :
    (s.orphans named dirs).effect t = (.ok (dirs.flatMap fun watched =>
      s.orphansAmong named (t.visitsFrom (s.root.join watched))), t) := by
  induction dirs with
  | nil => rfl
  | cons watched dirs ih =>
    have asked : (Attempt.request (.visitsFrom (s.root.join watched)) : Build _).effect t =
        (.ok (t.visitsFrom (s.root.join watched)), t) := Attempt.effect_request _ t
    rw [orphans, Attempt.effect_bind_ok asked, Attempt.effect_bind_ok (Attempt.effect_notes _ t),
      Attempt.effect_bind_ok ih]
    rfl

/-- **What a validation comes to**: the files stay as they are, and it finds what there is
to find, or fails because the source files are not known. -/
theorem effect_validate (t : FileSystem) :
    s.validate.effect t = (s.referencedFiles.map (s.findingsIn t), t) := by
  rw [validate, Attempt.effect_bind_ok (Attempt.effect_notes _ t)]
  cases known : s.referencedFiles with
  | error e => exact Attempt.effect_bind_error (Attempt.effect_ofExcept _ t)
  | ok referenced =>
    rw [Attempt.effect_bind_ok (Attempt.effect_ofExcept _ t),
      Attempt.effect_bind_ok (s.effect_missingFiles t _),
      Attempt.effect_bind_ok (s.effect_orphans t _ _),
      Attempt.effect_bind_ok (Attempt.effect_notes _ t)]
    dsimp only
    split
    · rw [Attempt.effect_bind_ok (Attempt.effect_note _ t)]
      rfl
    · rfl

variable {s} {t : FileSystem} {findings : Findings}

/-- A validation that does not fail has found what there is to find. -/
theorem exists_of_validate {w : World} (valid : (s.validate.run w).1 = .ok findings) :
    ∃ referenced, s.referencedFiles = .ok referenced ∧
      findings = s.findingsIn w.files referenced := by
  rw [Attempt.run_fst, effect_validate] at valid
  cases known : s.referencedFiles with
  | error e =>
    rw [known] at valid
    cases valid
  | ok referenced =>
    rw [known] at valid
    exact ⟨referenced, rfl, (Except.ok.inj valid).symm⟩

/-- The source files are known exactly if every group of the manifest expands. -/
theorem exists_referencedFiles_iff_sound :
    (∃ referenced, s.referencedFiles = .ok referenced) ↔ s.groups.Sound := by
  rw [← Manifest.exists_filesForAll_iff_sound manifestLabel, referencedFiles]
  cases s.groups.filesForAll manifestLabel s.groups.names with
  | error e => exact ⟨nofun, nofun⟩
  | ok files => exact ⟨fun _ => ⟨files, rfl⟩, fun _ => ⟨_, rfl⟩⟩

theorem missingIn_eq_nil_iff {named : List Path} :
    s.missingIn t named = [] ↔ ∀ q ∈ named, t.isFile (s.root.join q) = true := by
  rw [missingIn, List.map_eq_nil_iff, List.filter_eq_nil_iff]
  simp

/-- **A validation is clean** if it has found every named file, no orphan and no unknown
module. -/
theorem isClean_iff {referenced : List Path} :
    (s.findingsIn t referenced).isClean = true ↔
      (∀ q ∈ referenced ++ s.wrapperFiles, t.isFile (s.root.join q) = true) ∧
        s.orphansIn t (referenced ++ s.wrapperFiles) = [] ∧ s.unknownModules = [] := by
  rw [← missingIn_eq_nil_iff, Findings.isClean, findingsIn, List.isEmpty_iff,
    List.append_eq_nil_iff, List.append_eq_nil_iff, and_assoc]

/-! ## What bundles read is named -/

/-- What is among the texts of groups and lists is a source file in some spelling. -/
theorem exists_referenced {referenced : List Path} (known : s.referencedFiles = .ok referenced)
    {text : String}
    (mem : (∃ d ∈ s.modules, ∃ files, d.files? = some files ∧ text ∈ files) ∨
      ∃ group files, s.groups.Expands group files ∧ text ∈ files) :
    ∃ q ∈ referenced, Path.SameAs ⟨text⟩ q := by
  rw [referencedFiles] at known
  cases all : s.groups.filesForAll manifestLabel s.groups.names with
  | error e =>
    rw [all] at known
    cases known
  | ok grouped =>
    rw [all] at known
    cases known
    refine exists_sameAs_of_mem (List.mem_map_of_mem (List.mem_append.mpr ?_))
    rcases mem with ⟨d, mem_d, files, listed, mem⟩ | ⟨group, files, expands, mem⟩
    · exact Or.inr (List.mem_flatMap.mpr ⟨d, mem_d, by rw [listed]; exact mem⟩)
    · have defined := Manifest.mem_names_iff.mpr expands.contains
      obtain ⟨part, expands', sub⟩ := Manifest.exists_of_filesForAll all defined
      rw [expands'.unique expands] at sub
      exact Or.inl (sub mem)

/-- **What a bundle reads is named**, in one spelling or another. -/
theorem exists_named_of_reads {referenced : List Path} {bundles : List Bundle} {b : Bundle}
    (known : s.referencedFiles = .ok referenced)
    (resolved : Bundle.ofModules s.groups s.modules = .ok bundles) (mem : b ∈ bundles)
    {p : Path} (reads : b.Reads p) :
    ∃ q ∈ referenced ++ s.wrapperFiles, p.SameAs q := by
  obtain ⟨d, mem_d, found⟩ := Bundle.exists_of_mem_ofModules resolved mem
  obtain ⟨source, files, origin, rfl⟩ := Bundle.exists_of_ofModule found
  have wraps : ∀ p, p = d.header ∨ p = d.footer →
      ∃ q ∈ referenced ++ s.wrapperFiles, p.SameAs q := by
    intro p wrapper
    have mem_p : p ∈ s.modules.flatMap fun d => [d.header, d.footer] :=
      List.mem_flatMap.mpr ⟨d, mem_d, by simpa using wrapper⟩
    obtain ⟨q, mem_q, same⟩ := exists_sameAs_of_mem mem_p
    exact ⟨q, List.mem_append_right _ mem_q, same⟩
  rcases reads with header | listed | footer
  · exact wraps p (Or.inl header)
  · obtain ⟨text, mem_text, rfl⟩ := List.mem_map.mp listed
    obtain ⟨q, mem_q, same⟩ := exists_referenced known <| by
      rcases origin with listed | ⟨group, expands⟩
      · exact Or.inl ⟨d, mem_d, files, listed, mem_text⟩
      · exact Or.inr ⟨group, files, expands, mem_text⟩
    exact ⟨q, List.mem_append_left _ mem_q, same⟩
  · exact wraps p (Or.inr footer)

end Settings

end ReleaseBundle
