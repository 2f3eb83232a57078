import Mathlib.Data.List.Forall2
import ReleaseBundle.Projection
import ReleaseBundle.Proofs.Effect
import ReleaseBundle.Proofs.Overlay

/-!
# Projections copy

A projection that succeeds has made its target a directory and laid into it, under the
same names, the files it was told to copy (`apply_overlaid`).  Projections one after
the other do so for each of their targets (`applyAll_overlaid`): whichever of them
write to the same place write the same bytes there, since what they copy from stays
as it is.
-/

namespace ReleaseBundle.Projection

open FileSystem

/-- The artifacts of a module that are asked for: the full script, and the minified one with its
map if these are wanted too. -/
def filesOf (minified : Bool) (module : String) : List String :=
  if minified then [module ++ ".js", module ++ ".min.js", module ++ ".min.js.map"]
  else [module ++ ".js"]

theorem mem_filesOf_iff {minified : Bool} {module name : String} :
    name ∈ filesOf minified module ↔ name = module ++ ".js" ∨
      minified = true ∧ (name = module ++ ".min.js" ∨ name = module ++ ".min.js.map") := by
  cases minified <;> simp [filesOf]

theorem fileNames_eq (p : Projection) (module : String) :
    p.fileNames module = filesOf p.includeMinified module := rfl

/-- The names of the files that a projection is asked for, in order. -/
def listed (p : Projection) : List String := p.modules.flatMap (filesOf p.includeMinified)

/-- A copy of a name from one directory to another. -/
def Copies (dir dir' : Path) (c : FileCopy) (name : String) : Prop :=
  c.source = dir.child name ∧ c.target = dir'.child name

theorem copies_listed (p : Projection) (outDir : Path) :
    List.Forall₂ (Copies outDir (p.target outDir)) (p.copies outDir) p.listed := by
  rw [copies, listed, ← funext p.fileNames_eq]
  induction p.modules with
  | nil => exact .nil
  | cons module modules ih =>
    rw [List.flatMap_cons, List.flatMap_cons]
    refine List.rel_append ?_ ih
    rw [List.forall₂_map_left_iff]
    exact List.forall₂_same.mpr fun name _ => ⟨rfl, rfl⟩

/-! ## What each part does -/

theorem effect_checkSources {copies : List FileCopy} {u v : FileSystem}
    (checked : (checkSources copies).effect u = (.ok (), v)) :
    v = u ∧ ∀ c ∈ copies, u.isFile c.source = true := by
  induction copies with
  | nil => exact ⟨(Prod.mk.inj checked).2.symm, nofun⟩
  | cons c copies ih =>
    obtain ⟨isFile, w, answer, rest⟩ := Attempt.exists_of_effect_bind_ok checked
    obtain ⟨asked, rfl⟩ : Except.ok (u.isFile c.source) = Except.ok isFile ∧ u = w :=
      Prod.mk.inj answer
    obtain rfl := Except.ok.inj asked
    split at rest
    · rename_i found
      obtain ⟨same, others⟩ := ih rest
      exact ⟨same, List.forall_mem_cons.mpr ⟨found, others⟩⟩
    · cases rest

theorem exists_of_makeCopies_cons {c : FileCopy} {copies : List FileCopy} {u v : FileSystem}
    {targets : List Path} (made : (makeCopies (c :: copies)).effect u = (.ok targets, v)) :
    ∃ w rest, u.copy c.source c.target = (.ok (), w) ∧
      (makeCopies copies).effect w = (.ok rest, v) ∧ targets = c.target :: rest := by
  obtain ⟨_, w, copied, noting⟩ := Attempt.exists_of_effect_bind_ok made
  obtain ⟨_, w', noted, going⟩ := Attempt.exists_of_effect_bind_ok noting
  obtain rfl : w = w' := (Prod.mk.inj noted).2
  obtain ⟨rest, v', more, last⟩ := Attempt.exists_of_effect_bind_ok going
  obtain ⟨rfl, rfl⟩ : c.target :: rest = targets ∧ v' = v :=
    ⟨Except.ok.inj (Prod.mk.inj last).1, (Prod.mk.inj last).2⟩
  exact ⟨w, rest, Attempt.of_effect_orFail_ok rfl copied, more, rfl⟩

/-- The parts of a projection that succeeds. -/
theorem exists_of_apply {p : Projection} {outDir : Path} {u v : FileSystem} {targets : List Path}
    (applied : (p.apply outDir).effect u = (.ok targets, v)) :
    ∃ w, u.ensureDirectory (p.target outDir) = (.ok (), w) ∧
      (makeCopies (p.copies outDir)).effect w = (.ok targets, v) := by
  obtain ⟨_, u', checked, ensuring⟩ := Attempt.exists_of_effect_bind_ok applied
  obtain ⟨rfl, -⟩ := effect_checkSources checked
  obtain ⟨_, w, ensured, making⟩ := Attempt.exists_of_effect_bind_ok ensuring
  obtain ⟨targets', v', made, noting⟩ := Attempt.exists_of_effect_bind_ok making
  obtain ⟨_, v'', noted, last⟩ := Attempt.exists_of_effect_bind_ok noting
  obtain rfl : v' = v'' := (Prod.mk.inj noted).2
  obtain ⟨rfl, rfl⟩ : targets' = targets ∧ v' = v :=
    ⟨Except.ok.inj (Prod.mk.inj last).1, (Prod.mk.inj last).2⟩
  exact ⟨w, Attempt.of_effect_orFail_ok rfl ensured, made⟩

theorem exists_of_applyAll_cons {p : Projection} {projections : List Projection} {outDir : Path}
    {u v : FileSystem} {targets : List Path}
    (applied : (applyAll outDir (p :: projections)).effect u = (.ok targets, v)) :
    ∃ w first more, (p.apply outDir).effect u = (.ok first, w) ∧
      (applyAll outDir projections).effect w = (.ok more, v) ∧ targets = first ++ more := by
  obtain ⟨first, w, head, applying⟩ := Attempt.exists_of_effect_bind_ok applied
  obtain ⟨more, v', rest, last⟩ := Attempt.exists_of_effect_bind_ok applying
  obtain ⟨rfl, rfl⟩ : first ++ more = targets ∧ v' = v :=
    ⟨Except.ok.inj (Prod.mk.inj last).1, (Prod.mk.inj last).2⟩
  exact ⟨w, first, more, head, rest, rfl⟩

theorem effect_checkSources_ok {copies : List FileCopy} {u : FileSystem}
    (found : ∀ c ∈ copies, u.isFile c.source = true) :
    (checkSources copies).effect u = (.ok (), u) := by
  induction copies with
  | nil => rfl
  | cons c copies ih =>
    have asked : (Attempt.request (.isFile c.source) : Build Bool).effect u = (.ok true, u) := by
      rw [← found c List.mem_cons_self]
      exact Attempt.effect_request (.isFile c.source) u
    rw [checkSources, Attempt.effect_bind_ok asked, if_pos rfl]
    exact ih fun d mem => found d (List.mem_cons_of_mem c mem)

theorem effect_makeCopies_nil (u : FileSystem) : (makeCopies []).effect u = (.ok [], u) := rfl

theorem effect_makeCopies_cons {c : FileCopy} {copies : List FileCopy} {u w v : FileSystem}
    {rest : List Path} (copied : u.copy c.source c.target = (.ok (), w))
    (more : (makeCopies copies).effect w = (.ok rest, v)) :
    (makeCopies (c :: copies)).effect u = (.ok (c.target :: rest), v) := by
  have asked : (Attempt.request (.copy c.source c.target) : Build _).effect u =
      (.ok (u.copy c.source c.target).1, (u.copy c.source c.target).2) :=
    Attempt.effect_request (.copy c.source c.target) u
  rw [copied] at asked
  rw [makeCopies, Attempt.effect_bind_ok (Attempt.effect_orFail asked),
    Attempt.effect_bind_ok (Attempt.effect_note _ w), Attempt.effect_bind_ok more]
  rfl

/-- A projection succeeds if its sources are files and all copies can be made. -/
theorem effect_apply_ok {p : Projection} {outDir : Path} {home : Location} {u v : FileSystem}
    {targets : List Path} (found : ∀ c ∈ p.copies outDir, u.isFile c.source = true)
    (opens : u.Opens (p.target outDir) home)
    (made : (makeCopies (p.copies outDir)).effect u = (.ok targets, v)) :
    (p.apply outDir).effect u = (.ok targets, v) := by
  rw [apply, Attempt.effect_bind_ok (effect_checkSources_ok found),
    Attempt.effect_bind_ok opens.effect_ensureDirectory, Attempt.effect_bind_ok made,
    Attempt.effect_bind_ok (Attempt.effect_note _ v)]
  rfl

/-! ## One projection -/

/-- The files after copies: under each name, in the other directory, the file that was
there in the first, and elsewhere what was there. -/
structure Copied (home home' : Location) (names : List String) (files files' : Files) : Prop where
  copy : ∀ name ∈ names, files' (home' ++ [octets name]) = files (home ++ [octets name])
  other : ∀ l, (∀ name ∈ names, l ≠ home' ++ [octets name]) → files' l = files l

theorem Copied.cons {home home' : Location} {name : String} {names : List String}
    {files files' : Files} {bytes : ByteArray} (apart : home ≠ home')
    (held : files (home ++ [octets name]) = some bytes)
    (rest : Copied home home' names (files.write (home' ++ [octets name]) bytes) files') :
    Copied home home' (name :: names) files files' := by
  have source : ∀ other : String,
      files.write (home' ++ [octets name]) bytes (home ++ [octets other]) =
        files (home ++ [octets other]) := fun other => by
    refine Files.write_ne _ (fun same => apart ?_) bytes
    exact (List.append_inj' same rfl).1
  constructor
  · intro other mem
    by_cases again : other ∈ names
    · rw [rest.copy other again, source]
    · obtain rfl : other = name := (List.mem_cons.mp mem).resolve_right again
      rw [rest.other, Files.write_self, held]
      intro later here same
      have equal : (octets other) = (octets later) := by simpa using same
      exact again (octets_inj.mp equal ▸ here)
  · intro l free
    rw [rest.other l fun other mem => free other (List.mem_cons_of_mem name mem)]
    exact Files.write_ne _ (free name List.mem_cons_self) bytes

/-- What is copied from stays as it is. -/
theorem Copied.source {home home' : Location} {names : List String} {files files' : Files}
    (copied : Copied home home' names files files') (apart : home ≠ home') (name : Name) :
    files' (home ++ [name]) = files (home ++ [name]) :=
  copied.other _ fun _ _ same => apart (List.append_inj' same rfl).1

/-- What copying out of a directory needs: names of files that are there, and no links. -/
structure Copyable (dir dir' : Path) (home : Location) (files : Files) (u : FileSystem)
    (name : String) : Prop where
  plain : Path.IsName (octets name)
  laid : files (home ++ [octets name]) ≠ none
  straight : ¬ u.IsLink (dir.child name)
  straight' : ¬ u.IsLink (dir'.child name)

variable {dir dir' : Path} {home home' : Location} {files : Files} {t u v : FileSystem}

theorem makeCopies_overlaid {copies : List FileCopy} {names : List String} {targets : List Path}
    (listed : List.Forall₂ (Copies dir dir') copies names) (overlay : Overlaid files t u)
    (opens : u.Opens dir home) (opens' : u.Opens dir' home') (apart : home ≠ home')
    (copyable : ∀ name ∈ names, Copyable dir dir' home files u name)
    (made : (makeCopies copies).effect u = (.ok targets, v)) :
    targets = (names.map fun name : String => dir'.child name) ∧
      (∀ name ∈ names, childFault? dir' name = none) ∧
      ∃ files', Overlaid files' t v ∧ Copied home home' names files files' := by
  induction listed generalizing files u targets with
  | nil =>
    cases made
    exact ⟨rfl, nofun, files, overlay, ⟨nofun, fun _ _ => rfl⟩⟩
  | @cons c name copies names copies_name _ ih =>
    obtain ⟨source, target⟩ := copies_name
    obtain ⟨w, rest, copied, more, rfl⟩ := exists_of_makeCopies_cons made
    rw [source, target] at copied
    have here := copyable name List.mem_cons_self
    obtain ⟨bytes, held⟩ := Option.ne_none_iff_exists'.mp here.laid
    obtain ⟨sound, grown, overlay'⟩ := overlay.copy opens opens' here.plain here.straight
      here.straight' apart held copied
    have copyable' : ∀ other ∈ names,
        Copyable dir dir' home (files.write (home' ++ [octets name]) bytes) w other := by
      intro other mem
      obtain ⟨plain, laid, straight, straight'⟩ := copyable other (List.mem_cons_of_mem name mem)
      refine ⟨plain, ?_, not_isLink_written grown straight, not_isLink_written grown straight'⟩
      rw [Files.write]
      split
      · exact Option.some_ne_none bytes
      · exact laid
    obtain ⟨rfl, sounds, files', overlay'', after⟩ :=
      ih overlay' (opens.grown grown) (opens'.grown grown) copyable' more
    refine ⟨by rw [target, List.map_cons], ?_, files', overlay'', after.cons apart held⟩
    exact List.forall_mem_cons.mpr ⟨sound, sounds⟩

/-! ## Projections one after the other -/

variable {outDir : Path}

/-- Where a projection's copies are, in a tree that has the directories. -/
def CopyPlace (outDir : Path) (projections : List Projection) (t : FileSystem) (l : Location) :
    Prop :=
  ∃ p ∈ projections, ∃ name ∈ p.listed, ∃ home',
    t.Opens (p.target outDir) home' ∧ l = home' ++ [octets name]

/-- What projections need, in a tree that has the directories. -/
structure Projectable (outDir : Path) (home : Location) (files : Files) (t : FileSystem)
    (p : Projection) : Prop where
  apart : p.listed ≠ [] → ¬ t.Opens (p.target outDir) home
  copyable : ∀ name ∈ p.listed, Copyable outDir (p.target outDir) home files t name

/-- The files after projections: every copy is the file it was made of, and elsewhere
are the files that were there. -/
structure AllCopied (outDir : Path) (home : Location) (projections : List Projection)
    (t : FileSystem) (files files' : Files) : Prop where
  copy : ∀ p ∈ projections, ∀ name ∈ p.listed, ∀ home', t.Opens (p.target outDir) home' →
    files' (home' ++ [octets name]) = files (home ++ [octets name])
  other : ∀ l, ¬ CopyPlace outDir projections t l → files' l = files l

/-- The files after one projection, which may copy nothing. -/
def OnceCopied (outDir : Path) (home : Location) (t : FileSystem) (p : Projection)
    (files files' : Files) : Prop :=
  p.listed = [] ∧ files' = files ∨
    ∃ home', home ≠ home' ∧ t.Opens (p.target outDir) home' ∧
      Copied home home' p.listed files files'

theorem OnceCopied.source {p : Projection} {files' : Files}
    (once : OnceCopied outDir home t p files files') (name : Name) :
    files' (home ++ [name]) = files (home ++ [name]) := by
  obtain ⟨-, rfl⟩ | ⟨home', apart, -, copied⟩ := once
  · rfl
  · exact copied.source apart name

theorem AllCopied.cons {p : Projection} {projections : List Projection} {files₁ files₂ : Files}
    (once : OnceCopied outDir home t p files files₁)
    (rest : AllCopied outDir home projections t files₁ files₂) :
    AllCopied outDir home (p :: projections) t files files₂ := by
  constructor
  · intro q mem name listed homeq there
    by_cases again : CopyPlace outDir projections t (homeq ++ [octets name])
    -- A later projection copies the same file to the same place.
    · obtain ⟨r, mem', name', listed', homer, there', same⟩ := again
      obtain ⟨rfl, equal⟩ : homeq = homer ∧ (octets name) = (octets name') := by simpa using same
      obtain rfl := octets_inj.mp equal
      rw [rest.copy r mem' name listed' homeq there', once.source]
    · have later := fun mem' : q ∈ projections => again ⟨q, mem', name, listed, homeq, there, rfl⟩
      obtain rfl : q = p := (List.mem_cons.mp mem).resolve_right later
      rw [rest.other _ again]
      obtain ⟨empty, -⟩ | ⟨home', -, opens, copied⟩ := once
      · rw [empty] at listed
        cases listed
      · rw [there.unique opens, copied.copy name listed]
  · intro l free
    rw [rest.other l fun ⟨q, mem, copy⟩ => free ⟨q, List.mem_cons_of_mem p mem, copy⟩]
    obtain ⟨-, rfl⟩ | ⟨home', -, opens, copied⟩ := once
    · rfl
    · exact copied.other l fun name listed same =>
        free ⟨p, List.mem_cons_self, name, listed, home', opens, same⟩

/-- A target is the empty path only if it is the output directory. -/
theorem spelling_eq_of_target {p : Projection} (empty : (p.target outDir).spelling = []) :
    outDir.spelling = [] := by
  rw [target, Path.join] at empty
  split at empty
  · rename_i absolute
    simp [Path.isAbsolute, empty] at absolute
  split at empty
  · exact (List.append_eq_nil_iff.mp empty).1
  · simp at empty

/-- Where a projection that copies something has made its target. -/
theorem exists_opens_target {p : Projection} (opens : u.Opens outDir home)
    (ensured : t.ensureDirectory (p.target outDir) = (.ok (), u))
    (apart : ¬ u.Opens (p.target outDir) home) : ∃ home', u.Opens (p.target outDir) home' := by
  rcases exists_opens_of_ensureDirectory ensured with empty | found
  · exact absurd (opens.of_empty (spelling_eq_of_target empty) empty) apart
  · exact found

/-- **A projection lays copies over the tree** in which its target has been made. -/
theorem apply_overlaid {p : Projection} {targets : List Path} {s t₁ : FileSystem}
    (overlay : Overlaid files t u) (ensured : t.ensureDirectory (p.target outDir) = (.ok (), t₁))
    (grown : Grown (fun _ => False) (fun _ => True) t₁ s)
    (projectable : Projectable outDir home files s p)
    (opens : p.listed ≠ [] → u.Opens outDir home)
    (applied : (p.apply outDir).effect u = (.ok targets, v)) :
    targets = (p.listed.map fun name : String => (p.target outDir).child name) ∧
      (∀ name ∈ p.listed, childFault? (p.target outDir) name = none ∧
        ∃ home', s.Opens (p.target outDir) home') ∧
      ∃ files', Overlaid files' t₁ v ∧ OnceCopied outDir home s p files files' := by
  obtain ⟨w, ensured', made⟩ := exists_of_apply applied
  obtain ⟨s', again, overlay'⟩ := overlay.ensureDirectory ensured'
  obtain rfl : t₁ = s' := (Prod.mk.inj (ensured.symm.trans again)).2
  have listed := copies_listed p outDir
  by_cases empty : p.listed = []
  · rw [empty, List.forall₂_nil_right_iff] at listed
    rw [listed] at made
    cases made
    exact ⟨by rw [empty]; rfl, by simp [empty], files, overlay', Or.inl ⟨empty, rfl⟩⟩
  have opened : w.Opens outDir home := (opens empty).grown (grown_ensureAll ensured')
  have apart' : ¬ w.Opens (p.target outDir) home := fun there =>
    projectable.apart empty ((there.of_written overlay'.written).grown grown)
  obtain ⟨home', opens'⟩ := exists_opens_target opened ensured' apart'
  have there : s.Opens (p.target outDir) home' := (opens'.of_written overlay'.written).grown grown
  have apart : home ≠ home' := fun same => apart' (same ▸ opens')
  have unlinked : ∀ {q : Path}, ¬ s.IsLink q → ¬ w.IsLink q := fun straight =>
    not_isLink_written overlay'.written fun link => straight (isLink_of_grown grown link)
  obtain ⟨rfl, sound, files', overlay'', copied⟩ :=
    makeCopies_overlaid listed overlay' opened opens' apart (fun name mem =>
      have ⟨plain, laid, straight, straight'⟩ := projectable.copyable name mem
      ⟨plain, laid, unlinked straight, unlinked straight'⟩) made
  exact ⟨rfl, fun name mem => ⟨sound name mem, home', there⟩, files', overlay'',
    Or.inr ⟨home', apart, there, copied⟩⟩

/-- **Projections lay copies over the tree**, one after the other. -/
theorem applyAll_overlaid {projections : List Projection} {targets : List Path} {s : FileSystem}
    (overlay : Overlaid files t u) (all : t.withDirectories (projections.map (·.target outDir)) = s)
    (projectable : ∀ p ∈ projections, Projectable outDir home files s p)
    (opens : (∃ p ∈ projections, p.listed ≠ []) → u.Opens outDir home)
    (applied : (applyAll outDir projections).effect u = (.ok targets, v)) :
    t.Ensures (projections.map (·.target outDir)) ∧
      targets = projections.flatMap (fun p =>
        p.listed.map fun name : String => (p.target outDir).child name) ∧
      (∀ p ∈ projections, ∀ name ∈ p.listed, childFault? (p.target outDir) name = none ∧
        ∃ home', s.Opens (p.target outDir) home') ∧
      ∃ files', Overlaid files' s v ∧ AllCopied outDir home projections s files files' := by
  induction projections generalizing files t u targets with
  | nil =>
    cases applied
    subst all
    exact ⟨trivial, rfl, nofun, files, overlay, ⟨nofun, fun _ _ => rfl⟩⟩
  | cons p projections ih =>
    obtain ⟨w, first, more, head, tail, rfl⟩ := exists_of_applyAll_cons applied
    obtain ⟨w₀, ensured₀, -⟩ := exists_of_apply head
    obtain ⟨t₁, ensured, -⟩ := overlay.ensureDirectory ensured₀
    have all' : t₁.withDirectories (projections.map (·.target outDir)) = s := by
      rw [← all, withDirectories, withDirectories, List.map_cons, List.foldl_cons, ensured]
    have grown : Grown (fun _ => False) (fun _ => True) t₁ s := all' ▸ grows_withDirectories t₁ _
    obtain ⟨rfl, sound, files₁, overlay₁, once⟩ := apply_overlaid overlay ensured grown
      (projectable p List.mem_cons_self) (fun some_copy => opens ⟨p, List.mem_cons_self, some_copy⟩)
      head
    have projectable' : ∀ q ∈ projections, Projectable outDir home files₁ s q := by
      intro q mem
      obtain ⟨apart, copyable⟩ := projectable q (List.mem_cons_of_mem p mem)
      refine ⟨apart, fun name listed => ?_⟩
      obtain ⟨plain, laid, straight, straight'⟩ := copyable name listed
      exact ⟨plain, by rwa [once.source], straight, straight'⟩
    have opens' : (∃ q ∈ projections, q.listed ≠ []) → w.Opens outDir home := by
      rintro ⟨q, mem, some_copy⟩
      have opened := (opens ⟨q, List.mem_cons_of_mem p mem, some_copy⟩).of_written overlay.written
      exact (opened.grown (grown_ensureAll ensured)).grown overlay₁.written
    obtain ⟨ensures, rfl, sounds, files', overlay', rest⟩ :=
      ih overlay₁ all' projectable' opens' tail
    exact ⟨⟨t₁, ensured, ensures⟩, rfl, List.forall_mem_cons.mpr ⟨sound, sounds⟩, files', overlay',
      rest.cons once⟩

end ReleaseBundle.Projection
