import ReleaseBundle.Proofs.ArtifactPlaces
import ReleaseBundle.Proofs.FirstFailure

/-!
# What a finalization writes

A finalization makes the output directory and writes the artifacts one after the other, all
three if the minifier takes the script, and the full script alone if it does not
(`artifactTexts`).  It ends with the first step that fails.  What has been written until then
is written completely, and the rest is what it was (`WrittenSoFar`): no artifact is written over
another one, since the artifacts of a module are in different places
(`artifactName_eq_of_leadsTo`).

Whatever happens, files are written only where the artifacts are, and directories are made only
on the way to the output directory (`finalization_is_faithful`).
-/

namespace ReleaseBundle

open FileSystem

/-! ## Texts of artifacts -/

/-- The artifacts that are to be written, in order, with their texts. -/
def artifactTexts (module script : String) (minify : Minifier) : List (String × String) :=
  (fullName module, script) ::
    match minify script (fullName module) with
    | .error _ => []
    | .ok minified =>
      [(minName module, withTrailer module minified.code), (mapName module, minified.map)]

theorem artifactTexts_of_ok {module script : String} {minify : Minifier} {minified : Minified}
    (taken : minify script (fullName module) = .ok minified) :
    artifactTexts module script minify =
      [(fullName module, script), (minName module, withTrailer module minified.code),
        (mapName module, minified.map)] := by
  rw [artifactTexts, taken]

theorem artifactTexts_of_error {module script reason : String} {minify : Minifier}
    (refused : minify script (fullName module) = .error reason) :
    artifactTexts module script minify = [(fullName module, script)] := by
  rw [artifactTexts, refused]

/-- The names are those of artifacts, each at most once. -/
theorem names_artifactTexts (module script : String) (minify : Minifier) :
    ((artifactTexts module script minify).map Prod.fst).Nodup ∧
      (artifactTexts module script minify).map Prod.fst ⊆ artifactNames module := by
  cases minified : minify script (fullName module) with
  | error reason =>
    rw [artifactTexts_of_error minified]
    simp [artifactNames]
  | ok minified' =>
    rw [artifactTexts_of_ok minified]
    have full := Settings.fullName_ne_minName module
    have map := Settings.mapName_ne_fullName module
    have map' := Settings.mapName_ne_minName module
    simp [artifactNames, full, map.symm, map'.symm]

/-! ## Writing them one after the other -/

variable {module script : String} {outDir : Path} {minify : Minifier} {t u : FileSystem}
  {texts : List (String × String)}

/-- Writing a file comes to what the operation comes to. -/
theorem effect_writeFile (t : FileSystem) (path : Path) (text : String) :
    (writeFile path text).effect t =
      ((t.writeText path text).1.mapError (.unwritable path), (t.writeText path text).2) := by
  have asked : (Attempt.request (.writeText path text) : Build _).effect t =
      (.ok (t.writeText path text).1, (t.writeText path text).2) :=
    Attempt.effect_request (.writeText path text) t
  rw [writeFile, Attempt.effect_bind, Attempt.effect_orFail asked]
  cases (t.writeText path text).1 <;> rfl

/-- Writes texts into files of a directory. -/
def writeAll (outDir : Path) : List (String × String) → Build Unit
  | [] => return
  | (name, text) :: texts => do
    writeFile (outDir.child name) text
    writeAll outDir texts

/-- The tree `u` is `t` with some texts written into artifacts. -/
structure WrittenSoFar (outDir : Path) (module : String) (t u : FileSystem)
    (texts : List (String × String)) : Prop where
  /-- The texts are held. -/
  holds : ∀ name text, (name, text) ∈ texts → u.HoldsText (outDir.child name) text
  /-- The other artifacts are what they were. -/
  kept : ∀ name ∈ artifactNames module, name ∉ texts.map Prod.fst →
    u.node? (outDir.child name) = t.node? (outDir.child name)
  /-- Files are written where the paths of the texts lead, and nothing else changes. -/
  written : Written (fun l => ∃ name ∈ texts.map Prod.fst, t.LeadsTo (outDir.child name) l) t u

theorem WrittenSoFar.refl (t : FileSystem) : WrittenSoFar outDir module t t [] :=
  ⟨nofun, fun _ _ _ => rfl, .refl t⟩

section

variable (straight : ∀ name ∈ artifactNames module, ¬ t.IsLink (outDir.child name))

include straight

/-- **One artifact more is written**, or the writing fails and changes nothing. -/
theorem WrittenSoFar.writeFile_cases (so_far : WrittenSoFar outDir module t u texts)
    (among : texts.map Prod.fst ⊆ artifactNames module) {name : String}
    (artifact : name ∈ artifactNames module) (fresh : name ∉ texts.map Prod.fst) (text : String) :
    (∃ cause, u.writeText (outDir.child name) text = (.error cause, u) ∧
        (writeFile (outDir.child name) text).effect u =
          (.error (.unwritable (outDir.child name) cause), u)) ∨
      ∃ v, (writeFile (outDir.child name) text).effect u = (.ok (), v) ∧
        WrittenSoFar outDir module t v (texts ++ [(name, text)]) := by
  obtain ⟨cause, stuck⟩ | ⟨l, v, wrote, leads, one, held⟩ :=
    ReleaseBundle.writeFile_cases u (outDir.child name) text
  · refine Or.inl ⟨cause, ?_, stuck⟩
    rw [effect_writeFile] at stuck
    rcases wrote : u.writeText (outDir.child name) text with ⟨cause' | ⟨⟩, v⟩
    · rw [wrote] at stuck
      cases stuck
      rfl
    · rw [wrote] at stuck
      cases stuck
  have leads' : t.LeadsTo (outDir.child name) l := (leadsTo_iff_of_written so_far.written).mp leads
  have other : ∀ name' ∈ artifactNames module, name' ≠ name →
      v.node? (outDir.child name') = u.node? (outDir.child name') := by
    intro name' artifact' ne
    have unlinked : ∀ name ∈ artifactNames module, ¬ u.IsLink (outDir.child name) :=
      fun name artifact => not_isLink_written so_far.written (straight name artifact)
    obtain kept | ⟨link, -⟩ := node?_of_other_artifact artifact artifact' ne leads one
    · exact kept
    · exact (link.elim (unlinked name artifact) (unlinked name' artifact')).elim
  refine Or.inr ⟨v, wrote, ?_, ?_, ?_⟩
  · intro name' text' listed
    rcases List.mem_append.mp listed with listed | last
    · have named : name' ∈ texts.map Prod.fst := List.mem_map_of_mem (f := Prod.fst) listed
      have ne : name' ≠ name := fun same => fresh (same ▸ named)
      exact (other name' (among named) ne).trans (so_far.holds name' text' listed)
    · cases List.mem_singleton.mp last
      exact held
  · intro name' artifact' unlisted
    rw [List.map_append, List.mem_append, not_or] at unlisted
    have ne : name' ≠ name := fun same => unlisted.2 (List.mem_singleton.mpr same)
    exact (other name' artifact' ne).trans (so_far.kept name' artifact' unlisted.1)
  · refine (so_far.written.mono ?_ fun _ m => m).trans (one.mono ?_ fun _ m => m)
    · rintro k ⟨name', named, there⟩
      exact ⟨name', by simp [named], there⟩
    · rintro _ rfl
      exact ⟨name, by simp, leads'⟩

/-- **Artifacts are written one after the other**, up to the first that fails. -/
theorem WrittenSoFar.writeAll_cases (more : List (String × String))
    (so_far : WrittenSoFar outDir module t u texts)
    (among : (texts ++ more).map Prod.fst ⊆ artifactNames module)
    (once : ((texts ++ more).map Prod.fst).Nodup) :
    (∃ v, (writeAll outDir more).effect u = (.ok (), v) ∧
        WrittenSoFar outDir module t v (texts ++ more)) ∨
      ∃ before, ∃ name : String, ∃ text later v cause, more = before ++ (name, text) :: later ∧
        (writeAll outDir more).effect u = (.error (.unwritable (outDir.child name) cause), v) ∧
        WrittenSoFar outDir module t v (texts ++ before) ∧
        v.writeText (outDir.child name) text = (.error cause, v) := by
  induction more generalizing texts u with
  | nil => exact Or.inl ⟨u, rfl, by rwa [List.append_nil]⟩
  | cons entry more ih =>
    obtain ⟨name, text⟩ := entry
    have here : name ∈ (texts ++ (name, text) :: more).map Prod.fst := by simp
    have fresh : name ∉ texts.map Prod.fst := by
      rw [List.map_append, List.map_cons] at once
      exact fun earlier => (List.nodup_append.mp once).2.2 name earlier name List.mem_cons_self rfl
    have earlier : texts.map Prod.fst ⊆ artifactNames module := fun name' named =>
      among (by rw [List.map_append]; exact List.mem_append_left _ named)
    rw [writeAll]
    obtain ⟨cause, failed, stuck⟩ | ⟨v, wrote, so_far⟩ :=
      so_far.writeFile_cases straight earlier (among here) fresh text
    · refine Or.inr ⟨[], name, text, more, u, cause, rfl, Attempt.effect_bind_error stuck, ?_,
        failed⟩
      rwa [List.append_nil]
    rw [Attempt.effect_bind_ok wrote]
    rw [List.append_cons] at among once
    obtain ⟨w, done, so_far⟩ |
        ⟨before, name', text', later, w, cause, rfl, stuck, so_far, failed⟩ :=
      ih so_far among once
    · exact Or.inl ⟨w, done, by rwa [List.append_cons]⟩
    · exact Or.inr ⟨(name, text) :: before, name', text', later, w, cause, rfl, stuck,
        by rwa [List.append_cons], failed⟩

end

/-! ## The whole -/

/-- **A finalization** makes the directory and writes the artifacts one after the other.  If the
minifier refuses the script, it fails then. -/
theorem effect_finalize (module script : String) (outDir : Path) (minify : Minifier)
    (t : FileSystem) :
    (finalize module script outDir minify).effect t =
      (do
        ensureDirectory outDir
        writeAll outDir (artifactTexts module script minify)
        match minify script (fullName module) with
        | .error reason => throw (.rejectedScript (fullName module) reason)
        | .ok _ => return ⟨module, outDir.child (fullName module),
            outDir.child (minName module), outDir.child (mapName module),
            Digest.sha256 script.toUTF8⟩ :
        Build Artifacts).effect t := by
  cases minified : minify script (fullName module) with
  | error reason =>
    simp only [finalize, minified, artifactTexts_of_error minified, writeAll, Attempt.effect_bind]
    rcases (ensureDirectory outDir).effect t with ⟨_ | ⟨⟩, u⟩
    · rfl
    dsimp only
    rcases (writeFile (outDir.child (fullName module)) script).effect u with ⟨_ | ⟨⟩, v⟩
    · rfl
    · rfl
  | ok minified' =>
    simp only [finalize, minified, artifactTexts_of_ok minified, writeAll, Attempt.effect_bind]
    rcases (ensureDirectory outDir).effect t with ⟨_ | ⟨⟩, u⟩
    · rfl
    dsimp only
    rcases (writeFile (outDir.child (fullName module)) script).effect u with ⟨_ | ⟨⟩, v⟩
    · rfl
    dsimp only
    rcases (writeFile (outDir.child (minName module)) _).effect v with ⟨_ | ⟨⟩, w⟩
    · rfl
    dsimp only
    rcases (writeFile (outDir.child (mapName module)) _).effect w with ⟨_ | ⟨⟩, w'⟩
    · rfl
    · rfl

/-- The directory could not be made. -/
theorem effect_finalize_of_unmade {cause : IoError}
    (unmade : t.ensureDirectory outDir = (.error cause, u)) :
    (finalize module script outDir minify).effect t = (.error (.unwritable outDir cause), u) := by
  have asked : (Attempt.request (.ensureDirectory outDir) : Build _).effect t =
      (.ok (t.ensureDirectory outDir).1, (t.ensureDirectory outDir).2) :=
    Attempt.effect_request (.ensureDirectory outDir) t
  rw [unmade] at asked
  have stuck : (ensureDirectory outDir).effect t = (.error (.unwritable outDir cause), u) :=
    Attempt.effect_orFail asked
  rw [effect_finalize, Attempt.effect_bind_error stuck]

/-- **A finalization does not fail** if the directory can be made, the minifier takes the script,
and nothing is in the way of an artifact. -/
theorem effect_finalize_ok {home : Location} {minified : Minified}
    (made : t.ensureDirectory outDir = (.ok (), u)) (opens : u.Opens outDir home)
    (plain : '/' ∉ module.toList)
    (straight : ∀ name ∈ artifactNames module, ¬ u.IsLink (outDir.child name))
    (taken : minify script (fullName module) = .ok minified)
    (free : ∀ name ∈ artifactNames module, u.writeFault? outDir home name = none) :
    ((finalize module script outDir minify).effect t).1 = .ok ⟨module,
      outDir.child (fullName module), outDir.child (minName module),
      outDir.child (mapName module), Digest.sha256 script.toUTF8⟩ := by
  rw [effect_finalize, Attempt.effect_bind_ok (effect_ensureDirectory made)]
  obtain ⟨once, among⟩ := names_artifactTexts module script minify
  obtain ⟨v, wrote, -⟩ | ⟨before, name, text, later, v, cause, order, -, so_far, failed⟩ :=
    WrittenSoFar.writeAll_cases straight (artifactTexts module script minify) (.refl u) among once
  · rw [Attempt.effect_bind_ok wrote, taken]
    rfl
  · have artifact : name ∈ artifactNames module := among (by simp [order])
    have wrote := (opens.grown so_far.written).writeBytes_child (isName_artifact plain artifact)
      (not_isLink_written so_far.written (straight name artifact)) text.toUTF8
    rw [writeFault?_written so_far.written, free name artifact] at wrote
    cases wrote.symm.trans failed

/-- Where there are no links, making a directory makes none. -/
theorem FileSystem.not_isLink_of_ensureDirectory
    (unlinked : ∀ l target, t.lookup? l ≠ some (.link target)) (dir p : Path) :
    ¬ (t.ensureDirectory dir).2.IsLink p := by
  rintro ⟨l, target, found⟩
  have grows := (grown_of_ensureAll t dir.lineage).node l
  rw [← FileSystem.ensureDirectory, lookup?_of_resolve found] at grows
  exact unlinked l target grows.of_link

/-- Where a finalization has failed to write, and what is there then. -/
inductive Interrupted (module script : String) (outDir : Path) (minify : Minifier)
    (t u : FileSystem) : Path → IoError → Prop
  /-- The directory could not be made; no file has been written. -/
  | directory {cause : IoError} (unmade : t.ensureDirectory outDir = (.error cause, u))
      (unwritten : Grown (fun _ => False) (u.Along outDir.lineage) t u) :
      Interrupted module script outDir minify t u outDir cause
  /-- An artifact could not be written; those before it have been, and no other. -/
  | artifact {made : FileSystem} {before later : List (String × String)} {name text : String}
      {cause : IoError} (opened : t.ensureDirectory outDir = (.ok (), made))
      (order : artifactTexts module script minify = before ++ (name, text) :: later)
      (so_far : WrittenSoFar outDir module made u before)
      (unwritten : u.writeText (outDir.child name) text = (.error cause, u)) :
      Interrupted module script outDir minify t u (outDir.child name) cause

/-- **Finalization is faithful.**  Files are written only where the artifacts are, directories are
made only on the way to the output directory, and nothing else changes.  If it does not fail, the
artifacts hold the script, the minified code with its trailer, and the map.  If it fails to write,
it tells of the first of the directory and the artifacts that could not be made or written: the
artifacts before have been written completely, and this one and those behind are what they were.
No artifact may be a link once the directory is there. -/
theorem finalization_is_faithful (module script : String) (outDir : Path) (minify : Minifier)
    (w : World) (straight : ∀ name ∈ artifactNames module,
      ¬ (w.files.ensureDirectory outDir).2.IsLink (outDir.child name)) :
    Confined (fun p => ∃ name ∈ artifactNames module, p = outDir.child name) (fun p => p = outDir)
        w.files ((finalize module script outDir minify).run w).2.files ∧
      (∀ a, ((finalize module script outDir minify).run w).1 = .ok a →
        ∃ minified, minify script (module ++ ".js") = .ok minified ∧
          Finalized module script outDir minified
            ((finalize module script outDir minify).run w).2.files a) ∧
      ∀ path cause, ((finalize module script outDir minify).run w).1 =
          .error (.unwritable path cause) →
        Interrupted module script outDir minify w.files
          ((finalize module script outDir minify).run w).2.files path cause := by
  rw [Attempt.run_fst, Attempt.files_run]
  have within : (finalize module script outDir minify).Within
      (fun p => ∃ name ∈ artifactNames module, p = outDir.child name) (fun p => p = outDir) := by
    refine within_finalize ?_ (fun name artifact => ?_) script minify
    · rfl
    · exact ⟨name, artifact, rfl⟩
  refine ⟨Attempt.confined_of_within within w.files, ?_⟩
  rcases made : w.files.ensureDirectory outDir with ⟨cause | ⟨⟩, t⟩
  · rw [effect_finalize_of_unmade made]
    constructor
    · rintro a ⟨⟩
    · rintro path cause' ⟨⟩
      have grown := grown_of_ensureAll w.files outDir.lineage
      rw [← FileSystem.ensureDirectory, made] at grown
      exact .directory made grown
  rw [made] at straight
  dsimp only at straight
  rw [effect_finalize, Attempt.effect_bind_ok (effect_ensureDirectory made)]
  obtain ⟨once, among⟩ := names_artifactTexts module script minify
  obtain ⟨u, wrote, so_far⟩ | ⟨before, name, text, later, u, cause, order, stuck, so_far, failed⟩ :=
    WrittenSoFar.writeAll_cases straight (artifactTexts module script minify) (.refl t) among once
  · rw [Attempt.effect_bind_ok wrote]
    cases taken : minify script (fullName module) with
    | error reason =>
      constructor
      · rintro a ⟨⟩
      · rintro path cause ⟨⟩
    | ok minified =>
      constructor
      · rintro a ⟨⟩
        rw [List.nil_append, artifactTexts_of_ok taken] at so_far
        refine ⟨minified, taken, .of_texts ?_ ?_ ?_⟩ <;> exact so_far.holds _ _ (by simp)
      · rintro path cause ⟨⟩
  · rw [Attempt.effect_bind_error stuck]
    constructor
    · rintro a ⟨⟩
    · rintro path cause' ⟨⟩
      exact .artifact made order so_far failed

namespace Sample

theorem unlinked_tree (l : Location) (target : List UInt8) :
    tree.lookup? l ≠ some (.link target) := by
  intro link
  rw [lookup?_tree] at link
  split_ifs at link <;> cases link

/-- A minifier that makes one letter of every script, and another of its map. -/
def terse : Minifier := fun _ _ => .ok ⟨"c", "m"⟩

/-- The artifacts of a script of three letters. -/
def finalized : Artifacts :=
  ⟨"a", ⟨"build/js/a.js"⟩, ⟨"build/js/a.min.js"⟩, ⟨"build/js/a.min.js.map"⟩,
    "ba7816bf8f01cfea414140de5dae2223b00361a396177a9cb410ff61f20015ad"⟩

/-- The tree with a directory for the artifacts. -/
def opened : FileSystem := tree.put [octets "build", octets "js"] .directory

theorem ensureDirectory_opened : tree.ensureDirectory ⟨"build/js"⟩ = (.ok (), opened) := by cbv

theorem opens_opened : opened.Opens ⟨"build/js"⟩ [octets "build", octets "js"] := by
  have sound : pathFault? ⟨"build/js"⟩ = none := rfl
  have walked : opened.walk .followed 40 [] [octets "build", octets "js"] =
      .ok ⟨[octets "build", octets "js"], some .directory⟩ := by cbv
  exact .path ((resolve_of_sound sound).trans walked)

theorem run_finalize_terse :
    ((finalize "a" "abc" ⟨"build/js"⟩ terse).run ⟨tree, []⟩).1 = .ok finalized := by
  have straight : ∀ p, ¬ opened.IsLink p := by
    intro p
    have unlinked := not_isLink_of_ensureDirectory unlinked_tree ⟨"build/js"⟩ p
    rwa [ensureDirectory_opened] at unlinked
  have free : ∀ name ∈ artifactNames "a",
      opened.writeFault? ⟨"build/js"⟩ [octets "build", octets "js"] name = none := by decide
  rw [Attempt.run_fst, effect_finalize_ok ensureDirectory_opened opens_opened (by decide)
    (fun name _ => straight _) rfl free, Digest.sha256_abc]
  rfl

theorem finalization_is_faithful_made :
    (∀ name ∈ artifactNames "a",
        ¬ (tree.ensureDirectory ⟨"build/js"⟩).2.IsLink (Path.child ⟨"build/js"⟩ name)) ∧
      ((finalize "a" "abc" ⟨"build/js"⟩ terse).run ⟨tree, []⟩).1 = .ok finalized ∧
      ∃ u, ((finalize "a" "abc" ⟨"build/js"⟩ terse).run ⟨tree, []⟩).2.files = u ∧
        Confined (fun p => ∃ name ∈ artifactNames "a", p = Path.child ⟨"build/js"⟩ name)
          (fun p => p = ⟨"build/js"⟩) tree u ∧
        u.HoldsText ⟨"build/js/a.js"⟩ "abc" ∧
        u.HoldsText ⟨"build/js/a.min.js"⟩ "c\n//# sourceMappingURL=a.min.js.map\n" ∧
        u.HoldsText ⟨"build/js/a.min.js.map"⟩ "m" := by
  have straight : ∀ name ∈ artifactNames "a",
      ¬ (tree.ensureDirectory ⟨"build/js"⟩).2.IsLink (Path.child ⟨"build/js"⟩ name) :=
    fun _ _ => not_isLink_of_ensureDirectory unlinked_tree _ _
  obtain ⟨confined, made, -⟩ :=
    finalization_is_faithful "a" "abc" ⟨"build/js"⟩ terse ⟨tree, []⟩ straight
  obtain ⟨minified, taken, done⟩ := made finalized run_finalize_terse
  obtain rfl : Minified.mk "c" "m" = minified := Except.ok.inj taken
  obtain ⟨text, held, trailed⟩ := done.minText
  obtain rfl : text = "c\n//# sourceMappingURL=a.min.js.map\n" :=
    (trailed_iff.mp trailed).trans (by decide)
  exact ⟨straight, run_finalize_terse, _, rfl, confined, done.fullText, held, done.mapText⟩

end Sample

end ReleaseBundle
