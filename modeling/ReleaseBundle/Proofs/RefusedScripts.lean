import ReleaseBundle.Proofs.Finalization

/-!
# Scripts that the minifier refuses

The full script is written before it is minified, so a script that is refused can be looked at.
The minified script and the map are not written then.  But they are not taken away either: where
an earlier finalization has left them, they stay, beside the full script of another text
(`Sample.refused_script_can_stand_beside_minified`).

This is all that a refused script leaves: the full script is there, the two others are what they
were, and nothing else has changed (`refused_script_is_left_alone`).
-/

namespace ReleaseBundle

open FileSystem

variable {module script reason : String} {outDir : Path} {minify : Minifier} {t u v : FileSystem}

/-- What is there of a module's artifacts when its script has been refused, if they were those of
`t` when there was the directory. -/
structure LeftAlone (module script : String) (outDir : Path) (t u : FileSystem) : Prop where
  full : u.HoldsText (outDir.child (octets (module ++ ".js"))) script
  /-- Nothing has changed but the full script, where its path leads. -/
  only : ∃ l, t.LeadsTo (outDir.child (octets (module ++ ".js"))) l ∧ Written (fun k => k = l) t u
  /-- The others are what they were, or links make them the full script. -/
  others : ∀ name, name = module ++ ".min.js" ∨ name = module ++ ".min.js.map" →
    u.node? (outDir.child name) = t.node? (outDir.child name) ∨
      (t.IsLink (outDir.child (octets (module ++ ".js"))) ∨ t.IsLink (outDir.child name)) ∧
        u.node? (outDir.child name) = u.node? (outDir.child (octets (module ++ ".js")))

/-- A script is refused when it has been written. -/
theorem effect_finalize_of_refused (made : t.ensureDirectory outDir = (.ok (), u))
    (wrote : (writeFile (outDir.child (fullName module)) script).effect u = (.ok (), v))
    (refused : minify script (fullName module) = .error reason) :
    (finalize module script outDir minify).effect t =
      (.error (.rejectedScript (fullName module) reason), v) := by
  rw [finalize, Attempt.effect_bind_ok (effect_ensureDirectory made), Attempt.effect_bind_ok wrote,
    refused]
  rfl

/-- No writing tells of a refused script: what comes after it does. -/
theorem exists_of_writeFile_bind {path : Path} {text label : String}
    {next : Unit → Build Artifacts}
    (failed : (writeFile path text >>= next).effect t =
      (.error (.rejectedScript label reason), v)) :
    ∃ u, (writeFile path text).effect t = (.ok (), u) ∧
      (next ()).effect u = (.error (.rejectedScript label reason), v) := by
  obtain ⟨cause, stuck⟩ | ⟨-, u, wrote, -⟩ := writeFile_cases t path text
  · rw [Attempt.effect_bind_error stuck] at failed
    cases failed
  · rw [Attempt.effect_bind_ok wrote] at failed
    exact ⟨u, wrote, failed⟩

/-- A finalization that tells of a refused script has made the directory and written the full
script. -/
theorem exists_of_refused {label : String}
    (failed : (finalize module script outDir minify).effect t =
      (.error (.rejectedScript label reason), v)) :
    label = fullName module ∧ minify script (fullName module) = .error reason ∧
      ∃ u, t.ensureDirectory outDir = (.ok (), u) ∧
        (writeFile (outDir.child (fullName module)) script).effect u = (.ok (), v) := by
  rcases made : t.ensureDirectory outDir with ⟨cause | ⟨⟩, u⟩
  · rw [effect_finalize_of_unmade made] at failed
    cases failed
  rw [finalize, Attempt.effect_bind_ok (effect_ensureDirectory made)] at failed
  obtain ⟨v', wrote, failed⟩ := exists_of_writeFile_bind failed
  cases minified : minify script (fullName module) with
  | error reason' =>
    rw [minified] at failed
    cases failed
    exact ⟨rfl, rfl, u, rfl, wrote⟩
  | ok minified' =>
    rw [minified] at failed
    dsimp only at failed
    obtain ⟨_, -, failed⟩ := exists_of_writeFile_bind failed
    obtain ⟨_, -, failed⟩ := exists_of_writeFile_bind failed
    rw [Attempt.effect_bind_ok (Attempt.effect_note _ _)] at failed
    cases failed

/-- **A refused script is left alone.**  If a finalization tells of a refused script, it is the
minifier that has refused it.  The directory has been made, and the full script is in its place,
whatever was there.  Nothing else has changed: a minified script or a map is there exactly if one
was there before. -/
theorem refused_script_is_left_alone (module script : String) (outDir : Path) (minify : Minifier)
    (w : World) (label reason : String)
    (refused : ((finalize module script outDir minify).run w).1 =
      .error (.rejectedScript label reason)) :
    label = module ++ ".js" ∧ minify script (module ++ ".js") = .error reason ∧
      ∃ made, w.files.ensureDirectory outDir = (.ok (), made) ∧
        Grown (fun _ => False) (made.Along outDir.lineage) w.files made ∧
        LeftAlone module script outDir made
          ((finalize module script outDir minify).run w).2.files := by
  obtain ⟨rfl, minified, made, opened, wrote⟩ := exists_of_refused (Attempt.effect_of_run refused)
  refine ⟨rfl, minified, made, opened, grown_ensureAll opened, ?_⟩
  obtain ⟨cause, stuck⟩ | ⟨l, v, wrote', leads, written, held⟩ :=
    writeFile_cases made (outDir.child (fullName module)) script
  · cases wrote.symm.trans stuck
  · cases wrote.symm.trans wrote'
    refine ⟨held, ⟨l, leads, written⟩, fun name other => ?_⟩
    have artifact : name ∈ artifactNames module := mem_artifactNames_iff.mpr (Or.inr other)
    have ne : name ≠ fullName module := by
      rcases other with rfl | rfl
      · exact (Settings.fullName_ne_minName module).symm
      · exact Settings.mapName_ne_fullName module
    exact node?_of_other_artifact (Settings.mem_artifactNames_self module) artifact ne leads written

namespace Sample

/-- The tree with a minified script that an earlier finalization has left. -/
def stale : FileSystem := tree.put [octets "build", octets "a.min.js"] (.file "old".toUTF8)

theorem written_stale : Written (fun _ => True) tree stale :=
  grown_put_file trivial _ (Or.inl (lookup?_tree _))

theorem opens_stale : stale.Opens ⟨"./build"⟩ [octets "build"] := opens.grown written_stale

theorem not_isLink_stale (p : Path) : ¬ stale.IsLink p :=
  not_isLink_written written_stale (not_isLink p)

theorem mem_minName : minName "a" ∈ artifactNames "a" := List.mem_cons_of_mem _ List.mem_cons_self

theorem holds_stale : stale.HoldsText (Path.child ⟨"./build"⟩ (minName "a")) "old" := by
  have no_slash : '/' ∉ "a".toList := by decide
  have plain : Path.IsName (octets (minName "a")) := isName_artifact no_slash mem_minName
  have sound : childFault? ⟨"./build"⟩ (minName "a") = none := rfl
  rw [HoldsText, opens_stale.node?_child plain sound (not_isLink_stale _), stale,
    lookup?_put _ (by simp)]
  rfl

/-- The script is refused when it has been written, beside the minified script of another. -/
theorem exists_effect_refused :
    ∃ u, (finalize "a" "x" ⟨"./build"⟩ refusing).effect stale =
        (.error (.rejectedScript (fullName "a") "refused"), u) ∧
      u.HoldsText (Path.child ⟨"./build"⟩ (minName "a")) "old" := by
  have plain : Path.IsName (octets (fullName "a")) := isName_artifact (by decide) List.mem_cons_self
  have free : stale.writeFault? ⟨"./build"⟩ [octets "build"] (fullName "a") = none := by
    have sound : childFault? ⟨"./build"⟩ (fullName "a") = none := rfl
    rw [writeFault?_written written_stale, writeFault?, sound, lookup?_tree]
    decide
  obtain ⟨u, wrote, -⟩ := exists_effect_writeFile opens_stale plain (not_isLink_stale _) free "x"
  refine ⟨u, effect_finalize_of_refused opens_stale.ensureDirectory wrote rfl, ?_⟩
  obtain ⟨cause, stuck⟩ | ⟨l, v, wrote', leads, written, -⟩ :=
    writeFile_cases stale (Path.child ⟨"./build"⟩ (fullName "a")) "x"
  · cases wrote.symm.trans stuck
  · cases wrote.symm.trans wrote'
    have other : minName "a" ≠ fullName "a" := (Settings.fullName_ne_minName "a").symm
    obtain kept | ⟨link, -⟩ :=
      node?_of_other_artifact (Settings.mem_artifactNames_self "a") mem_minName other leads written
    · exact kept.trans holds_stale
    · exact (link.elim (not_isLink_stale _) (not_isLink_stale _)).elim

theorem run_refused : ((finalize "a" "x" ⟨"./build"⟩ refusing).run ⟨stale, []⟩).1 =
    .error (.rejectedScript "a.js" "refused") := by
  obtain ⟨u, failed, -⟩ := exists_effect_refused
  rw [Attempt.run_fst, failed]
  rfl

theorem refused_script_is_left_alone_stale :
    ((finalize "a" "x" ⟨"./build"⟩ refusing).run ⟨stale, []⟩).1 =
        .error (.rejectedScript "a.js" "refused") ∧
      "a.js" = "a" ++ ".js" ∧ refusing "x" ("a" ++ ".js") = .error "refused" ∧
      ∃ made, stale.ensureDirectory ⟨"./build"⟩ = (.ok (), made) ∧
        Grown (fun _ => False) (made.Along (Path.lineage ⟨"./build"⟩)) stale made ∧
        LeftAlone "a" "x" ⟨"./build"⟩ made
          ((finalize "a" "x" ⟨"./build"⟩ refusing).run ⟨stale, []⟩).2.files :=
  ⟨run_refused, refused_script_is_left_alone "a" "x" ⟨"./build"⟩ refusing ⟨stale, []⟩ "a.js"
    "refused" run_refused⟩

/-- **A refused script can stand beside a minified one**, namely that of another text, which an
earlier finalization has left. -/
theorem refused_script_can_stand_beside_minified :
    ¬ ∀ (module script : String) (outDir : Path) (minify : Minifier) (w : World)
        (label reason : String),
      ((finalize module script outDir minify).run w).1 = .error (.rejectedScript label reason) →
        ((finalize module script outDir minify).run w).2.files.HoldsText
            (outDir.child (octets (module ++ ".js"))) script ∧
          ((finalize module script outDir minify).run w).2.files.node?
            (outDir.child (octets (module ++ ".min.js"))) = none ∧
          ((finalize module script outDir minify).run w).2.files.node?
            (outDir.child (octets (module ++ ".min.js.map"))) = none := by
  intro alone
  obtain ⟨u, failed, held⟩ := exists_effect_refused
  obtain ⟨-, no_min, -⟩ := alone "a" "x" ⟨"./build"⟩ refusing ⟨stale, []⟩ _ _ run_refused
  rw [Attempt.files_run, failed] at no_min
  cases held.symm.trans no_min

end Sample

end ReleaseBundle
