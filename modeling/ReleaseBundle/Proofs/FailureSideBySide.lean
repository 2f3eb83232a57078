import ReleaseBundle.Proofs.Confinement
import ReleaseBundle.Proofs.FirstFailure

/-!
# Failing side by side

A build that fails leaves one tree side by side and another in turn.  In turn it ends with
the first module that fails; side by side every module goes on to its own end before
the failure is told.  For separate modules this is all the difference there is
(`failed_builds_part_behind_failure`): the trees are the same but for the artifacts of the
modules behind the first that fails.  There a build in turn has written nothing, and
side by side is what each of these modules makes alone.
-/

namespace ReleaseBundle

namespace Settings

open FileSystem Program

variable {s : Settings} {minify : Minifier} {bundles before after : List Bundle} {b k : Bundle}
  {t t₁ u v : FileSystem} {artifacts : List Artifacts} {e : BuildError}

/-! ## Modules in turns -/

/-- In a directory that cannot be looked into, no pipeline can change anything. -/
theorem Separate.idle (separate : s.Separate bundles t)
    (made : t.ensureDirectory s.outputDir = (.ok (), t))
    (closed : ¬ ∃ home, t.Opens s.outputDir home) (r : Request)
    (within : r.Within (s.ArtifactPath bundles) fun dir => dir = s.outputDir) :
    (t.answer r).2 = t := by
  have lost : ∀ {path l}, s.ArtifactPath bundles path → ¬ t.LeadsTo path l := by
    rintro _ l ⟨b, mem, name, artifact, rfl⟩ leads
    obtain ⟨home, opens, -⟩ := separate.exists_home made mem artifact leads
    exact closed ⟨home, opens⟩
  cases r with
  | readText => rfl
  | isFile => rfl
  | visitsFrom => rfl
  | note => rfl
  | ensureDirectory path =>
    obtain rfl : path = s.outputDir := within
    exact congrArg Prod.snd made
  | writeText path text =>
    obtain ⟨l, -, found, -⟩ | ⟨cause, outcome⟩ := writeBytes_cases t path text.toUTF8
    · exact absurd ⟨_, resolve_followed_of_asFile found⟩ (lost within)
    · exact congrArg Prod.snd outcome
  | copy source target =>
    obtain ⟨-, -, l, -, -, found, -⟩ | ⟨cause, outcome, -⟩ := copy_cases t source target
    · exact absurd ⟨_, found⟩ (lost within)
    · exact congrArg Prod.snd outcome

/-- What separate modules come to in the turns of a schedule: the results are alike those in
sequence, each artifact is what its module makes of it alone, and there is nothing else. -/
structure Undisturbed (s : Settings) (minify : Minifier) (bundles : List Bundle) (t : FileSystem)
    (schedule : Schedule) : Prop where
  results : List.Forall₂ (SameOutcome (BuildError.Alike (s.Blocked bundles t)))
    ((interleave schedule (s.pipelines minify bundles)).effect t).1
    ((inSequence (s.pipelines minify bundles)).effect t).1
  alone : ∀ b ∈ bundles, AgreeOn (b.Places s.outputDir t)
    ((interleave schedule (s.pipelines minify bundles)).effect t).2
    ((s.pipeline minify b).effect t).2
  others : AgreeOn (fun l => ¬ s.Places bundles t l) t
    ((interleave schedule (s.pipelines minify bundles)).effect t).2

theorem Separate.undisturbed (separate : s.Separate bundles t)
    (made : t.ensureDirectory s.outputDir = (.ok (), t)) (minify : Minifier)
    (schedule : Schedule) : s.Undisturbed minify bundles t schedule := by
  by_cases opens : ∃ home, t.Opens s.outputDir home
  · obtain ⟨home, opens⟩ := opens
    refine ⟨interleave_alike minify separate opens schedule [], fun b mem => ?_, fun l free => ?_⟩
    · obtain ⟨i, inside, rfl⟩ := List.getElem_of_mem mem
      exact (interleave_pipeline minify separate opens schedule
        (List.getElem?_eq_getElem inside)).2
    · obtain ⟨-, same⟩ := interleave_keeps schedule (apart_pipelines minify separate opens)
        (.refl t)
      exact same l fun i _ ⟨b, at_i, place⟩ => free ⟨b, List.mem_of_getElem? at_i, place⟩
  · have within : ∀ p ∈ s.pipelines minify bundles,
        p.Within (s.ArtifactPath bundles) fun dir => dir = s.outputDir := by
      intro p mem
      obtain ⟨b, listed, rfl⟩ := List.mem_map.mp mem
      exact within_pipeline rfl fun name artifact => ⟨b, listed, name, artifact, rfl⟩
    have idle := separate.idle made opens
    have ran := fun turns => interleave_of_idle idle turns within
    refine ⟨?_, fun b mem => ?_, ?_⟩
    · rw [← interleave_nil, ran, ran]
      exact List.forall₂_same.mpr fun result _ => .refl .same result
    · have kept := effect_of_idle idle (within _ (List.mem_map_of_mem mem))
      rw [ran, Attempt.effect, kept]
      exact .refl _ t
    · rw [ran]
      exact .refl _ t

/-- Up to the first failure, modules are built as if no others followed. -/
theorem effect_inSequence_of_stop
    (built : (s.buildInTurn minify before).effect t = (.ok artifacts, u))
    (failed : (s.pipeline minify k).effect u = (.error e, v)) :
    ((inSequence (s.pipelines minify (before ++ [k]))).effect t).2 = v := by
  induction before generalizing t artifacts with
  | nil =>
    cases built
    rw [Attempt.effect] at failed
    simp only [List.nil_append, pipelines, List.map_cons, List.map_nil, inSequence, effect_bind,
      failed]
    rfl
  | cons b before ih =>
    obtain ⟨a, more, t', rfl, first, rest⟩ := effect_buildInTurn_cons_iff.mp built
    have later := ih rest
    rw [Attempt.effect] at first
    rw [pipelines] at later ⊢
    simp only [List.cons_append, List.map_cons, inSequence, effect_bind, first]
    exact later

/-! ## Both builds -/

/-- The settings with modules built side by side, or in turn. -/
def withParallel (s : Settings) (parallel : Bool) : Settings := { s with parallel }

theorem buildInTurn_withParallel (s : Settings) (parallel : Bool) (minify : Minifier)
    (bundles : List Bundle) :
    (s.withParallel parallel).buildInTurn minify bundles = s.buildInTurn minify bundles := by
  induction bundles with
  | nil => rfl
  | cons b bundles ih =>
    rw [buildInTurn, buildInTurn, ih]
    rfl

/-- How the trees of two builds part that failed, one side by side and one in turn: `after` are
the modules behind the first that fails, and `t` is the tree with the output directory. -/
structure Parted (s : Settings) (minify : Minifier) (after : List Bundle)
    (t side turn : FileSystem) : Prop where
  same : ∀ l, ¬ s.Places after t l → side.lookup? l = turn.lookup? l
  turn : ∀ l, s.Places after t l → turn.lookup? l = t.lookup? l
  side : ∀ b ∈ after, ∀ l, b.Places s.outputDir t l →
    side.lookup? l = ((s.pipeline minify b).effect t).2.lookup? l

theorem parted_of_effect (schedule : Schedule) (separate : s.Separate (before ++ k :: after) t)
    (made : t.ensureDirectory s.outputDir = (.ok (), t))
    (built : (s.buildInTurn minify before).effect t = (.ok artifacts, u))
    (failed : (s.pipeline minify k).effect u = (.error e, v)) :
    s.Parted minify after t
      ((interleave schedule (s.pipelines minify (before ++ k :: after))).effect t).2 v := by
  have split : before ++ k :: after = (before ++ [k]) ++ after := by simp
  rw [split] at separate ⊢
  have whole := separate.undisturbed made minify schedule
  have part := (separate.sublist (List.sublist_append_left (before ++ [k]) after)).undisturbed made
    minify []
  have tree := effect_inSequence_of_stop built failed
  obtain ⟨-, alone, others⟩ := part
  rw [interleave_nil, tree] at alone others
  constructor
  · intro l free
    by_cases early : s.Places (before ++ [k]) t l
    · obtain ⟨b, mem, place⟩ := early
      exact (whole.alone b (List.mem_append_left after mem) l place).trans
        (alone b mem l place).symm
    · refine (whole.others l ?_).symm.trans (others l early)
      rintro ⟨b, mem, place⟩
      rcases List.mem_append.mp mem with mem | mem
      · exact early ⟨b, mem, place⟩
      · exact free ⟨b, mem, place⟩
  · intro l place
    exact (others l (separate.not_places made place)).symm
  · intro b mem l place
    exact whole.alone b (List.mem_append_right (before ++ [k]) mem) l place

theorem failed_of_effect (schedule schedule' : Schedule)
    (resolved : Bundle.ofModules s.groups s.modules = .ok (before ++ k :: after))
    (ensured : t.ensureDirectory s.outputDir = (.ok (), t₁))
    (separate : s.Separate (before ++ k :: after) t₁)
    (built : (s.buildInTurn minify before).effect t₁ = (.ok artifacts, u))
    (failed : (s.pipeline minify k).effect u = (.error e, v)) :
    ((s.withParallel false).build minify schedule').effect t = (.error e, v) ∧
      ∃ e' v', ((s.withParallel true).build minify schedule).effect t = (.error e', v') ∧
        BuildError.Alike (s.Blocked (before ++ k :: after) t₁) e' e ∧
        s.Parted minify after t₁ v' v := by
  have made : t₁.ensureDirectory s.outputDir = (.ok (), t₁) :=
    ensureDirectory_of_grown ensured (.refl t₁ (W := fun _ => True) (M := fun _ => True))
  have stopped := buildInTurn_stops built failed after
  constructor
  · refine effect_build_error resolved ensured ?_
    rw [if_neg (by simp [withParallel]), buildInTurn_withParallel, stopped]
  -- Side by side, the first failure is alike, since all results are.
  have related := SameOutcome.firstFailure (separate.undisturbed made minify schedule).results
  rw [← (effect_buildInTurn s minify _ t₁).1, stopped] at related
  obtain ⟨e', first, alike⟩ : ∃ e', firstFailure ((interleave schedule
      (s.pipelines minify (before ++ k :: after))).effect t₁).1 = .error e' ∧
        BuildError.Alike (s.Blocked (before ++ k :: after) t₁) e' e := by
    generalize firstFailure _ = result at related ⊢
    cases related with
    | error alike => exact ⟨_, rfl, alike⟩
  refine ⟨e', _, effect_build_error resolved ensured ?_, alike,
    parted_of_effect schedule separate made built failed⟩
  rw [if_pos (by simp [withParallel]), ← first]
  exact effect_buildSideBySide schedule t₁

/-- **Builds that fail part behind the failure.**  If a build of separate modules fails in turn,
it fails side by side as well, in any turns, and with the same failure but for the reason
why a source is missing, if its path runs through the place of an artifact.  The trees are
the same but for the artifacts of the modules behind the first that fails: those are left
alone in turn, and are side by side what each of these modules makes of them alone. -/
theorem failed_builds_part_behind_failure (s : Settings) (minify : Minifier)
    (schedule schedule' : Schedule) (w : World) (before after : List Bundle) (k : Bundle)
    (artifacts : List Artifacts) (e : BuildError) (t₁ u : FileSystem)
    (resolved : Bundle.ofModules s.groups s.modules = .ok (before ++ k :: after))
    (ensured : w.files.ensureDirectory s.outputDir = (.ok (), t₁))
    (separate : s.Separate (before ++ k :: after) t₁)
    (built : (s.buildInTurn minify before).effect t₁ = (.ok artifacts, u))
    (failed : ((s.pipeline minify k).effect u).1 = .error e) :
    (((s.withParallel false).build minify schedule').run w).1 = .error e ∧
      (∃ e', (((s.withParallel true).build minify schedule).run w).1 = .error e' ∧
        BuildError.Alike (s.Blocked (before ++ k :: after) t₁) e' e) ∧
      s.Parted minify after t₁ (((s.withParallel true).build minify schedule).run w).2.files
        (((s.withParallel false).build minify schedule').run w).2.files := by
  obtain ⟨turn, e', v', side, alike, parted⟩ := failed_of_effect schedule schedule' resolved
    ensured separate built (Attempt.effect_of_fst failed)
  simp only [Attempt.run_fst, Attempt.files_run, turn, side]
  exact ⟨trivial, ⟨e', rfl, alike⟩, parted⟩

end Settings

/-! ## The writer behind the reader -/

namespace Sample

open FileSystem

/-- The reader fails at once, in the tree as it is. -/
theorem effect_reader_tree : (race.pipeline refusing reader).effect tree =
    (.error (.missingSource ⟨"./build/a.js/x"⟩ .notFound), tree) := by
  have missing : tree.readText ⟨"./build/a.js/x"⟩ = .error .notFound := by
    rw [readText, readBytes, resolve_below]
    rfl
  exact effect_reader holds_source missing

theorem failed_builds_part_behind_failure_reader :
    Bundle.ofModules race.groups race.modules = .ok ([] ++ reader :: [writer]) ∧
      tree.ensureDirectory race.outputDir = (.ok (), tree) ∧
      race.Separate ([] ++ reader :: [writer]) tree ∧
      (race.buildInTurn refusing []).effect tree = (.ok [], tree) ∧
      ((race.pipeline refusing reader).effect tree).1 =
        .error (.missingSource ⟨"./build/a.js/x"⟩ .notFound) ∧
      race.Parted refusing [writer] tree
        (((race.withParallel true).build refusing [0, 1, 1]).run ⟨tree, []⟩).2.files
        (((race.withParallel false).build refusing []).run ⟨tree, []⟩).2.files := by
  have failed := congrArg Prod.fst effect_reader_tree
  have parted := race.failed_builds_part_behind_failure refusing [0, 1, 1] [] ⟨tree, []⟩ []
    [writer] reader [] _ tree tree rfl opens.ensureDirectory separate rfl failed
  exact ⟨rfl, opens.ensureDirectory, separate, rfl, failed, parted.2.2⟩

/-- **Builds that fail can leave different trees**: behind the reader, the writer has written
its script side by side, and nothing in turn. -/
theorem failed_builds_can_differ :
    ¬ ∀ (s : Settings) (minify : Minifier) (schedule schedule' : Schedule) (w : World)
        (bundles : List Bundle) (t₁ : FileSystem),
      Bundle.ofModules s.groups s.modules = .ok bundles →
        w.files.ensureDirectory s.outputDir = (.ok (), t₁) → s.Separate bundles t₁ →
          (∃ b ∈ bundles, ∃ e, ((s.pipeline minify b).effect t₁).1 = .error e) →
            ∀ l, (((s.withParallel true).build minify schedule).run w).2.files.lookup? l =
              (((s.withParallel false).build minify schedule').run w).2.files.lookup? l := by
  intro same
  have equal := same race refusing [] [] ⟨tree, []⟩ [reader, writer] tree rfl
    opens.ensureDirectory separate
    ⟨reader, List.mem_cons_self, _, congrArg Prod.fst effect_reader_tree⟩
    ([octets "build"] ++ [octets (fullName "a")])
  have resolved : Bundle.ofModules race.groups race.modules = .ok ([] ++ reader :: [writer]) := rfl
  obtain ⟨turn, e', v', side, -, parted⟩ := Settings.failed_of_effect [] [] resolved
    opens.ensureDirectory separate rfl effect_reader_tree
  obtain ⟨script, wrote⟩ := exists_effect_writer
  have place : writer.Places race.outputDir tree ([octets "build"] ++ [octets (fullName "a")]) :=
    (separate.places_iff opens (by simp)).mpr ⟨_, List.mem_cons_self, rfl, rfl⟩
  have there := parted.side writer List.mem_cons_self _ place
  rw [wrote, written] at there
  simp only [Attempt.files_run, turn, side] at equal
  have script_there : (tree.put [octets "build", octets "a.js"] (.file script)).lookup?
      ([octets "build"] ++ [octets (fullName "a")]) = some (.file script) := by
    rw [lookup?_put _ (by simp)]
    exact if_pos rfl
  have nothing : tree.lookup? ([octets "build"] ++ [octets (fullName "a")]) = none := by
    rw [lookup?_tree]
    decide
  rw [there, script_there, nothing] at equal
  cases equal

end Sample

end ReleaseBundle
