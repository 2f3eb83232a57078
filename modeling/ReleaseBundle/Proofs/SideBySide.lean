import Mathlib
import ReleaseBundle.Proofs.AssembledScript
import ReleaseBundle.Proofs.Pipelines

/-!
# Building side by side

Modules that are built side by side, in any turns, come to what they come to one
after the other (`buildSideBySide_agrees`): the same artifacts with the same bytes,
or the first failure in the order of the modules, whichever failed first in time.

The failures are the same to the letter but for one case.  A source that would lie
below the place of an artifact (`build/a.js/x`) is missing either way; it is "not found"
before the artifact is written and "not a directory" afterwards, so the reason
hangs on the turns.
-/

namespace ReleaseBundle

theorem BuildError.Alike.symm {blocked : Path → Prop} {e e' : BuildError}
    (h : Alike blocked e e') : Alike blocked e' e := by
  cases h with
  | same => exact .same _
  | blocked h lost lost' => exact .blocked h lost' lost

theorem BuildError.Alike.trans {blocked : Path → Prop} {e e' e'' : BuildError}
    (h : Alike blocked e e') (h' : Alike blocked e' e'') : Alike blocked e e'' := by
  cases h with
  | same => exact h'
  | blocked h lost lost' =>
    cases h' with
    | same => exact .blocked h lost lost'
    | blocked _ _ lost'' => exact .blocked h lost lost''

namespace SameOutcome

variable {α β : Type} {blocked : Path → Prop} {x y z : Except BuildError α}

theorem map {rel : BuildError → BuildError → Prop} (f : α → β) (h : SameOutcome rel x y) :
    SameOutcome rel (f <$> x) (f <$> y) := by
  cases h with
  | ok a => exact .ok (f a)
  | error related => exact .error related

theorem trans_symm (h : SameOutcome (BuildError.Alike blocked) x z)
    (h' : SameOutcome (BuildError.Alike blocked) y z) :
    SameOutcome (BuildError.Alike blocked) x y := by
  cases h with
  | ok a =>
    cases h'
    exact .ok a
  | error related =>
    cases h' with
    | error related' => exact .error (related.trans related'.symm)

theorem firstFailure {results results' : List (Except BuildError α)}
    (h : List.Forall₂ (SameOutcome (BuildError.Alike blocked)) results results') :
    SameOutcome (BuildError.Alike blocked) (firstFailure results)
      (ReleaseBundle.firstFailure results') := by
  induction h with
  | nil => exact .ok []
  | cons head _ ih =>
    cases head with
    | error related => exact .error related
    | ok a => exact ih.map (a :: ·)

end SameOutcome

namespace Settings

open FileSystem Program

variable {s : Settings} {minify : Minifier} {bundles : List Bundle} {t : FileSystem}
  {home : Location}

/-- The pipelines of bundles, as programs. -/
def pipelines (s : Settings) (minify : Minifier) (bundles : List Bundle) :
    List (Program (Except BuildError Artifacts)) :=
  bundles.map fun b => (s.pipeline minify b).outcome

/-- What the pipelines own, by number. -/
def owns (s : Settings) (bundles : List Bundle) (t : FileSystem) (i : Nat) (l : Location) : Prop :=
  ∃ b, bundles[i]? = some b ∧ b.Places s.outputDir t l

theorem owns_eq {i : Nat} {b : Bundle} (at_i : bundles[i]? = some b) :
    s.owns bundles t i = b.Places s.outputDir t := by
  funext l
  simp [owns, at_i]

theorem effect_buildSideBySide (schedule : Schedule) (t : FileSystem) :
    (s.buildSideBySide minify schedule bundles).effect t =
      (firstFailure ((interleave schedule (s.pipelines minify bundles)).effect t).1,
        ((interleave schedule (s.pipelines minify bundles)).effect t).2) := by
  rw [Attempt.effect, buildSideBySide, Attempt.outcome]
  exact effect_bind _ _ t

/-- Up to the first failure, modules are built as if there were none. -/
theorem effect_buildInTurn (s : Settings) (minify : Minifier) (bundles : List Bundle)
    (t : FileSystem) :
    ((s.buildInTurn minify bundles).effect t).1 =
        firstFailure ((inSequence (s.pipelines minify bundles)).effect t).1 ∧
      ∀ artifacts, ((s.buildInTurn minify bundles).effect t).1 = .ok artifacts →
        ((s.buildInTurn minify bundles).effect t).2 =
          ((inSequence (s.pipelines minify bundles)).effect t).2 := by
  induction bundles generalizing t with
  | nil => exact ⟨rfl, fun _ _ => rfl⟩
  | cons b bundles ih =>
    have sequence : (inSequence (s.pipelines minify (b :: bundles))).effect t =
        let first := (s.pipeline minify b).effect t
        let rest := (inSequence (s.pipelines minify bundles)).effect first.2
        (first.1 :: rest.1, rest.2) := by
      rw [pipelines, List.map_cons, inSequence, effect_bind, effect_bind]
      rfl
    rw [sequence]
    -- If the first module fails, the others are not built, or else their results do not count.
    rcases first : (s.pipeline minify b).effect t with ⟨_ | a, u⟩
    · rw [buildInTurn, Attempt.effect_bind_error first]
      exact ⟨rfl, fun _ failed => by cases failed⟩
    · obtain ⟨same, files⟩ := ih u
      rw [buildInTurn, Attempt.effect_bind_ok first]
      dsimp only
      rw [firstFailure, ← same]
      rcases rest : (s.buildInTurn minify bundles).effect u with ⟨_ | more, v⟩
      · rw [Attempt.effect_bind_error rest]
        exact ⟨rfl, fun _ failed => by cases failed⟩
      · rw [Attempt.effect_bind_ok rest]
        rw [rest] at files
        exact ⟨rfl, fun _ _ => files more rfl⟩

section

variable (minify) (separate : s.Separate bundles t) (opens : t.Opens s.outputDir home)

include separate opens

theorem apart_pipelines :
    Apart (s.Underway bundles t) (s.owns bundles t)
      (SameOutcome (BuildError.Alike (s.Blocked bundles t))) (s.pipelines minify bundles) := by
  intro i p found
  rw [pipelines, List.getElem?_map] at found
  obtain ⟨b, at_i, rfl⟩ := Option.map_eq_some_iff.mp found
  rw [owns_eq at_i]
  exact steady_pipeline separate opens (List.mem_of_getElem? at_i)

/-- **What the turns do not change**: each module's result, up to why a source is
missing, and its artifacts. -/
theorem interleave_pipeline (schedule : Schedule) {i : Nat} {b : Bundle}
    (at_i : bundles[i]? = some b) :
    (∃ result, ((interleave schedule (s.pipelines minify bundles)).effect t).1[i]? = some result ∧
        SameOutcome (BuildError.Alike (s.Blocked bundles t)) result
          ((s.pipeline minify b).effect t).1) ∧
      AgreeOn (b.Places s.outputDir t)
        ((interleave schedule (s.pipelines minify bundles)).effect t).2
        ((s.pipeline minify b).effect t).2 := by
  have program : (s.pipelines minify bundles)[i]? = some (s.pipeline minify b).outcome := by
    rw [pipelines, List.getElem?_map, at_i, Option.map_some]
  rw [← owns_eq (s := s) (t := t) at_i]
  refine result_of_interleave schedule (apart_pipelines minify separate opens) ?_ (.refl t)
    (.refl t) program ?_ (.refl _ t)
  · rintro j l ⟨b', at_i', own⟩ ⟨c, at_j, other⟩
    exact separate.eq_of_places opens at_i' at_j own other
  · rw [owns_eq at_i]
    exact steady_pipeline separate opens (List.mem_of_getElem? at_i)

/-- The results of two schedules are alike, one by one. -/
theorem interleave_alike (schedule schedule' : Schedule) :
    List.Forall₂ (SameOutcome (BuildError.Alike (s.Blocked bundles t)))
      ((interleave schedule (s.pipelines minify bundles)).effect t).1
      ((interleave schedule' (s.pipelines minify bundles)).effect t).1 := by
  refine List.forall₂_iff_get.mpr ⟨by simp only [length_interleave], fun i hi hi' => ?_⟩
  have inside : i < bundles.length := by simpa [length_interleave, pipelines] using hi
  have at_i : bundles[i]? = some bundles[i] := List.getElem?_eq_getElem inside
  obtain ⟨⟨result, there, alike⟩, -⟩ := interleave_pipeline minify separate opens schedule at_i
  obtain ⟨⟨result', there', alike'⟩, -⟩ := interleave_pipeline minify separate opens schedule' at_i
  rw [List.getElem?_eq_getElem hi] at there
  rw [List.getElem?_eq_getElem hi'] at there'
  cases there
  cases there'
  exact alike.trans_symm alike'

/-- The files after two schedules are the same. -/
theorem interleave_files (schedule schedule' : Schedule) (l : Location) :
    ((interleave schedule (s.pipelines minify bundles)).effect t).2.lookup? l =
      ((interleave schedule' (s.pipelines minify bundles)).effect t).2.lookup? l := by
  -- A location that is owned has what its owner makes of it alone; others are as at the start.
  by_cases owned : ∃ i, s.owns bundles t i l
  · obtain ⟨i, b, at_i, place⟩ := owned
    have files := (interleave_pipeline minify separate opens schedule at_i).2 l place
    have files' := (interleave_pipeline minify separate opens schedule' at_i).2 l place
    exact files.trans files'.symm
  · have free : ∀ i < (s.pipelines minify bundles).length, ¬ s.owns bundles t i l :=
      fun i _ own => owned ⟨i, own⟩
    have apart := apart_pipelines minify separate opens
    obtain ⟨-, same⟩ := interleave_keeps schedule apart (.refl t)
    obtain ⟨-, same'⟩ := interleave_keeps schedule' apart (.refl t)
    exact (same l free).symm.trans (same' l free)

end

end Settings

/-! ## A reader and a writer -/

namespace Sample

open FileSystem

/-- A module of one source file, which also wraps it in front. -/
def module (name : String) (footer : Path) : ModuleDecl := ⟨name, none, some ["f"], ⟨"f"⟩, footer⟩

def bundle (name : String) (footer : Path) : Bundle := ⟨name, .listed ["f"], [⟨"f"⟩], ⟨"f"⟩, footer⟩

/-- What it reads last would lie below an artifact of the writer. -/
def reader : Bundle := bundle "r" ⟨"build/a.js/x"⟩

def writer : Bundle := bundle "a" ⟨"f"⟩

def race : Settings where
  __ := Settings.default
  modules := [module "r" ⟨"build/a.js/x"⟩, module "a" ⟨"f"⟩]

/-- A minifier that refuses every script. -/
def refusing : Minifier := fun _ _ => .error "refused"

/-- The source file, the output directory, and a directory for copies. -/
def tree : FileSystem :=
  (((FileSystem.bare []).put [octets "f"] (.file "f".toUTF8)).put [octets "build"] .directory).put
    [octets "build", octets "test-bundles"] .directory

/-- The tree when the script of the writer has been written. -/
def written (script : ByteArray) : FileSystem :=
  tree.put [octets "build", octets "a.js"] (.file script)

theorem lookup?_tree (l : Location) :
    tree.lookup? l =
      if l = [] then some .directory
      else if l = [octets "build", octets "test-bundles"] then some .directory
      else if l = [octets "build"] then some .directory
      else if l = [octets "f"] then some (.file "f".toUTF8)
      else none := by
  by_cases root : l = []
  · subst root
    rfl
  · have nothing : (bare []).lookup? l = none := by
      rw [lookup?, if_neg root]
      rfl
    rw [tree, lookup?_put _ (by simp), lookup?_put _ (by simp), lookup?_put _ (by simp), nothing,
      if_neg root]

theorem not_isLink (p : Path) : ¬ tree.IsLink p := by
  refine not_isLink_of_forall fun l target link => ?_
  rw [lookup?_tree] at link
  split_ifs at link <;> cases link

theorem resolve_output :
    tree.resolve .followed ⟨"./build"⟩ = .ok ⟨[octets "build"], some .directory⟩ := by
  have sound : pathFault? ⟨"./build"⟩ = none := rfl
  have walked : tree.walk .followed 40 [] [[dot], octets "build"] =
      .ok ⟨[octets "build"], some .directory⟩ := by cbv
  exact (resolve_of_sound sound).trans walked

theorem opens : tree.Opens ⟨"./build"⟩ [octets "build"] := .path resolve_output

theorem isDirectory_output : tree.isDirectory ⟨"./build"⟩ = true :=
  isDirectory_iff.mpr ⟨_, resolve_output⟩

theorem resolve_source :
    tree.resolve .followed ⟨"./f"⟩ = .ok ⟨[octets "f"], some (.file "f".toUTF8)⟩ := by
  have sound : pathFault? ⟨"./f"⟩ = none := rfl
  have walked : tree.walk .followed 40 [] [[dot], octets "f"] =
      .ok ⟨[octets "f"], some (.file "f".toUTF8)⟩ := by cbv
  exact (resolve_of_sound sound).trans walked

theorem resolve_below :
    tree.resolve .followed ⟨"./build/a.js/x"⟩ = .error .notFound := by
  have sound : pathFault? ⟨"./build/a.js/x"⟩ = none := rfl
  have walked : tree.walk .followed 40 [] [[dot], octets "build", octets "a.js", octets "x"] =
      .error .notFound := by cbv
  exact (resolve_of_sound sound).trans walked

theorem resolve_below_written (script : ByteArray) :
    (written script).resolve .followed ⟨"./build/a.js/x"⟩ = .error .notADirectory := by
  have sound : pathFault? ⟨"./build/a.js/x"⟩ = none := rfl
  have walked : (written script).walk .followed 40 []
      [[dot], octets "build", octets "a.js", octets "x"] = .error .notADirectory := by cbv
  exact (resolve_of_sound sound).trans walked

theorem holds_source : tree.HoldsText ⟨"./f"⟩ "f" := node?_eq_some_iff.mpr ⟨_, resolve_source⟩

theorem holds_source_written (script : ByteArray) : (written script).HoldsText ⟨"./f"⟩ "f" := by
  have grown : Written (fun _ => True) tree (written script) :=
    grown_put_file trivial script (Or.inl (lookup?_tree _))
  have there := resolve_of_grown grown resolve_source
  rw [written, lookup?_put _ (by simp), lookup?_tree] at there
  exact node?_eq_some_iff.mpr ⟨_, there⟩

theorem separate : race.Separate [reader, writer] tree where
  plain := by decide
  distinct := by decide
  apart := by decide
  straight _ _ _ _ := not_isLink _
  unread := by
    intro b mem p read place found c mem' own
    have here : tree.Opens race.outputDir [octets "build"] := opens
    have plain : '/' ∉ c.name.toList := by
      rcases List.mem_pair.mp mem' with rfl | rfl <;> decide
    obtain ⟨name, -, -, below⟩ := (Bundle.places_iff here plain fun _ _ => not_isLink _).mp own
    have sources : ∀ b ∈ [reader, writer], ∀ p ∈ b.readOrder,
        p = ⟨"f"⟩ ∨ p = ⟨"build/a.js/x"⟩ := by decide
    rcases sources b mem p (Bundle.mem_readOrder_iff.mpr read) with rfl | rfl
    · cases resolve_source.symm.trans found
      simp at below
    · cases resolve_below.symm.trans found

/-- The reader fails with what keeps it from its last path. -/
theorem effect_reader {t : FileSystem} {cause : IoError} (held : t.HoldsText ⟨"./f"⟩ "f")
    (missing : t.readText ⟨"./build/a.js/x"⟩ = .error cause) :
    (race.pipeline refusing reader).effect t =
      (.error (.missingSource ⟨"./build/a.js/x"⟩ cause), t) := by
  have split : reader.readOrder = [⟨"f"⟩, ⟨"f"⟩] ++ ⟨"build/a.js/x"⟩ :: [] := rfl
  have readable : ∀ q ∈ [(⟨"f"⟩ : Path), ⟨"f"⟩], ∃ text, t.HoldsText (race.root.join q) text := by
    intro q mem
    rcases List.mem_pair.mp mem with rfl | rfl <;> exact ⟨"f", held⟩
  have assembled : (reader.assemble race.root race.stampedVersion).effect t =
      (.error (.missingSource ⟨"./build/a.js/x"⟩ cause), t) :=
    Bundle.effect_assemble_error split readable missing
  rw [Settings.pipeline, Attempt.effect_bind_ok (Attempt.effect_note _ t),
    Attempt.effect_bind_error assembled]

/-- The fragments of the writer. -/
theorem holds_fragments : List.Forall₂ (fun p text => tree.HoldsText ((⟨"."⟩ : Path).join p) text)
    writer.readOrder ["f", "f", "f"] :=
  .cons holds_source (.cons holds_source (.cons holds_source .nil))

/-- The writer has written its script when it fails. -/
theorem exists_effect_writer :
    ∃ script, ((race.pipeline refusing writer).effect tree).2 = written script := by
  have here : tree.Opens race.outputDir [octets "build"] := opens
  have plain : Path.IsName (octets (fullName "a")) :=
    isName_artifact (by decide) List.mem_cons_self
  have free : tree.writeFault? race.outputDir [octets "build"] (fullName "a") = none := by
    have sound : childFault? race.outputDir (fullName "a") = none := rfl
    rw [writeFault?, sound, lookup?_tree]
    decide
  have wrote := here.effect_writeFile plain (not_isLink _)
    ("\n".intercalate (["f", "f", "f"].map (Placeholder.substitute race.stampedVersion)))
  rw [free] at wrote
  have held : List.Forall₂ (fun p text => tree.HoldsText (race.root.join p) text)
      writer.readOrder ["f", "f", "f"] := holds_fragments
  rw [Settings.pipeline, Attempt.effect_bind_ok (Attempt.effect_note _ _),
    Attempt.effect_bind_ok (Bundle.effect_assemble_ok held), finalize,
    Attempt.effect_bind_ok here.effect_ensureDirectory]
  exact ⟨_, congrArg Prod.snd (Attempt.effect_bind_ok wrote)⟩

/-- In turn, the reader finds nothing where its last path leads. -/
theorem effect_inTurn :
    ((race.buildInTurn refusing [reader, writer]).effect tree).1 =
      .error (.missingSource ⟨"./build/a.js/x"⟩ .notFound) := by
  have missing : tree.readText ⟨"./build/a.js/x"⟩ = .error .notFound := by
    rw [readText, readBytes, resolve_below]
    rfl
  rw [Settings.buildInTurn, Attempt.effect_bind_error (effect_reader holds_source missing)]

/-- Side by side, the writer may have ended before the reader comes to its last path. -/
theorem exists_effect_sideBySide : ∃ turns,
    ((race.buildSideBySide refusing turns [reader, writer]).effect tree).1 =
      .error (.missingSource ⟨"./build/a.js/x"⟩ .notADirectory) := by
  have found : (race.pipelines refusing [reader, writer])[1]? =
      some (race.pipeline refusing writer).outcome := rfl
  obtain ⟨turns, first⟩ := Program.exists_turns found tree
  obtain ⟨script, wrote⟩ := exists_effect_writer
  have missing : (written script).readText ⟨"./build/a.js/x"⟩ = .error .notADirectory := by
    rw [readText, readBytes, resolve_below_written]
    rfl
  have fails := effect_reader (holds_source_written script) missing
  have ends := first []
  rw [List.append_nil, Program.interleave_nil] at ends
  rw [Attempt.effect] at wrote fails
  refine ⟨turns, ?_⟩
  rw [Settings.effect_buildSideBySide, ends, wrote]
  simp only [Settings.pipelines, List.map_cons, List.set_cons_succ, Program.inSequence,
    Program.effect_bind, fails]
  rfl

end Sample

/-! ## All turns agree -/

namespace Settings

open FileSystem Program

/-- How modules that are built side by side compare with modules that are built in
turn: results and files. -/
structure Agree (s : Settings) (bundles : List Bundle) (t : FileSystem)
    (side turn : Except BuildError (List Artifacts) × World) : Prop where
  /-- The artifacts or the failure are the same, but for the reason why a source is
  missing, if its path runs through the place of an artifact. -/
  result : side.1 = turn.1 ∨
    ∃ p cause cause', s.Blocked bundles t p ∧
      side.1 = .error (.missingSource p cause) ∧ turn.1 = .error (.missingSource p cause') ∧
        (cause = .notFound ∧ cause' = .notADirectory ∨
          cause = .notADirectory ∧ cause' = .notFound)
  files : ∀ artifacts, turn.1 = .ok artifacts →
    ∀ l, side.2.files.lookup? l = turn.2.files.lookup? l

/-- **Modules built side by side come to what they come to in turn.**  In a tree whose
output directory is there, separate modules give the same artifacts or the same
first failure, in the order of the modules, in all turns; only why a source is
missing can hang on the turns, and only if its path runs through the place of an
artifact.  If none fails, the files are the same as well. -/
theorem buildSideBySide_agrees (s : Settings) (minify : Minifier) (schedule : Schedule)
    (bundles : List Bundle) (w : World) (dir : w.files.isDirectory s.outputDir = true)
    (separate : s.Separate bundles w.files) :
    s.Agree bundles w.files ((s.buildSideBySide minify schedule bundles).run w)
      ((s.buildInTurn minify bundles).run w) := by
  obtain ⟨home, found⟩ := isDirectory_iff.mp dir
  have opens : w.files.Opens s.outputDir home := .path found
  obtain ⟨turn_result, turn_files⟩ := effect_buildInTurn s minify bundles w.files
  have alike := SameOutcome.firstFailure (interleave_alike minify separate opens schedule [])
  rw [interleave_nil, ← turn_result] at alike
  constructor
  · simp only [Attempt.run_fst, effect_buildSideBySide]
    generalize firstFailure _ = side at alike ⊢
    generalize ((s.buildInTurn minify bundles).effect w.files).1 = turn at alike ⊢
    cases alike with
    | ok artifacts => exact Or.inl rfl
    | error related =>
      cases related with
      | same e => exact Or.inl rfl
      | blocked h lost lost' =>
        rcases lost with rfl | rfl <;> rcases lost' with rfl | rfl
        · exact Or.inl rfl
        · exact Or.inr ⟨_, _, _, h, rfl, rfl, Or.inl ⟨rfl, rfl⟩⟩
        · exact Or.inr ⟨_, _, _, h, rfl, rfl, Or.inr ⟨rfl, rfl⟩⟩
        · exact Or.inl rfl
  · intro artifacts ok l
    rw [Attempt.run_fst] at ok
    rw [Attempt.files_run, Attempt.files_run, effect_buildSideBySide, turn_files artifacts ok]
    exact interleave_files minify separate opens schedule [] l

end Settings

namespace Sample

theorem buildSideBySide_agrees_reader_writer :
    tree.isDirectory race.outputDir = true ∧ race.Separate [reader, writer] tree ∧
      race.Agree [reader, writer] tree
        ((race.buildSideBySide refusing [0, 1, 1, 0, 1] [reader, writer]).run ⟨tree, []⟩)
        ((race.buildInTurn refusing [reader, writer]).run ⟨tree, []⟩) :=
  ⟨isDirectory_output, separate,
    race.buildSideBySide_agrees refusing _ [reader, writer] ⟨tree, []⟩ isDirectory_output separate⟩

/-- **Why a source is missing can hang on the turns**: of the reader and the writer, one
failure is "not found" and the other "not a directory". -/
theorem missing_cause_hangs_on_turns :
    ¬ ∀ (s : Settings) (minify : Minifier) (schedule : Schedule) (bundles : List Bundle)
        (w : World),
      Bundle.ofModules s.groups s.modules = .ok bundles →
        w.files.isDirectory s.outputDir = true → s.Separate bundles w.files →
          ((s.buildSideBySide minify schedule bundles).run w).1 =
            ((s.buildInTurn minify bundles).run w).1 := by
  intro agree
  obtain ⟨turns, side⟩ := exists_effect_sideBySide
  have same := agree race refusing turns [reader, writer] ⟨tree, []⟩ rfl isDirectory_output separate
  rw [Attempt.run_fst, Attempt.run_fst, side, effect_inTurn] at same
  cases same

end Sample

end ReleaseBundle
