import ReleaseBundle.Proofs.Copies
import ReleaseBundle.Proofs.GrowingRuns
import ReleaseBundle.Proofs.Pipelines

/-!
# Where programs reach

A program writes files only where the paths lead that it asks to write to, and it makes
directories only on the way to those that it asks for.  So much can be read off its
requests, whatever it is answered (`Program.Within`), and it bounds what any run does to a
tree (`Program.confined_of_within`), whether the run succeeds or not, and whatever is
written over what.

For a build these paths are the artifacts of its modules, the copies in the targets of its
projections, and the directories that hold them (`Settings.build_confined`).
-/

namespace ReleaseBundle

open FileSystem

variable {writes makes : Path → Prop}

namespace FileSystem

variable {t u v : FileSystem}

/-- The locations that some paths lead to. -/
def Reached (t : FileSystem) (paths : Path → Prop) (l : Location) : Prop :=
  ∃ p, paths p ∧ t.LeadsTo p l

/-- The directories on the way to some paths, and those that they lead to. -/
def OnTheWay (t : FileSystem) (dirs : Path → Prop) (l : Location) : Prop :=
  ∃ dir, dirs dir ∧ t.Along dir.lineage l

/-- The tree `u` is `t` with files written where some paths lead, and with directories made
on the way to others. -/
abbrev Confined (writes makes : Path → Prop) (t u : FileSystem) : Prop :=
  Grown (u.Reached writes) (u.OnTheWay makes) t u

theorem Reached.grown {W M : Location → Prop} {paths : Path → Prop} {l : Location}
    (reached : t.Reached paths l) (h : Grown W M t u) : u.Reached paths l := by
  obtain ⟨p, among, leads⟩ := reached
  exact ⟨p, among, leads.grown h⟩

theorem OnTheWay.grown {W M : Location → Prop} {dirs : Path → Prop} {l : Location}
    (way : t.OnTheWay dirs l) (h : Grown W M t u) : u.OnTheWay dirs l := by
  obtain ⟨dir, among, along⟩ := way
  exact ⟨dir, among, along.grown h⟩

/-- What a path leads to in a tree, it leads to for good, so bounds add up. -/
theorem Confined.trans (h : Confined writes makes t u) (h' : Confined writes makes u v) :
    Confined writes makes t v :=
  Grown.trans (h.mono (fun _ reached => reached.grown h') fun _ way => way.grown h') h'

end FileSystem

/-! ## Requests and programs -/

/-- Which files a request may write and which directories it may make, by their paths. -/
def Request.Within (writes makes : Path → Prop) : Request → Prop
  | .writeText path _ => writes path
  | .copy _ target => writes target
  | .ensureDirectory path => makes path
  | .readText _ | .isFile _ | .visitsFrom _ | .note _ => True

theorem FileSystem.confined_answer {r : Request} (within : r.Within writes makes)
    (t : FileSystem) : Confined writes makes t (t.answer r).2 := by
  cases r with
  | readText => exact .refl t
  | isFile => exact .refl t
  | visitsFrom => exact .refl t
  | note => exact .refl t
  | ensureDirectory path =>
    exact (grown_of_ensureAll t path.lineage).mono (fun _ w => w.elim) fun _ along =>
      ⟨path, within, along⟩
  | writeText path text =>
    show Confined writes makes t (t.writeBytes path text.toUTF8).2
    obtain ⟨l, free, found, outcome⟩ | ⟨cause, outcome⟩ :=
      writeBytes_cases t path text.toUTF8
    · rw [outcome]
      have written := free.written text.toUTF8
      have leads : t.LeadsTo path l := ⟨_, resolve_followed_of_asFile found⟩
      refine written.mono ?_ fun _ m => m.elim
      rintro _ rfl
      exact ⟨path, within, leads.grown written⟩
    · rw [outcome]
      exact .refl t
  | copy source target =>
    show Confined writes makes t (t.copy source target).2
    obtain ⟨-, -, l, u, -, found, written, -, outcome⟩ | ⟨cause, outcome, -⟩ :=
      copy_cases t source target
    · rw [outcome]
      have leads : t.LeadsTo target l := ⟨_, found⟩
      refine written.mono ?_ fun _ m => m.elim
      rintro _ rfl
      exact ⟨target, within, leads.grown written⟩
    · rw [outcome]
      exact .refl t

namespace Program

variable {α β : Type}

/-- A program whose requests all stay within bounds, whatever it is answered. -/
def Within (writes makes : Path → Prop) : Program α → Prop
  | done _ => True
  | ask r next => r.Within writes makes ∧ ∀ answer, (next answer).Within writes makes

theorem Within.bind {p : Program α} {f : α → Program β} (h : p.Within writes makes)
    (after : ∀ a, (f a).Within writes makes) : (p >>= f).Within writes makes := by
  induction p with
  | done a => exact after a
  | ask r next ih => exact ⟨h.1, fun answer => ih answer (h.2 answer)⟩

/-- **A program changes a tree within its bounds only.** -/
theorem confined_of_within {p : Program α} (h : p.Within writes makes) (t : FileSystem) :
    Confined writes makes t (p.effect t).2 := by
  induction p generalizing t with
  | done a => exact .refl t
  | ask r next ih =>
    exact (confined_answer h.1 t).trans (ih (t.answer r).1 (h.2 _) (t.answer r).2)

theorem within_inSequence {programs : List (Program α)}
    (h : ∀ p ∈ programs, p.Within writes makes) : (inSequence programs).Within writes makes := by
  induction programs with
  | nil => trivial
  | cons p programs ih =>
    exact (h p List.mem_cons_self).bind fun _ =>
      (ih fun q mem => h q (List.mem_cons_of_mem p mem)).bind fun _ => trivial

/-- Programs in turns stay within the bounds of each. -/
theorem within_interleave (schedule : Schedule) {programs : List (Program α)}
    (h : ∀ p ∈ programs, p.Within writes makes) :
    (interleave schedule programs).Within writes makes := by
  induction schedule generalizing programs with
  | nil => exact within_inSequence h
  | cons turn schedule ih =>
    rw [interleave]
    split
    · rename_i r next found
      have here := h _ (List.mem_of_getElem? found)
      refine ⟨here.1, fun answer => ih fun q mem => ?_⟩
      rcases List.mem_or_eq_of_mem_set mem with mem | rfl
      · exact h q mem
      · exact here.2 answer
    · exact ih h

section

variable {t : FileSystem} {programs : List (Program α)}
  (idle : ∀ r : Request, r.Within writes makes → (t.answer r).2 = t)

include idle

theorem effect_of_idle {p : Program α} (h : p.Within writes makes) :
    p.effect t = ((p.effect t).1, t) := by
  refine Prod.ext rfl ?_
  induction p with
  | done a => rfl
  | ask r next ih =>
    rw [effect_ask, idle r h.1]
    exact ih _ (h.2 _)

theorem inSequence_of_idle (h : ∀ p ∈ programs, p.Within writes makes) :
    (inSequence programs).effect t = (programs.map fun p => (p.effect t).1, t) := by
  induction programs with
  | nil => rfl
  | cons p programs ih =>
    have rest := ih fun q mem => h q (List.mem_cons_of_mem p mem)
    rw [inSequence, effect_bind, effect_of_idle idle (h p List.mem_cons_self), effect_bind, rest]
    rfl

/-- Programs that can change nothing come to what each comes to alone, in any turns. -/
theorem interleave_of_idle (schedule : Schedule) (h : ∀ p ∈ programs, p.Within writes makes) :
    (interleave schedule programs).effect t = (programs.map fun p => (p.effect t).1, t) := by
  induction schedule generalizing programs with
  | nil => exact inSequence_of_idle idle h
  | cons turn schedule ih =>
    obtain ⟨r, next, found, step⟩ | step := effect_interleave_cons turn schedule programs t
    · have here := h _ (List.mem_of_getElem? found)
      rw [step, idle r here.1, ih ?_, List.map_set]
      · refine Prod.ext ?_ rfl
        -- What is left of a program has the result of the whole.
        have result : (programs.map fun p => (p.effect t).1)[turn]? =
            some ((next (t.answer r).1).effect t).1 := by
          rw [List.getElem?_map, found, Option.map_some, effect_ask, idle r here.1]
        obtain ⟨inside, at_turn⟩ := List.getElem?_eq_some_iff.mp result
        rw [← at_turn, List.set_getElem_self]
      · intro q mem
        rcases List.mem_or_eq_of_mem_set mem with mem | rfl
        · exact h q mem
        · exact here.2 _
    · rw [step, ih h]

end

end Program

namespace Attempt

variable {ε α β : Type}

/-- A program that may fail and stays within bounds. -/
def Within (writes makes : Path → Prop) (attempt : Attempt ε α) : Prop :=
  attempt.outcome.Within writes makes

theorem confined_of_within {attempt : Attempt ε α} (h : attempt.Within writes makes)
    (t : FileSystem) : Confined writes makes t (attempt.effect t).2 :=
  Program.confined_of_within h t

namespace Within

theorem bind {first : Attempt ε α} {next : α → Attempt ε β} (h : first.Within writes makes)
    (after : ∀ a, (next a).Within writes makes) : (first >>= next).Within writes makes := by
  refine Program.Within.bind h fun result => ?_
  cases result with
  | ok a => exact after a
  | error e => trivial

theorem pure (a : α) : (Pure.pure a : Attempt ε α).Within writes makes := trivial

theorem throw (e : ε) : (MonadExcept.throw e : Attempt ε α).Within writes makes := trivial

theorem ofExcept_bind {result : Except ε α} {next : α → Attempt ε β}
    (after : ∀ a, result = .ok a → (next a).Within writes makes) :
    (Attempt.ofExcept result >>= next).Within writes makes := by
  cases result with
  | ok a => exact after a rfl
  | error e => trivial

theorem request {r : Request} (h : r.Within writes makes) :
    (Attempt.request r : Attempt ε r.Answer).Within writes makes := ⟨h, fun _ => trivial⟩

theorem orFail {answer : Attempt ε (Except IoError α)} (h : answer.Within writes makes)
    (failure : IoError → ε) : (Attempt.orFail answer failure).Within writes makes := by
  refine h.bind fun result => ?_
  cases result with
  | ok a => exact .pure a
  | error cause => exact .throw _

theorem note (record : Record) : (Attempt.note record : Attempt ε Unit).Within writes makes :=
  .request trivial

theorem notes (records : List Record) :
    (Attempt.notes records : Attempt ε Unit).Within writes makes := by
  induction records with
  | nil => exact .pure ()
  | cons record records ih => exact (note record).bind fun _ => ih

end Within

end Attempt

/-! ## Building modules -/

theorem within_ensureDirectory {dir : Path} (made : makes dir) :
    (ensureDirectory dir).Within writes makes :=
  .orFail (.request (r := .ensureDirectory dir) made) _

theorem within_writeFile {path : Path} (written : writes path) (text : String) :
    (writeFile path text).Within writes makes :=
  (Attempt.Within.orFail (.request (r := .writeText path text) written) _).bind fun _ => .note _

theorem within_readAll (paths : List Path) : (Bundle.readAll paths).Within writes makes := by
  induction paths with
  | nil => exact .pure []
  | cons path paths ih =>
    have first : Request.Within writes makes (.readText path) := trivial
    exact (Attempt.Within.orFail (.request first) _).bind fun _ => ih.bind fun _ => .pure _

theorem within_assemble (b : Bundle) (root : Path) (v : Version) :
    (b.assemble root v).Within writes makes :=
  ((within_readAll _).bind fun _ => (Attempt.Within.note _).bind fun _ => .pure _).bind fun _ =>
    (Attempt.Within.notes _).bind fun _ => .pure _

theorem within_finalize {module : String} {outDir : Path} (made : makes outDir)
    (written : ∀ name ∈ artifactNames module, writes (outDir.child name)) (script : String)
    (minify : Minifier) : (finalize module script outDir minify).Within writes makes := by
  have file : ∀ name ∈ artifactNames module, ∀ text,
      (writeFile (outDir.child name) text).Within writes makes := fun name artifact text =>
    within_writeFile (written name artifact) text
  refine (within_ensureDirectory made).bind fun _ => ?_
  refine (file _ (by simp [artifactNames]) script).bind fun _ => ?_
  split
  · exact .throw _
  · refine (file _ (by simp [artifactNames]) _).bind fun _ => ?_
    refine (file _ (by simp [artifactNames]) _).bind fun _ => ?_
    exact (Attempt.Within.note _).bind fun _ => .pure _

theorem Bundle.places_iff_of_written {b : Bundle} {dir : Path} {t u : FileSystem}
    {W : Location → Prop} {l : Location} (h : Written W t u) :
    b.Places dir u l ↔ b.Places dir t l := by
  constructor
  · rintro ⟨name, artifact, leads⟩
    exact ⟨name, artifact, (leadsTo_iff_of_written h).mp leads⟩
  · rintro ⟨name, artifact, leads⟩
    exact ⟨name, artifact, (leadsTo_iff_of_written h).mpr leads⟩

namespace Settings

variable {s : Settings} {minify : Minifier} {bundles : List Bundle}

theorem places_iff_of_written {t u : FileSystem} {W : Location → Prop} {l : Location}
    (h : Written W t u) : s.Places bundles u l ↔ s.Places bundles t l := by
  simp only [Places, Bundle.places_iff_of_written h]

theorem Places.mono {t : FileSystem} {l : Location} {more : List Bundle}
    (place : s.Places bundles t l) (part : bundles ⊆ more) : s.Places more t l := by
  obtain ⟨b, mem, own⟩ := place
  exact ⟨b, part mem, own⟩

/-- The paths of the artifacts of bundles. -/
def ArtifactPath (s : Settings) (bundles : List Bundle) (p : Path) : Prop :=
  ∃ b ∈ bundles, ∃ name ∈ artifactNames b.name, p = s.outputDir.child name

theorem reached_artifactPath_iff {t : FileSystem} {l : Location} :
    t.Reached (s.ArtifactPath bundles) l ↔ s.Places bundles t l := by
  constructor
  · rintro ⟨_, ⟨b, mem, name, artifact, rfl⟩, n, found⟩
    exact ⟨b, mem, name, artifact, n, found⟩
  · rintro ⟨b, mem, name, artifact, n, found⟩
    exact ⟨_, ⟨b, mem, name, artifact, rfl⟩, n, found⟩

theorem within_pipeline {b : Bundle} (made : makes s.outputDir)
    (written : ∀ name ∈ artifactNames b.name, writes (s.outputDir.child name)) :
    (s.pipeline minify b).Within writes makes :=
  (Attempt.Within.note _).bind fun _ => (within_assemble _ _ _).bind fun _ =>
    within_finalize made written _ _

theorem within_buildInTurn (made : makes s.outputDir)
    (written : ∀ p, s.ArtifactPath bundles p → writes p) :
    (s.buildInTurn minify bundles).Within writes makes := by
  induction bundles with
  | nil => exact .pure []
  | cons b bundles ih =>
    have first : (s.pipeline minify b).Within writes makes :=
      within_pipeline made fun name artifact =>
        written _ ⟨b, List.mem_cons_self, name, artifact, rfl⟩
    have rest := ih fun p ⟨c, mem, path⟩ => written p ⟨c, List.mem_cons_of_mem b mem, path⟩
    exact first.bind fun _ => rest.bind fun _ => .pure _

theorem within_buildSideBySide (schedule : Schedule) (made : makes s.outputDir)
    (written : ∀ p, s.ArtifactPath bundles p → writes p) :
    (s.buildSideBySide minify schedule bundles).Within writes makes := by
  refine Program.Within.bind (Program.within_interleave schedule fun p mem => ?_) fun _ => trivial
  obtain ⟨b, listed, rfl⟩ := List.mem_map.mp mem
  exact within_pipeline made fun name artifact => written _ ⟨b, listed, name, artifact, rfl⟩

end Settings

/-! ## Projections -/

namespace Projection

theorem within_checkSources (copies : List FileCopy) :
    (checkSources copies).Within writes makes := by
  induction copies with
  | nil => exact .pure ()
  | cons c copies ih =>
    refine (Attempt.Within.request (r := .isFile c.source) trivial).bind fun found => ?_
    split
    · exact ih
    · exact .throw _

theorem within_makeCopies {copies : List FileCopy} (written : ∀ c ∈ copies, writes c.target) :
    (makeCopies copies).Within writes makes := by
  induction copies with
  | nil => exact .pure []
  | cons c copies ih =>
    have first : Request.Within writes makes (.copy c.source c.target) :=
      written c List.mem_cons_self
    refine (Attempt.Within.orFail (.request first) _).bind fun _ => ?_
    refine (Attempt.Within.note _).bind fun _ => ?_
    exact (ih fun d mem => written d (List.mem_cons_of_mem c mem)).bind fun _ => .pure _

theorem within_apply {p : Projection} {outDir : Path} (made : makes (p.target outDir))
    (written : ∀ c ∈ p.copies outDir, writes c.target) : (p.apply outDir).Within writes makes :=
  (within_checkSources _).bind fun _ => (within_ensureDirectory made).bind fun _ =>
    (within_makeCopies written).bind fun _ => (Attempt.Within.note _).bind fun _ => .pure _

theorem within_applyAll {outDir : Path} {projections : List Projection}
    (made : ∀ p ∈ projections, makes (p.target outDir))
    (written : ∀ p ∈ projections, ∀ c ∈ p.copies outDir, writes c.target) :
    (applyAll outDir projections).Within writes makes := by
  induction projections with
  | nil => exact .pure []
  | cons p projections ih =>
    have first := within_apply (made p List.mem_cons_self) (written p List.mem_cons_self)
    have rest := ih (fun q mem => made q (List.mem_cons_of_mem p mem))
      fun q mem => written q (List.mem_cons_of_mem p mem)
    exact first.bind fun _ => rest.bind fun _ => .pure _

end Projection

/-! ## The build -/

namespace Settings

variable {s : Settings} {minify : Minifier} {bundles : List Bundle}

/-- The paths that a build writes to: those of artifacts and of copies. -/
def WrittenPath (s : Settings) (bundles : List Bundle) (path : Path) : Prop :=
  s.ArtifactPath bundles path ∨
    ∃ p ∈ s.allProjections, ∃ c ∈ p.copies s.outputDir, path = c.target

/-- The directories that a build makes, with what they lie in. -/
def MadePath (s : Settings) (dir : Path) : Prop :=
  dir = s.outputDir ∨ ∃ p ∈ s.allProjections, dir = p.target s.outputDir

theorem within_build (schedule : Schedule)
    (resolved : Bundle.ofModules s.groups s.modules = .ok bundles) :
    (s.build minify schedule).Within (s.WrittenPath bundles) s.MadePath := by
  have made : s.MadePath s.outputDir := Or.inl rfl
  refine (Attempt.Within.notes _).bind fun _ => (Attempt.Within.notes _).bind fun _ => ?_
  refine Attempt.Within.ofExcept_bind fun bundles' resolved' => ?_
  obtain rfl : bundles = bundles' := Except.ok.inj (resolved.symm.trans resolved')
  refine (Attempt.Within.note _).bind fun _ => (within_ensureDirectory made).bind fun _ => ?_
  have projections : Attempt.Within (s.WrittenPath bundles) s.MadePath
      (Projection.applyAll s.outputDir s.allProjections) :=
    Projection.within_applyAll (fun p mem => Or.inr ⟨p, mem, rfl⟩)
      fun p mem c copied => Or.inr ⟨p, mem, c, copied, rfl⟩
  dsimp only
  split
  · refine (within_buildSideBySide schedule made fun p artifact => Or.inl artifact).bind fun _ => ?_
    exact projections.bind fun _ => (Attempt.Within.note _).bind fun _ => .pure _
  · refine (within_buildInTurn made fun p artifact => Or.inl artifact).bind fun _ => ?_
    exact projections.bind fun _ => (Attempt.Within.note _).bind fun _ => .pure _

/-- **Whatever becomes of a build**, in turn or side by side, it has written files only where
artifacts and copies belong, and has made directories only on the way to where they are. -/
theorem build_confined (s : Settings) (minify : Minifier) (schedule : Schedule) (w : World)
    (resolved : Bundle.ofModules s.groups s.modules = .ok bundles) :
    Confined (s.WrittenPath bundles) s.MadePath w.files
      ((s.build minify schedule).run w).2.files := by
  rw [Attempt.files_run]
  exact Attempt.confined_of_within (within_build schedule resolved) w.files

end Settings

end ReleaseBundle
