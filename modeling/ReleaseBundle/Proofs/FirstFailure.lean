import ReleaseBundle.Proofs.BuildResult
import ReleaseBundle.Proofs.Confinement
import ReleaseBundle.Proofs.GrowingRuns

/-!
# The first module that fails

A build in turn ends with the first module that fails, and with the failure of that
module (`build_stops_at_first_failure`).  The modules before it are finished.  The module
itself has written its artifacts up to the step at which it failed (`Broken`); those of
the modules behind it, and all other files, are as they were.  No projection is
applied.
-/

namespace ReleaseBundle

open FileSystem

/-! ## Writing one file -/

/-- Writing a file fails and changes nothing, or puts the text where the path leads. -/
theorem writeFile_cases (t : FileSystem) (path : Path) (text : String) :
    (∃ cause, (writeFile path text).effect t = (.error (.unwritable path cause), t)) ∨
      ∃ l u, (writeFile path text).effect t = (.ok (), u) ∧ t.LeadsTo path l ∧
        Written (fun k => k = l) t u ∧ u.HoldsText path text := by
  have asked : (Attempt.request (.writeText path text) : Build _).effect t =
      (.ok (t.writeBytes path text.toUTF8).1, (t.writeBytes path text.toUTF8).2) :=
    Attempt.effect_request (.writeText path text) t
  obtain ⟨l, free, found, outcome⟩ | ⟨cause, outcome⟩ := writeBytes_cases t path text.toUTF8
  · rw [outcome] at asked
    have leads : t.LeadsTo path l := ⟨_, resolve_followed_of_asFile found⟩
    have written := free.written text.toUTF8
    refine Or.inr ⟨l, _, ?_, leads, written, ?_⟩
    · rw [writeFile, Attempt.effect_bind_ok (Attempt.effect_orFail asked)]
      exact Attempt.effect_note _ _
    · rw [HoldsText, (leads.grown written).node?_eq, free.lookup?_put_self]
  · rw [outcome] at asked
    refine Or.inl ⟨cause, ?_⟩
    rw [writeFile, Attempt.effect_bind_error (Attempt.effect_orFail asked)]

namespace Settings

variable {s : Settings} {minify : Minifier} {bundles before after : List Bundle} {b k : Bundle}
  {t t₁ u v : FileSystem} {artifacts : List Artifacts} {e : BuildError} {l : Location}

/-! ## Where artifacts are -/

theorem Separate.sublist (separate : s.Separate bundles t) (part : before.Sublist bundles) :
    s.Separate before t where
  plain b mem := separate.plain b (part.subset mem)
  distinct := separate.distinct.sublist (part.map Bundle.name)
  apart b mem c mem' := separate.apart b (part.subset mem) c (part.subset mem')
  straight b mem := separate.straight b (part.subset mem)
  unread b mem p read place found c mem' :=
    separate.unread b (part.subset mem) p read place found c (part.subset mem')

section

variable (separate : s.Separate bundles t) (made : t.ensureDirectory s.outputDir = (.ok (), t))

include separate made

/-- An artifact whose path leads anywhere is in the output directory. -/
theorem Separate.exists_home (mem : b ∈ bundles) {name : String}
    (artifact : name ∈ artifactNames b.name) (leads : t.LeadsTo (s.outputDir.child name) l) :
    ∃ home, t.Opens s.outputDir home ∧ l = home ++ [octets name] := by
  have plain := separate.isName mem artifact
  obtain ⟨home, opens⟩ : ∃ home, t.Opens s.outputDir home := by
    rcases exists_opens_of_ensureDirectory made with empty | opens
    · obtain ⟨n, found⟩ := leads
      exact ⟨_, opens_of_empty empty plain found⟩
    · exact opens
  exact ⟨home, opens, eq_of_leadsTo_child opens plain (separate.straight b mem name artifact) leads⟩

/-- In one place there is one artifact. -/
theorem Separate.name_eq {c : Bundle} (mem : b ∈ bundles) (mem' : c ∈ bundles)
    {name name' : String} (artifact : name ∈ artifactNames b.name)
    (artifact' : name' ∈ artifactNames c.name) (leads : t.LeadsTo (s.outputDir.child name) l)
    (leads' : t.LeadsTo (s.outputDir.child name') l) : name = name' := by
  obtain ⟨home, opens, place⟩ := separate.exists_home made mem artifact leads
  obtain ⟨home', opens', place'⟩ := separate.exists_home made mem' artifact' leads'
  obtain rfl := opens.unique opens'
  exact octets_inj.mp (by simpa using place.symm.trans place')

/-- Writing one artifact leaves the others alone. -/
theorem Separate.node?_of_other (mem : b ∈ bundles) {W : Location → Prop} {name name' : String}
    (artifact : name ∈ artifactNames b.name) (artifact' : name' ∈ artifactNames b.name)
    (ne : name' ≠ name) (before : Written W t u) (leads : u.LeadsTo (s.outputDir.child name) l)
    (written : Written (fun k => k = l) u v) :
    v.node? (s.outputDir.child name') = u.node? (s.outputDir.child name') := by
  refine node?_of_written written ?_
  rintro _ leads' rfl
  exact ne (separate.name_eq made mem mem artifact' artifact
    ((leadsTo_iff_of_written before).mp leads') ((leadsTo_iff_of_written before).mp leads))

end

/-- The artifacts of some modules are not where those of others are. -/
theorem Separate.not_places (separate : s.Separate (before ++ after) t)
    (made : t.ensureDirectory s.outputDir = (.ok (), t)) (place : s.Places after t l) :
    ¬ s.Places before t l := by
  rintro ⟨b, mem, name, artifact, leads⟩
  obtain ⟨c, mem', name', artifact', leads'⟩ := place
  have inside : b ∈ before ++ after := List.mem_append_left after mem
  have inside' : c ∈ before ++ after := List.mem_append_right before mem'
  obtain rfl := separate.name_eq made inside inside' artifact artifact' leads leads'
  have same := eq_of_mem_artifactNames artifact artifact' (separate.apart b inside c inside')
    (separate.apart c inside' b inside)
  have distinct := separate.distinct
  rw [List.map_append] at distinct
  exact (List.nodup_append.mp distinct).2.2 _ (List.mem_map_of_mem mem) _ (List.mem_map_of_mem mem')
    same

/-! ## A module that fails -/

/-- The artifacts of a bundle that some texts are given for hold these texts, and the
others are in `u` what they are in `t`. -/
structure Partly (s : Settings) (t u : FileSystem) (b : Bundle) (texts : List (String × String)) :
    Prop where
  holds : ∀ name ∈ artifactNames b.name, ∀ text, (name, text) ∈ texts →
    u.HoldsText (s.outputDir.child name) text
  kept : ∀ name ∈ artifactNames b.name, name ∉ texts.map Prod.fst →
    u.node? (s.outputDir.child name) = t.node? (s.outputDir.child name)

/-- At which step a module fails, and what its artifacts are then, if they were those of
`t` before. -/
inductive Broken (s : Settings) (minify : Minifier) (t u : FileSystem) (b : Bundle) :
    BuildError → Prop
  | source {p : Path} {cause : IoError} (read : b.Reads p)
      (lost : u.readText (s.root.join p) = .error cause) (partly : s.Partly t u b []) :
      Broken s minify t u b (.missingSource (s.root.join p) cause)
  | full {script : String} {cause : IoError}
      (assembled : ((b.assemble s.root s.stampedVersion).effect t).1 = .ok script)
      (partly : s.Partly t u b []) :
      Broken s minify t u b (.unwritable (s.outputDir.child (fullName b.name)) cause)
  | script {script reason : String}
      (assembled : ((b.assemble s.root s.stampedVersion).effect t).1 = .ok script)
      (refused : minify script (fullName b.name) = .error reason)
      (partly : s.Partly t u b [(fullName b.name, script)]) :
      Broken s minify t u b (.rejectedScript (fullName b.name) reason)
  | min {script : String} {minified : Minified} {cause : IoError}
      (assembled : ((b.assemble s.root s.stampedVersion).effect t).1 = .ok script)
      (taken : minify script (fullName b.name) = .ok minified)
      (partly : s.Partly t u b [(fullName b.name, script)]) :
      Broken s minify t u b (.unwritable (s.outputDir.child (minName b.name)) cause)
  | map {script text : String} {minified : Minified} {cause : IoError}
      (assembled : ((b.assemble s.root s.stampedVersion).effect t).1 = .ok script)
      (taken : minify script (fullName b.name) = .ok minified)
      (trailed : Trailed b.name minified.code text)
      (partly : s.Partly t u b [(minName b.name, text), (fullName b.name, script)]) :
      Broken s minify t u b (.unwritable (s.outputDir.child (mapName b.name)) cause)

theorem Partly.refl (t : FileSystem) (b : Bundle) : s.Partly t t b [] :=
  ⟨fun _ _ _ listed => (nomatch listed), fun _ _ _ => rfl⟩

/-- One artifact more, or a failure that changes nothing. -/
theorem Partly.writeFile_cases {texts : List (String × String)} {name : String}
    (separate : s.Separate bundles t) (made : t.ensureDirectory s.outputDir = (.ok (), t))
    (mem : b ∈ bundles) (written : Written (b.Places s.outputDir t) t u)
    (partly : s.Partly t u b texts) (artifact : name ∈ artifactNames b.name)
    (fresh : name ∉ texts.map Prod.fst) (text : String) :
    (∃ cause, (writeFile (s.outputDir.child name) text).effect u =
        (.error (.unwritable (s.outputDir.child name) cause), u)) ∨
      ∃ v, (writeFile (s.outputDir.child name) text).effect u = (.ok (), v) ∧
        Written (b.Places s.outputDir t) t v ∧ s.Partly t v b ((name, text) :: texts) := by
  obtain stuck | ⟨l, v, wrote, leads, one, held⟩ :=
    ReleaseBundle.writeFile_cases u (s.outputDir.child name) text
  · exact Or.inl stuck
  have other : ∀ name' ∈ artifactNames b.name, name' ≠ name →
      v.node? (s.outputDir.child name') = u.node? (s.outputDir.child name') :=
    fun name' artifact' ne =>
      separate.node?_of_other made mem artifact artifact' ne written leads one
  refine Or.inr ⟨v, wrote, written.trans (one.mono ?_ fun _ m => m), ?_, ?_⟩
  · rintro _ rfl
    exact ⟨name, artifact, (leadsTo_iff_of_written written).mp leads⟩
  · intro name' artifact' text' listed
    rcases List.mem_cons.mp listed with same | listed
    · cases same
      exact held
    · have named : name' ∈ texts.map Prod.fst := List.mem_map_of_mem (f := Prod.fst) listed
      have ne : name' ≠ name := fun same => fresh (same ▸ named)
      exact (other name' artifact' ne).trans (partly.holds name' artifact' text' listed)
  · intro name' artifact' unlisted
    rw [List.map_cons, List.mem_cons, not_or] at unlisted
    exact (other name' artifact' unlisted.1).trans (partly.kept name' artifact' unlisted.2)

/-- **A module that fails** has written some of its artifacts, and nothing else. -/
theorem broken_of_pipeline (separate : s.Separate bundles t)
    (made : t.ensureDirectory s.outputDir = (.ok (), t)) (mem : b ∈ bundles)
    (failed : (s.pipeline minify b).effect t = (.error e, u)) :
    Written (b.Places s.outputDir t) t u ∧ s.Broken minify t u b e := by
  have full : fullName b.name ∈ artifactNames b.name := mem_artifactNames_self b.name
  have min : minName b.name ∈ artifactNames b.name := by simp [artifactNames]
  have map : mapName b.name ∈ artifactNames b.name := by simp [artifactNames]
  rw [pipeline, Attempt.effect_bind_ok (Attempt.effect_note _ t)] at failed
  obtain ⟨_, -, assembled⟩ | ⟨others, p, more, cause, split, -, lost, unassembled⟩ :=
    Bundle.effect_assemble_cases t b s.root s.stampedVersion
  · rw [Attempt.effect_bind_ok assembled, finalize,
      Attempt.effect_bind_ok (effect_ensureDirectory made)] at failed
    have text := congrArg Prod.fst assembled
    obtain ⟨cause, stuck⟩ | ⟨t₁, wrote₁, written₁, partly₁⟩ :=
      Partly.writeFile_cases separate made mem (.refl t) (.refl t b) full
        List.not_mem_nil _
    · rw [Attempt.effect_bind_error stuck] at failed
      cases failed
      exact ⟨.refl t, .full text (.refl t b)⟩
    rw [Attempt.effect_bind_ok wrote₁] at failed
    cases minified : minify _ (fullName b.name) with
    | error reason =>
      rw [minified] at failed
      cases failed
      exact ⟨written₁, .script text minified partly₁⟩
    | ok code =>
      rw [minified] at failed
      dsimp only at failed
      obtain ⟨cause, stuck⟩ | ⟨t₂, wrote₂, written₂, partly₂⟩ :=
        Partly.writeFile_cases separate made mem written₁ partly₁ min
          (by simp [(fullName_ne_minName b.name).symm]) (withTrailer b.name code.code)
      · rw [Attempt.effect_bind_error stuck] at failed
        cases failed
        exact ⟨written₁, .min text minified partly₁⟩
      rw [Attempt.effect_bind_ok wrote₂] at failed
      obtain ⟨cause, stuck⟩ | ⟨t₃, wrote₃, -⟩ :=
        Partly.writeFile_cases separate made mem written₂ partly₂ map
          (by simp [mapName_ne_fullName b.name, mapName_ne_minName b.name]) code.map
      · rw [Attempt.effect_bind_error stuck] at failed
        cases failed
        exact ⟨written₂, .map text minified (trailed_iff.mpr rfl) partly₂⟩
      rw [Attempt.effect_bind_ok wrote₃, Attempt.effect_bind_ok (Attempt.effect_note _ t₃)]
        at failed
      cases failed
  · rw [Attempt.effect_bind_error unassembled] at failed
    cases failed
    refine ⟨.refl t, .source (Bundle.mem_readOrder_iff.mp ?_) lost (.refl t b)⟩
    rw [split]
    exact List.mem_append_right others List.mem_cons_self

/-! ## Behind finished modules -/

section

variable (separate : s.Separate (before ++ k :: after) t)
  (made : t.ensureDirectory s.outputDir = (.ok (), t))
  (written : Written (s.Places before t) t u)

include separate made written

/-- What was built before leaves the artifacts of a module as they were. -/
theorem Partly.of_written {texts : List (String × String)} (partly : s.Partly u v k texts) :
    s.Partly t v k texts := by
  refine ⟨partly.holds, fun name artifact unlisted => ?_⟩
  refine (partly.kept name artifact unlisted).trans (node?_of_written written fun l leads => ?_)
  exact separate.not_places made ⟨k, List.mem_cons_self, name, artifact, leads⟩

theorem Broken.of_written (broken : s.Broken minify u v k e) : s.Broken minify t v k e := by
  have mem : k ∈ before ++ k :: after := List.mem_append_right before List.mem_cons_self
  have underway : s.Underway (before ++ k :: after) t u :=
    written.mono (fun l place => place.mono (List.subset_append_left before _)) fun _ m => m
  have reassembled : ∀ {script},
      ((k.assemble s.root s.stampedVersion).effect u).1 = .ok script →
        ((k.assemble s.root s.stampedVersion).effect t).1 = .ok script := by
    intro script assembled
    have steady : Attempt.Steady (s.Underway (before ++ k :: after) t) (fun _ => False)
        (BuildError.Alike (s.Blocked (before ++ k :: after) t))
        (k.assemble s.root s.stampedVersion) := steady_assemble separate mem
    have alike := (steady.effect underway (.refl t) nofun).1
    rw [Attempt.effect] at assembled
    rw [assembled] at alike
    exact alike.eq_ok
  cases broken with
  | source read lost partly => exact .source read lost (partly.of_written separate made written)
  | full assembled partly =>
    exact .full (reassembled assembled) (partly.of_written separate made written)
  | script assembled refused partly =>
    exact .script (reassembled assembled) refused (partly.of_written separate made written)
  | min assembled taken partly =>
    exact .min (reassembled assembled) taken (partly.of_written separate made written)
  | map assembled taken trailed partly =>
    exact .map (reassembled assembled) taken trailed (partly.of_written separate made written)

end

/-- Modules behind the first that fails are not built. -/
theorem buildInTurn_stops (built : (s.buildInTurn minify before).effect t = (.ok artifacts, u))
    (failed : (s.pipeline minify k).effect u = (.error e, v)) (after : List Bundle) :
    (s.buildInTurn minify (before ++ k :: after)).effect t = (.error e, v) := by
  induction before generalizing t artifacts with
  | nil =>
    cases built
    rw [List.nil_append, buildInTurn, Attempt.effect_bind_error failed]
  | cons b before ih =>
    obtain ⟨a, more, t', rfl, first, rest⟩ := effect_buildInTurn_cons_iff.mp built
    rw [List.cons_append, buildInTurn, Attempt.effect_bind_ok first,
      Attempt.effect_bind_error (ih rest)]

/-- Where a module fails, the build ends. -/
theorem effect_build_error {schedule : Schedule}
    (resolved : Bundle.ofModules s.groups s.modules = .ok bundles)
    (ensured : t.ensureDirectory s.outputDir = (.ok (), t₁))
    (failed : (if s.parallel then s.buildSideBySide minify schedule bundles
      else s.buildInTurn minify bundles).effect t₁ = (.error e, v)) :
    (s.build minify schedule).effect t = (.error e, v) := by
  rw [build, Attempt.effect_bind_ok (Attempt.effect_notes _ t),
    Attempt.effect_bind_ok (Attempt.effect_notes _ t), resolved,
    Attempt.effect_bind_ok (Attempt.effect_ofExcept _ t),
    Attempt.effect_bind_ok (Attempt.effect_note _ t),
    Attempt.effect_bind_ok (effect_ensureDirectory ensured)]
  dsimp only
  split
  · rename_i sideBySide
    rw [if_pos sideBySide] at failed
    exact Attempt.effect_bind_error failed
  · rename_i inTurn
    rw [if_neg inTurn] at failed
    exact Attempt.effect_bind_error failed

/-- How a build stands that ended with the failure of one module: `t` is the tree at the
start, `t₁` that tree with the output directory made, and `v` the tree at the end. -/
structure Halted (s : Settings) (minify : Minifier) (before : List Bundle) (k : Bundle)
    (after : List Bundle) (artifacts : List Artifacts) (e : BuildError) (t t₁ v : FileSystem) :
    Prop where
  finished : List.Forall₂ (s.Finished minify t₁ v) before artifacts
  broken : s.Broken minify t₁ v k e
  waiting : ∀ l, s.Places after t₁ l → v.lookup? l = t₁.lookup? l
  /-- Everything else is as it was, but for directories on the way to the output directory. -/
  frame : ∀ l, ¬ s.Places (before ++ [k]) t₁ l →
    v.lookup? l = t.lookup? l ∨
      t.lookup? l = none ∧ v.lookup? l = some .directory ∧ t₁.Along s.outputDir.lineage l
  workDir : v.workDir = t.workDir

theorem halted_of_effect (ensured : t.ensureDirectory s.outputDir = (.ok (), t₁))
    (separate : s.Separate (before ++ k :: after) t₁)
    (built : (s.buildInTurn minify before).effect t₁ = (.ok artifacts, u))
    (failed : (s.pipeline minify k).effect u = (.error e, v)) :
    s.Halted minify before k after artifacts e t t₁ v := by
  have made : t₁.ensureDirectory s.outputDir = (.ok (), t₁) :=
    ensureDirectory_of_grown ensured (.refl t₁ (W := fun _ => True) (M := fun _ => True))
  have separate₁ : s.Separate before t₁ := separate.sublist (List.sublist_append_left before _)
  obtain ⟨home, files, opens, overlay, places, laid⟩ := modules_overlaid ensured separate₁ built
  have written : Written (s.Places before t₁) t₁ u :=
    overlay.written.mono (fun l here => (places l).mp here) fun _ m => m
  obtain ⟨one, broken⟩ := broken_of_pipeline (separate.written written)
    (ensureDirectory_of_grown ensured written) (List.mem_append_right before List.mem_cons_self)
    failed
  have one : Written (k.Places s.outputDir t₁) u v :=
    one.mono (fun l => (Bundle.places_iff_of_written written).mp) fun _ m => m
  have all : Written (s.Places (before ++ [k]) t₁) t₁ v := by
    refine (written.mono ?_ fun _ m => m).trans (one.mono ?_ fun _ m => m)
    · exact fun l place => place.mono (List.subset_append_left before [k])
    · exact fun l place => ⟨k, List.mem_append_right _ (List.mem_singleton.mpr rfl), place⟩
  constructor
  · refine List.forall₂_iff_get.mpr ⟨laid.length_eq, fun i hi hi' => ?_⟩
    obtain ⟨script, minified, made', here⟩ := (List.forall₂_iff_get.mp laid).2 i hi hi'
    have mem : before[i] ∈ before := List.getElem_mem hi
    have opens₁ := opens (List.ne_nil_of_mem mem)
    refine Laid.finished (separate₁.written all) (opens₁.grown all) mem made' ?_
    -- The module that fails writes elsewhere.
    refine here.of_agree separate₁ opens₁ mem fun l place => one.lookup?_eq (fun other => ?_) id
    exact separate.not_places made ⟨k, List.mem_cons_self, other⟩ ⟨_, mem, place⟩
  · exact broken.of_written separate made written
  · intro l place
    refine all.lookup?_eq ?_ id
    have apart : s.Separate ((before ++ [k]) ++ after) t₁ := by simpa using separate
    exact apart.not_places made place
  · intro l free
    have grows := (grown_ensureAll ensured).node l
    rw [all.lookup?_eq free id]
    exact grows.cases_made.imp_right fun ⟨along, nothing, there⟩ => ⟨nothing, there, along⟩
  · exact all.workDir.trans (grown_ensureAll ensured).workDir

/-- **A build in turn stops at the first module that fails**, and returns its failure.  The
modules before it are finished; it has written its artifacts up to the step at which it
failed; those of the modules behind it are as they were when the output directory had been
made; and everything else is as it was, but for that directory and what it lies in. -/
theorem build_stops_at_first_failure (s : Settings) (minify : Minifier) (schedule : Schedule)
    (w : World) (before after : List Bundle) (k : Bundle) (artifacts : List Artifacts)
    (e : BuildError) (t₁ u : FileSystem) (inTurn : s.parallel = false)
    (resolved : Bundle.ofModules s.groups s.modules = .ok (before ++ k :: after))
    (ensured : w.files.ensureDirectory s.outputDir = (.ok (), t₁))
    (separate : s.Separate (before ++ k :: after) t₁)
    (built : (s.buildInTurn minify before).effect t₁ = (.ok artifacts, u))
    (failed : ((s.pipeline minify k).effect u).1 = .error e) :
    ((s.build minify schedule).run w).1 = .error e ∧
      s.Halted minify before k after artifacts e w.files t₁
        ((s.build minify schedule).run w).2.files := by
  have stuck := Attempt.effect_of_fst failed
  have stopped := buildInTurn_stops built stuck after
  have ended : (s.build minify schedule).effect w.files =
      (.error e, ((s.pipeline minify k).effect u).2) :=
    effect_build_error resolved ensured (by rw [if_neg (by simp [inTurn]), stopped])
  rw [Attempt.run_fst, Attempt.files_run, ended]
  exact ⟨rfl, halted_of_effect ensured separate built stuck⟩

end Settings

/-! ## The reader behind the writer -/

namespace Sample

/-- The writer is built first, and then the reader, which looks below what the writer has
written. -/
def relay : Settings where
  __ := Settings.default
  parallel := false
  modules := [module "a" ⟨"f"⟩, module "r" ⟨"build/a.js/x"⟩]

theorem separate_relay : relay.Separate [writer, reader] tree where
  plain := by decide
  distinct := by decide
  apart := by decide
  straight _ _ _ _ := not_isLink _
  unread b mem p read place found c mem' := by
    have swap : ∀ d ∈ [writer, reader], d ∈ [reader, writer] := by simp [or_comm]
    exact separate.unread b (swap b mem) p read place found c (swap c mem')

/-- Below the place of the script no file can be read, be the script there or not. -/
theorem exists_reader_error {u : FileSystem} (written : Written (fun _ => True) tree u) :
    ∃ e, ((relay.pipeline .verbatim reader).effect u).1 = .error e := by
  obtain ⟨fragments, held, -⟩ | ⟨_, p, _, cause, -, -, -, unassembled⟩ :=
    Bundle.effect_assemble_cases u reader relay.root relay.stampedVersion
  · obtain ⟨text, -, holds⟩ := exists_of_forall₂ held (a := ⟨"build/a.js/x"⟩) (by decide)
    obtain ⟨l, found⟩ := node?_eq_some_iff.mp holds
    cases resolve_below.symm.trans (resolve_of_written written found)
  · rw [Settings.pipeline, Attempt.effect_bind_ok (Attempt.effect_note _ u),
      Attempt.effect_bind_error unassembled]
    exact ⟨_, rfl⟩

/-- The writer is finished when the reader fails. -/
theorem build_stops_at_first_failure_reader : ∃ a e u,
    relay.parallel = false ∧
      Bundle.ofModules relay.groups relay.modules = .ok ([writer] ++ reader :: []) ∧
      tree.ensureDirectory relay.outputDir = (.ok (), tree) ∧
      relay.Separate ([writer] ++ reader :: []) tree ∧
      (relay.buildInTurn .verbatim [writer]).effect tree = (.ok [a], u) ∧
      ((relay.pipeline .verbatim reader).effect u).1 = .error e ∧
      ((relay.build .verbatim []).run ⟨tree, []⟩).1 = .error e ∧
      relay.Halted .verbatim [writer] reader [] [a] e tree tree
        ((relay.build .verbatim []).run ⟨tree, []⟩).2.files := by
  obtain ⟨a, u, first, written⟩ := exists_effect_pipeline_writer
  have built : (relay.buildInTurn .verbatim [writer]).effect tree = (.ok [a], u) :=
    Settings.effect_buildInTurn_cons_iff.mpr ⟨a, [], u, rfl, first, rfl⟩
  obtain ⟨e, failed⟩ := exists_reader_error written
  have resolved : Bundle.ofModules relay.groups relay.modules = .ok ([writer] ++ reader :: []) :=
    rfl
  have stopped := relay.build_stops_at_first_failure .verbatim [] ⟨tree, []⟩ [writer] [] reader [a]
    e tree u rfl resolved opens.ensureDirectory separate_relay built failed
  exact ⟨a, e, u, rfl, resolved, opens.ensureDirectory, separate_relay, built, failed, stopped⟩

end Sample

end ReleaseBundle
