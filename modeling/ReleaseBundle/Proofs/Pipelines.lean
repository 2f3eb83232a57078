import ReleaseBundle.Pipeline
import ReleaseBundle.Proofs.MakingDirectories
import ReleaseBundle.Proofs.Turns

/-!
# Pipelines and the files they own

The pipeline of a module owns the places of its artifacts.  Where modules are
**separate**, no two pipelines own the same place and none reads what another
writes, so each is in accord with itself whatever the others do
(`Settings.steady_pipeline`).  The one thing it may notice is why a source is missing: below
a file that another pipeline has written, nothing can be, while before there was
nothing that anything could be below (`Alike.blocked`).
-/

namespace ReleaseBundle

/-! ## Artifact names -/

/-- The file names of a module's artifacts. -/
def artifactNames (module : String) : List String :=
  [fullName module, minName module, mapName module]

theorem mem_artifactNames_iff {module name : String} :
    name ∈ artifactNames module ↔
      name = module ++ ".js" ∨ name = module ++ ".min.js" ∨ name = module ++ ".min.js.map" := by
  simp [artifactNames, fullName, minName, mapName]

theorem isName_of_long {name : Name} (no_slash : slash ∉ name) (long : 2 < name.length) :
    Path.IsName name := by
  refine ⟨no_slash, ?_, ?_⟩
  · rw [Path.isIdle, Bool.or_eq_false_iff]
    constructor <;> refine decide_eq_false ?_ <;> rintro rfl <;> simp at long
  · rintro rfl
    simp at long

/-- A name with an ending of its own can stand in a directory. -/
theorem isName_append {module ending : String} (plain : '/' ∉ module.toList)
    (no_slash : slash ∉ octets ending) (long : 2 < (octets ending).length) :
    Path.IsName (octets (module ++ ending)) := by
  have no_slash' : slash ∉ octets module := mt (mem_octets_iff (c := '/') (by decide)).mp plain
  rw [octets_append]
  refine isName_of_long ?_ ?_
  · exact fun mem => (List.mem_append.mp mem).elim no_slash' no_slash
  · rw [List.length_append]
    omega

/-- An artifact's name can stand in a directory if the module's name has no slash. -/
theorem isName_artifact {module name : String} (plain : '/' ∉ module.toList)
    (h : name ∈ artifactNames module) : Path.IsName (octets name) := by
  obtain rfl | rfl | rfl := mem_artifactNames_iff.mp h <;>
    exact isName_append plain (by decide) (by decide)

theorem getLast?_toList_append (text : String) {ending : String} {c : Char}
    (last : ending.toList.getLast? = some c) : (text ++ ending).toList.getLast? = some c := by
  rw [String.toList_append, List.getLast?_append, last]
  rfl

/-- Only a map ends as maps do. -/
theorem map_ne_script {module module' ending : String}
    (script : ending.toList.getLast? = some 's') :
    module ++ ".min.js.map" ≠ module' ++ ending := by
  intro same
  have last := congrArg (fun name => name.toList.getLast?) same
  rw [getLast?_toList_append module' script,
    getLast?_toList_append module (c := 'p') (by decide)] at last
  cases last

theorem eq_append_of_full_eq_min {module module' : String}
    (same : module ++ ".js" = module' ++ ".min.js") : module = module' ++ ".min" := by
  refine (String.append_left_inj ".js").mp ?_
  rw [same, String.append_assoc]
  rfl

/-- Artifacts of one name belong to one module, if no module is called as another's
minified one. -/
theorem eq_of_mem_artifactNames {module module' name : String} (h : name ∈ artifactNames module)
    (h' : name ∈ artifactNames module') (apart : module ≠ module' ++ ".min")
    (apart' : module' ≠ module ++ ".min") : module = module' := by
  obtain rfl | rfl | rfl := mem_artifactNames_iff.mp h <;>
    obtain same | same | same := mem_artifactNames_iff.mp h'
  · exact (String.append_left_inj _).mp same
  · exact absurd (eq_append_of_full_eq_min same) apart
  · exact absurd same.symm (map_ne_script (by decide))
  · exact absurd (eq_append_of_full_eq_min same.symm) apart'
  · exact (String.append_left_inj _).mp same
  · exact absurd same.symm (map_ne_script (by decide))
  · exact absurd same (map_ne_script (by decide))
  · exact absurd same (map_ne_script (by decide))
  · exact (String.append_left_inj _).mp same

/-! ## Results that are alike -/

/-- The same failure, but for the reason why a source is missing: for paths that
others may have blocked, "not found" and "not a directory" are the same. -/
inductive BuildError.Alike (blocked : Path → Prop) : BuildError → BuildError → Prop where
  | same (e : BuildError) : Alike blocked e e
  | blocked {p : Path} {cause cause' : IoError} (h : blocked p)
      (lost : cause = .notFound ∨ cause = .notADirectory)
      (lost' : cause' = .notFound ∨ cause' = .notADirectory) :
      Alike blocked (.missingSource p cause) (.missingSource p cause')

/-- The same result, or failures that are related. -/
inductive SameOutcome {ε α : Type} (rel : ε → ε → Prop) : Except ε α → Except ε α → Prop where
  | ok (a : α) : SameOutcome rel (.ok a) (.ok a)
  | error {e e' : ε} (related : rel e e') : SameOutcome rel (.error e) (.error e')

theorem SameOutcome.refl {ε α : Type} {rel : ε → ε → Prop} (refl : ∀ e, rel e e)
    (result : Except ε α) : SameOutcome rel result result := by
  cases result with
  | error e => exact .error (refl e)
  | ok a => exact .ok a

theorem SameOutcome.eq_ok {ε α : Type} {rel : ε → ε → Prop} {a : α} {result : Except ε α}
    (h : SameOutcome rel (.ok a) result) : result = .ok a := by
  cases h
  rfl

namespace Attempt

open Program FileSystem

variable {ε α β : Type} {inv : FileSystem → Prop} {own : Location → Prop} {rel : ε → ε → Prop}

/-- A program that may fail, in accord with itself: foreign files change nothing but
how it fails, and that only within `rel`. -/
def Steady (inv : FileSystem → Prop) (own : Location → Prop) (rel : ε → ε → Prop)
    (attempt : Attempt ε α) : Prop :=
  InAccord inv own (SameOutcome rel) attempt.outcome attempt.outcome

theorem Steady.bind {first : Attempt ε α} {next : α → Attempt ε β} (h : Steady inv own rel first)
    (after : ∀ a, Steady inv own rel (next a)) : Steady inv own rel (first >>= next) := by
  refine InAccord.bind h fun result result' same => ?_
  cases same with
  | ok a => exact after a
  | error related => exact .done (.error related)

theorem Steady.pure (a : α) : Steady inv own rel (Pure.pure a : Attempt ε α) := .done (.ok a)

theorem Steady.throw {e : ε} (related : rel e e) :
    Steady inv own rel (MonadExcept.throw e : Attempt ε α) := .done (.error related)

/-- An operation that may fail is steady if foreign files change its answer, if at all,
from one failure to a related one. -/
theorem Steady.orFail {answer : Attempt ε (Except IoError α)} {failure : IoError → ε}
    (h : InAccord inv own
      (fun x y => ∃ a b, x = .ok a ∧ y = .ok b ∧
        SameOutcome rel (a.mapError failure) (b.mapError failure))
      answer.outcome answer.outcome) : Steady inv own rel (Attempt.orFail answer failure) := by
  refine InAccord.bind h ?_
  rintro _ _ ⟨a, b, rfl, rfl, same⟩
  cases a <;> cases b <;> exact .done same

theorem Steady.note (record : Record) :
    Steady inv own rel (Attempt.note record : Attempt ε Unit) :=
  .ask (.of_unchanged fun _ _ => rfl) fun _ _ _ _ _ => .done (.ok ())

theorem Steady.notes (records : List Record) :
    Steady inv own rel (Attempt.notes records : Attempt ε Unit) := by
  induction records with
  | nil => exact .pure ()
  | cons record records ih => exact (Steady.note record).bind fun _ => ih

end Attempt

/-! ## Separate modules -/

/-- Where the artifacts of a bundle are or would be. -/
def Bundle.Places (b : Bundle) (outDir : Path) (t : FileSystem) (l : Location) : Prop :=
  ∃ name ∈ artifactNames b.name, ∃ node?, t.resolve .followed (outDir.child name) = .ok ⟨l, node?⟩

theorem Bundle.places_iff {b : Bundle} {outDir : Path} {t : FileSystem} {home l : Location}
    (opens : t.Opens outDir home) (plain : '/' ∉ b.name.toList)
    (straight : ∀ name ∈ artifactNames b.name, ¬ t.IsLink (outDir.child name)) :
    b.Places outDir t l ↔
      ∃ name ∈ artifactNames b.name, FileSystem.childFault? outDir name = none ∧
        l = home ++ [octets name] := by
  constructor
  · rintro ⟨name, artifact, node, found⟩
    have sound_name := isName_artifact plain artifact
    cases fault : FileSystem.childFault? outDir name with
    | some cause =>
      rw [opens.resolve_of_fault sound_name fault] at found
      cases found
    | none =>
      rw [opens.resolve_child sound_name fault (straight name artifact)] at found
      exact ⟨name, artifact, fault, (FileSystem.Place.mk.inj (Except.ok.inj found)).1.symm⟩
  · rintro ⟨name, artifact, sound, rfl⟩
    exact ⟨name, artifact, _, opens.resolve_child (isName_artifact plain artifact) sound
      (straight name artifact)⟩

/-- What keeps the builds of modules apart: names that make different files, which are
no links and are read by none of them. -/
structure Settings.Separate (s : Settings) (bundles : List Bundle) (t : FileSystem) : Prop where
  /-- Names are those of files. -/
  plain : ∀ b ∈ bundles, b.name ≠ "" ∧ '/' ∉ b.name.toList
  distinct : (bundles.map Bundle.name).Nodup
  /-- No module is called as the minified one of another. -/
  apart : ∀ b ∈ bundles, ∀ c ∈ bundles, b.name ≠ c.name ++ ".min"
  straight : ∀ b ∈ bundles, ∀ name ∈ artifactNames b.name, ¬ t.IsLink (s.outputDir.child name)
  unread : ∀ b ∈ bundles, ∀ p, b.Reads p → ∀ place,
    t.resolve .followed (s.root.join p) = .ok place →
      ∀ c ∈ bundles, ¬ c.Places s.outputDir t place.location

namespace Settings

open FileSystem Attempt

variable {s : Settings} {minify : Minifier} {bundles : List Bundle} {b : Bundle} {t : FileSystem}
  {home : Location}

/-- The places of the artifacts of all bundles. -/
def Places (s : Settings) (bundles : List Bundle) (t : FileSystem) (l : Location) : Prop :=
  ∃ b ∈ bundles, b.Places s.outputDir t l

/-- The paths that run through the place of an artifact. -/
def Blocked (s : Settings) (bundles : List Bundle) (t : FileSystem) (p : Path) : Prop :=
  ∃ l, s.Places bundles t l ∧ t.PassesBy .followed p l

namespace Separate

theorem isName (separate : s.Separate bundles t) (mem : b ∈ bundles) {name : String}
    (artifact : name ∈ artifactNames b.name) : Path.IsName (octets name) :=
  isName_artifact (separate.plain b mem).2 artifact

theorem places_iff (separate : s.Separate bundles t) (opens : t.Opens s.outputDir home)
    (mem : b ∈ bundles) {l : Location} :
    b.Places s.outputDir t l ↔
      ∃ name ∈ artifactNames b.name, childFault? s.outputDir name = none ∧
        l = home ++ [octets name] :=
  Bundle.places_iff opens (separate.plain b mem).2 (separate.straight b mem)

/-- No place belongs to two bundles. -/
theorem eq_of_places (separate : s.Separate bundles t) (opens : t.Opens s.outputDir home)
    {i j : Nat} {c : Bundle} (at_i : bundles[i]? = some b) (at_j : bundles[j]? = some c)
    {l : Location} (own : b.Places s.outputDir t l) (other : c.Places s.outputDir t l) : j = i := by
  have mem := List.mem_of_getElem? at_i
  have mem' := List.mem_of_getElem? at_j
  obtain ⟨name, artifact, -, rfl⟩ := (separate.places_iff opens mem).mp own
  obtain ⟨name', artifact', -, place⟩ := (separate.places_iff opens mem').mp other
  obtain rfl : name = name' := octets_inj.mp (by simpa using place)
  have same := eq_of_mem_artifactNames artifact artifact' (separate.apart b mem c mem')
    (separate.apart c mem' b mem)
  have inside : j < (bundles.map Bundle.name).length := by
    simpa using (List.getElem?_eq_some_iff.mp at_j).1
  refine (List.getElem?_inj inside separate.distinct).mp ?_
  rw [List.getElem?_map, List.getElem?_map, at_i, at_j, Option.map_some, Option.map_some, same]

end Separate

/-! ## Steps of a pipeline -/

section Steps

variable (separate : s.Separate bundles t) (opens : t.Opens s.outputDir home) (mem : b ∈ bundles)

/-- What stays true while pipelines are played: artifacts were written, nothing
else. -/
abbrev Underway (s : Settings) (bundles : List Bundle) (t : FileSystem) : FileSystem → Prop :=
  Written (s.Places bundles t) t

include separate mem in
theorem steady_read {p : Path} (read : b.Reads p) {own : Location → Prop} :
    Steady (s.Underway bundles t) own (BuildError.Alike (s.Blocked bundles t))
      (Attempt.orFail (Attempt.request (.readText (s.root.join p)))
        (BuildError.missingSource (s.root.join p))) := by
  refine Steady.orFail (.ask (.of_unchanged fun _ _ => rfl) fun u v hu hv _ => .done ?_)
  refine ⟨_, _, rfl, rfl, ?_⟩
  have unread : ∀ place, t.resolve .followed (s.root.join p) = .ok place →
      ¬ s.Places bundles t place.location := by
    rintro place found ⟨c, hc, there⟩
    exact separate.unread b mem p read place found c hc there
  show SameOutcome _ ((u.readText _).mapError _) ((v.readText _).mapError _)
  -- Each tree answers as the one at the start, or the path is blocked in it.
  obtain read_u | ⟨⟨l, blocked⟩, lost, read_u⟩ := readText_written hu unread <;>
    obtain read_v | ⟨⟨l', blocked'⟩, lost', read_v⟩ := readText_written hv unread
  · rw [read_u, read_v]
    exact .refl .same _
  · rw [read_u, read_v, lost']
    exact .error (.blocked ⟨l', blocked'⟩ (Or.inl rfl) (Or.inr rfl))
  · rw [read_u, read_v, lost]
    exact .error (.blocked ⟨l, blocked⟩ (Or.inr rfl) (Or.inl rfl))
  · rw [read_u, read_v]
    exact .refl .same _

include opens in
theorem steady_ensureDirectory {own : Location → Prop} :
    Steady (s.Underway bundles t) own (BuildError.Alike (s.Blocked bundles t))
      (ensureDirectory s.outputDir) := by
  have unchanged : ∀ u, s.Underway bundles t u → u.ensureDirectory s.outputDir = (.ok (), u) :=
    fun u hu => (opens.grown hu).ensureDirectory
  refine Steady.orFail (.ask (.of_unchanged fun u hu => ?_) fun u v hu hv _ => .done ?_)
  · exact congrArg Prod.snd (unchanged u hu)
  · refine ⟨_, _, rfl, rfl, ?_⟩
    show SameOutcome _ ((u.ensureDirectory _).1.mapError _) ((v.ensureDirectory _).1.mapError _)
    rw [unchanged u hu, unchanged v hv]
    exact .ok ()

include separate opens mem in
theorem steady_writeFile {name : String} (artifact : name ∈ artifactNames b.name) (text : String) :
    Steady (s.Underway bundles t) (b.Places s.outputDir t) (BuildError.Alike (s.Blocked bundles t))
      (writeFile (s.outputDir.child name) text) := by
  have plain := separate.isName mem artifact
  have straight := separate.straight b mem name artifact
  -- What is written, and whether it can be, is known from the tree at the start.
  have wrote := fun u (hu : s.Underway bundles t u) =>
    (opens.grown hu).writeBytes_child plain (not_isLink_written hu straight) text.toUTF8
  refine Steady.bind (Steady.orFail ?_) fun _ => .note _
  cases fault : t.writeFault? s.outputDir home name with
  | some cause =>
    have outcome : ∀ u, s.Underway bundles t u →
        u.writeText (s.outputDir.child name) text = (.error cause, u) := by
      intro u hu
      have wrote := wrote u hu
      rwa [writeFault?_written hu, fault] at wrote
    refine .ask (.of_unchanged fun u hu => ?_) fun u v hu hv _ => .done ?_
    · exact congrArg Prod.snd (outcome u hu)
    · refine ⟨_, _, rfl, rfl, ?_⟩
      show SameOutcome _ ((u.writeText _ _).1.mapError _) ((v.writeText _ _).1.mapError _)
      rw [outcome u hu, outcome v hv]
      exact .error (.same _)
  | none =>
    have outcome : ∀ u, s.Underway bundles t u → u.writeText (s.outputDir.child name) text =
        (.ok (), u.put (home ++ [octets name]) (.file text.toUTF8)) := by
      intro u hu
      have wrote := wrote u hu
      rwa [writeFault?_written hu, fault] at wrote
    have own : b.Places s.outputDir t (home ++ [octets name]) :=
      (separate.places_iff opens mem).mpr ⟨name, artifact, (Option.or_eq_none_iff.mp fault).1, rfl⟩
    have ne : home ++ [octets name] ≠ [] := by simp
    have after : ∀ u, s.Underway bundles t u →
        (u.answer (.writeText (s.outputDir.child name) text)).2 =
          u.put (home ++ [octets name]) (.file text.toUTF8) :=
      fun u hu => congrArg Prod.snd (outcome u hu)
    refine .ask ⟨fun u hu => ?_, fun u hu k foreign => ?_, fun u v hu hv agree k mine => ?_⟩
      fun u v hu hv _ => .done ?_
    · rw [after u hu]
      refine hu.trans (grown_put_file ⟨b, mem, own⟩ _ ?_)
      exact (opens.grown hu).free_of_writeFault? plain (not_isLink_written hu straight)
        ((writeFault?_written hu _ _ _).trans fault)
    · rw [after u hu, lookup?_put u ne, if_neg]
      rintro rfl
      exact foreign own
    · rw [after u hu, after v hv, lookup?_put u ne, lookup?_put v ne, agree k mine]
    · refine ⟨_, _, rfl, rfl, ?_⟩
      show SameOutcome _ ((u.writeText _ _).1.mapError _) ((v.writeText _ _).1.mapError _)
      rw [outcome u hu, outcome v hv]
      exact .ok ()

include separate mem in
theorem steady_readAll {paths : List Path} (read : ∀ p ∈ paths, b.Reads p)
    {own : Location → Prop} :
    Steady (s.Underway bundles t) own (BuildError.Alike (s.Blocked bundles t))
      (Bundle.readAll (paths.map s.root.join)) := by
  induction paths with
  | nil => exact .pure []
  | cons p paths ih =>
    refine (steady_read separate mem (read p List.mem_cons_self)).bind fun text => ?_
    exact (ih fun q hq => read q (List.mem_cons_of_mem p hq)).bind fun texts => .pure _

include separate mem in
theorem steady_assemble {own : Location → Prop} :
    Steady (s.Underway bundles t) own (BuildError.Alike (s.Blocked bundles t))
      (b.assemble s.root s.stampedVersion) := by
  refine Steady.bind (Steady.bind ?_ fun fragments => ?_) fun text => ?_
  · exact steady_readAll separate mem fun p => Bundle.mem_readOrder_iff.mp
  · exact (Steady.note _).bind fun _ => .pure _
  · exact (Steady.notes _).bind fun _ => .pure _

include separate opens mem in
theorem steady_finalize (script : String) :
    Steady (s.Underway bundles t) (b.Places s.outputDir t) (BuildError.Alike (s.Blocked bundles t))
      (finalize b.name script s.outputDir minify) := by
  refine (steady_ensureDirectory opens).bind fun _ => ?_
  refine (steady_writeFile separate opens mem (by simp [artifactNames]) script).bind fun _ => ?_
  split
  · exact .throw (.same _)
  · refine (steady_writeFile separate opens mem (by simp [artifactNames]) _).bind fun _ => ?_
    refine (steady_writeFile separate opens mem (by simp [artifactNames]) _).bind fun _ => ?_
    exact (Steady.note _).bind fun _ => .pure _

include separate opens mem in
/-- **A pipeline does not notice the others**, except in why a source is missing that
would lie below what they write. -/
theorem steady_pipeline :
    Steady (s.Underway bundles t) (b.Places s.outputDir t) (BuildError.Alike (s.Blocked bundles t))
      (s.pipeline minify b) :=
  (Steady.note _).bind fun _ =>
    (steady_assemble separate mem).bind fun script => steady_finalize separate opens mem script

end Steps

end Settings

end ReleaseBundle
