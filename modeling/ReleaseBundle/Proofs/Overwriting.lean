import ReleaseBundle.Proofs.BuildResult
import ReleaseBundle.Proofs.Confinement
import ReleaseBundle.Text.Line

/-!
# Modules that write over each other

The report of a build tells the digest of every script, and every minified script ends with
the trailer that names its map.  Both are so in the tree that the build leaves, unless a
module is called as the minified one of another (`a` and `a.min`): the minified script of
the one and the script of the other are one file then, and of the two modules the one
that is built later has the last word (`reports_stand_unless_overwritten`).
-/

namespace ReleaseBundle

/-! ## The last line of a text -/

namespace Text

theorem charLines_cons {c : Char} {rest : List Char} (ordinary : c ≠ '\n')
    (bare : ¬ (c = '\r' ∧ rest.head? = some '\n')) :
    charLines (c :: rest) =
      match charLines rest with
      | [] => [[c]]
      | line :: more => (c :: line) :: more := by
  have apart : ∀ more, c = '\r' → rest = '\n' :: more → False := by
    rintro more rfl rfl
    exact bare ⟨rfl, rfl⟩
  exact charLines.eq_4 c rest ordinary apart

/-- A carriage return before a line break adds nothing. -/
theorem charLines_return {rest : List Char} (ends : rest.head? = some '\n') :
    charLines ('\r' :: rest) = charLines rest := by
  obtain ⟨more, rfl⟩ := List.head?_eq_some_iff.mp ends
  rfl

theorem charLines_line {line : List Char} (single : '\n' ∉ line)
    (bare : line.getLast? ≠ some '\r') : charLines (line ++ ['\n']) = [line] := by
  induction line with
  | nil => rfl
  | cons c line ih =>
    obtain ⟨ordinary, single⟩ := not_or.mp (List.mem_cons.not.mp single)
    have bare' : ¬ (c = '\r' ∧ (line ++ ['\n']).head? = some '\n') := by
      rintro ⟨rfl, next⟩
      cases line with
      | nil => exact bare rfl
      | cons d line => simp_all
    have rest : charLines (line ++ ['\n']) = [line] := by
      refine ih single fun last => bare ?_
      rw [List.getLast?_cons, last]
      rfl
    rw [List.cons_append, charLines_cons (Ne.symm ordinary) bare', rest]

/-- A line break cuts the lines of a text in two. -/
theorem exists_charLines_append (front rest : List Char) :
    ∃ init, init ≠ [] ∧ charLines (front ++ '\n' :: rest) = init ++ charLines rest := by
  induction front with
  | nil => exact ⟨[[]], by simp, rfl⟩
  | cons c front ih =>
    obtain ⟨init, ne, split⟩ := ih
    rw [List.cons_append]
    by_cases ends : c = '\n'
    · subst ends
      exact ⟨[] :: init, by simp, by rw [charLines, split, List.cons_append]⟩
    by_cases pair : c = '\r' ∧ (front ++ '\n' :: rest).head? = some '\n'
    · obtain ⟨rfl, next⟩ := pair
      exact ⟨init, ne, by rw [charLines_return next, split]⟩
    · obtain ⟨line, more, rfl⟩ := List.exists_cons_of_ne_nil ne
      exact ⟨(c :: line) :: more, by simp, by rw [charLines_cons ends pair, split]; rfl⟩

/-- **The last line** of a text that ends with a line break, a line, and a line break. -/
theorem getLast?_lines (front : String) {line : String} (single : '\n' ∉ line.toList)
    (bare : line.toList.getLast? ≠ some '\r') :
    (lines (front ++ "\n" ++ (line ++ "\n"))).getLast? = some line := by
  have text : (front ++ "\n" ++ (line ++ "\n")).toList =
      front.toList ++ '\n' :: (line.toList ++ ['\n']) := by simp
  obtain ⟨init, -, split⟩ := exists_charLines_append front.toList (line.toList ++ ['\n'])
  rw [lines, text, split, charLines_line single bare, List.map_append, List.map_singleton,
    List.getLast?_concat, String.ofList_toList]

end Text

/-- A text that ends with the trailer of a module, behind a line break.  It is the last line, if the
name of the module has no line breaks. -/
structure ClosedBy (module text : String) : Prop where
  trailer : ∃ front, text = front ++ "\n" ++ trailer module
  line : '\n' ∉ module.toList →
    (Text.lines text).getLast? = some ("//# sourceMappingURL=" ++ mapName module)

theorem closedBy_of_trailer (module front : String) :
    ClosedBy module (front ++ "\n" ++ trailer module) := by
  refine ⟨⟨front, rfl⟩, fun single => ?_⟩
  have whole : '\n' ∉ ("//# sourceMappingURL=" ++ mapName module).toList := by
    simp [mapName, single]
  have last : ("//# sourceMappingURL=" ++ module ++ ".min.js.map").toList.getLast? = some 'p' :=
    getLast?_toList_append _ (by decide)
  have bare : ("//# sourceMappingURL=" ++ mapName module).toList.getLast? ≠ some '\r' := by
    rw [mapName, ← String.append_assoc, last]
    decide
  exact Text.getLast?_lines front whole bare

theorem closedBy_withTrailer (module code : String) :
    ClosedBy module (withTrailer module code) := by
  rw [withTrailer]
  split
  · rename_i ends
    obtain ⟨front, split⟩ := List.getLast?_eq_some_iff.mp ends
    have text : code = String.ofList front ++ "\n" := by
      rw [← String.toList_inj, split]
      simp
    rw [text]
    exact closedBy_of_trailer module _
  · exact closedBy_of_trailer module code

open FileSystem

/-- A file that holds a text of some kind. -/
def FileSystem.Shows (t : FileSystem) (p : Path) (kind : String → Prop) : Prop :=
  ∃ text, t.HoldsText p text ∧ kind text

theorem FileSystem.Shows.grown {t u : FileSystem} {M : Location → Prop} {p : Path}
    {kind : String → Prop} (shows_text : t.Shows p kind) (h : Grown (fun _ => False) M t u) :
    u.Shows p kind := by
  obtain ⟨text, held, of_kind⟩ := shows_text
  exact ⟨text, held.grown h, of_kind⟩

/-- A text with a digest. -/
def DigestIs (digest text : String) : Prop := Digest.sha256 text.toUTF8 = digest

/-- What is in the files of a module in the end, if `later` are the modules that were built after
it: what its record says, except where one of these was built into the same file. -/
structure Stands (t : FileSystem) (a : Artifacts) (later : List Artifacts) : Prop where
  full : (∀ c ∈ later, a.module ≠ c.module ++ ".min") → t.Shows a.full (DigestIs a.digest)
  min : (∀ c ∈ later, c.module ≠ a.module ++ ".min") → t.Shows a.min (ClosedBy a.module)
  fullLost : ∀ c ∈ later, a.module = c.module ++ ".min" → t.Shows a.full (ClosedBy c.module)
  minLost : ∀ c ∈ later, c.module = a.module ++ ".min" → t.Shows a.min (DigestIs c.digest)

theorem Stands.grown {t u : FileSystem} {M : Location → Prop} {a : Artifacts}
    {later : List Artifacts} (stands : Stands t a later) (h : Grown (fun _ => False) M t u) :
    Stands u a later where
  full free := (stands.full free).grown h
  min free := (stands.min free).grown h
  fullLost c mem same := (stands.fullLost c mem same).grown h
  minLost c mem same := (stands.minLost c mem same).grown h

namespace Settings

variable {s : Settings} {minify : Minifier} {bundles : List Bundle} {b : Bundle}
  {t t₁ u v : FileSystem} {home : Location} {a : Artifacts} {artifacts : List Artifacts}

/-- What keeps modules from getting in each other's way, except that one may be called as the
minified one of another. -/
structure Untangled (s : Settings) (bundles : List Bundle) (t : FileSystem) : Prop where
  plain : ∀ b ∈ bundles, b.name ≠ "" ∧ '/' ∉ b.name.toList
  distinct : (bundles.map Bundle.name).Nodup
  straight : ∀ b ∈ bundles, ∀ name ∈ artifactNames b.name, ¬ t.IsLink (s.outputDir.child name)
  unread : ∀ b ∈ bundles, ∀ p, b.Reads p → ∀ place,
    t.resolve .followed (s.root.join p) = .ok place →
      ∀ c ∈ bundles, ¬ c.Places s.outputDir t place.location

theorem ne_append_min (name : String) : name ≠ name ++ ".min" := by
  intro same
  have longer := congrArg (fun text => text.toList.length) same
  simp at longer

/-- Each module alone has nothing in its way. -/
theorem Untangled.alone (untangled : s.Untangled bundles t) (mem : b ∈ bundles) :
    s.Separate [b] t := by
  constructor
  · simpa using untangled.plain b mem
  · simp
  · simpa using ne_append_min b.name
  · simpa using untangled.straight b mem
  · intro c mem' p read place found d mem''
    obtain rfl := List.mem_singleton.mp mem'
    obtain rfl := List.mem_singleton.mp mem''
    exact untangled.unread _ mem p read place found _ mem

/-- A pipeline that succeeds has made its artifacts, and has written nothing else. -/
theorem made_of_pipeline (alone : s.Separate [b] t) (opens : t.Opens s.outputDir home)
    (built : (s.pipeline minify b).effect t = (.ok a, u)) :
    Written (s.Places [b] t) t u ∧ ∃ script minified, s.Made minify t b a script minified ∧
      s.Laid home u b script minified := by
  have written : Written (s.Places [b] t) t ((s.pipeline minify b).effect t).2 :=
    (steady_pipeline alone opens (List.mem_singleton.mpr rfl)).keeps (.refl t)
  rw [built] at written
  exact ⟨written, exists_of_pipeline alone opens (List.mem_singleton.mpr rfl) built⟩

/-! ## Files of two modules -/

theorem eq_of_fullName_mem {module module' : String}
    (h : fullName module ∈ artifactNames module') :
    module = module' ∨ module = module' ++ ".min" := by
  obtain same | same | same := mem_artifactNames_iff.mp h
  · exact Or.inl ((String.append_left_inj _).mp same)
  · exact Or.inr (eq_append_of_full_eq_min same)
  · exact absurd same.symm (map_ne_script (by decide))

theorem eq_of_minName_mem {module module' : String} (h : minName module ∈ artifactNames module') :
    module = module' ∨ module' = module ++ ".min" := by
  obtain same | same | same := mem_artifactNames_iff.mp h
  · exact Or.inr (eq_append_of_full_eq_min same.symm)
  · exact Or.inl ((String.append_left_inj _).mp same)
  · exact absurd same.symm (map_ne_script (by decide))

theorem fullName_append_min (module : String) : fullName (module ++ ".min") = minName module := by
  rw [fullName, minName, String.append_assoc]
  rfl

/-- Modules built later leave alone what none of their artifacts is called. -/
theorem node?_of_later {later : List Bundle} {name : String} (alone : s.Separate [b] t)
    (others : ∀ c ∈ later, s.Separate [c] t) (opens : t.Opens s.outputDir home)
    (written : Written (s.Places later t) t u) (artifact : name ∈ artifactNames b.name)
    (free : ∀ c ∈ later, name ∉ artifactNames c.name) :
    u.node? (s.outputDir.child name) = t.node? (s.outputDir.child name) := by
  have mem : b ∈ [b] := List.mem_singleton.mpr rfl
  refine node?_of_written written fun l leads ⟨c, mem', place⟩ => ?_
  obtain ⟨name', artifact', -, there⟩ :=
    ((others c mem').places_iff opens (List.mem_singleton.mpr rfl)).mp place
  have here := eq_of_leadsTo_child opens (alone.isName mem artifact)
    (alone.straight b mem name artifact) leads
  obtain rfl : name = name' := octets_inj.mp (by simpa using here.symm.trans there)
  exact free c mem' artifact'

/-- The names and paths in the records of artifacts. -/
structure Recorded (s : Settings) (bundles : List Bundle) (artifacts : List Artifacts) : Prop where
  names : artifacts.map Artifacts.module = bundles.map Bundle.name
  full : ∀ a ∈ artifacts, a.full = s.outputDir.child (fullName a.module)
  min : ∀ a ∈ artifacts, a.min = s.outputDir.child (minName a.module)

theorem Recorded.cons {more : List Artifacts} {later : List Bundle} {script : String}
    {minified : Minified} (made : s.Made minify t b a script minified)
    (recorded : s.Recorded later more) : s.Recorded (b :: later) (a :: more) := by
  have record := made.record
  refine ⟨?_, List.forall_mem_cons.mpr ⟨?_, recorded.full⟩,
    List.forall_mem_cons.mpr ⟨?_, recorded.min⟩⟩
  · rw [List.map_cons, List.map_cons, recorded.names, record]
  · rw [record]
  · rw [record]

/-- What the first of some modules has made stands as far as the later ones let it. -/
theorem stands_first {later : List Bundle} {more : List Artifacts} {script : String}
    {minified : Minified} (alone : s.Separate [b] t) (others : ∀ c ∈ later, s.Separate [c] t)
    (opens : t.Opens s.outputDir home) (made : s.Made minify t₁ b a script minified)
    (laid : s.Laid home t b script minified) (written : Written (s.Places later t) t u)
    (recorded : s.Recorded (b :: later) (a :: more))
    (distinct : ((b :: later).map Bundle.name).Nodup)
    (stands : ∀ before c after, more = before ++ c :: after → Stands u c after) :
    Stands u a more := by
  have mem : b ∈ [b] := List.mem_singleton.mpr rfl
  have named : a.module = b.name := by rw [made.record]
  obtain ⟨-, names⟩ := List.cons.inj recorded.names
  have fresh : ∀ c ∈ more, c.module ≠ a.module := by
    intro c listed same
    have among : c.module ∈ later.map Bundle.name := names ▸ List.mem_map_of_mem listed
    rw [same, named] at among
    exact (List.nodup_cons.mp distinct).1 among
  have exists_record : ∀ c ∈ later, ∃ d ∈ more, d.module = c.name := fun c listed =>
    List.mem_map.mp (names ▸ List.mem_map_of_mem listed)
  have kept : ∀ name ∈ artifactNames b.name, ∀ text,
      t.lookup? (home ++ [octets name]) = some (.file text) →
        (∀ c ∈ later, name ∉ artifactNames c.name) →
          u.node? (s.outputDir.child name) = some (.file text) := by
    intro name artifact text held free
    rw [node?_of_later alone others opens written artifact free,
      opens.node?_child (alone.isName mem artifact) (laid.sound name artifact)
        (alone.straight b mem name artifact), held]
  constructor
  · intro free
    refine ⟨script, ?_, by rw [DigestIs, made.record]⟩
    rw [recorded.full a List.mem_cons_self, named]
    refine kept _ (mem_artifactNames_self b.name) _ laid.full fun c listed artifact => ?_
    obtain ⟨d, listed', called⟩ := exists_record c listed
    rcases eq_of_fullName_mem artifact with same | same
    · exact fresh d listed' (by rw [called, named, same])
    · exact free d listed' (by rw [called, named, same])
  · intro free
    refine ⟨withTrailer b.name minified.code, ?_, named ▸ closedBy_withTrailer _ _⟩
    rw [recorded.min a List.mem_cons_self, named]
    refine kept _ (by simp [artifactNames]) _ laid.min fun c listed artifact => ?_
    obtain ⟨d, listed', called⟩ := exists_record c listed
    rcases eq_of_minName_mem artifact with same | same
    · exact fresh d listed' (by rw [called, named, same])
    · exact free d listed' (by rw [called, named, same])
  -- Of the later modules only one can be called so; nothing behind it is built into its file.
  · intro c listed same
    obtain ⟨before, after, split⟩ := List.append_of_mem listed
    have last := (stands before c after split).min fun d listed' again => by
      refine fresh d ?_ (again.trans same.symm)
      rw [split]
      exact List.mem_append_right before (List.mem_cons_of_mem c listed')
    rwa [recorded.full a List.mem_cons_self, same, fullName_append_min,
      ← recorded.min c (List.mem_cons_of_mem a listed)]
  · intro c listed same
    obtain ⟨before, after, split⟩ := List.append_of_mem listed
    have last := (stands before c after split).full fun d listed' again => by
      refine fresh d ?_ ((String.append_left_inj _).mp (again.symm.trans same))
      rw [split]
      exact List.mem_append_right before (List.mem_cons_of_mem c listed')
    rwa [recorded.min a List.mem_cons_self, ← fullName_append_min, ← same,
      ← recorded.full c (List.mem_cons_of_mem a listed)]

/-- **Modules built one after the other**: each record stands as far as the later modules
let it. -/
theorem stands_of_buildInTurn (alone : ∀ b ∈ bundles, s.Separate [b] t)
    (distinct : (bundles.map Bundle.name).Nodup) (opens : t.Opens s.outputDir home)
    (built : (s.buildInTurn minify bundles).effect t = (.ok artifacts, u)) :
    Written (s.Places bundles t) t u ∧ s.Recorded bundles artifacts ∧
      ∀ before a after, artifacts = before ++ a :: after → Stands u a after := by
  induction bundles generalizing t artifacts with
  | nil =>
    cases built
    exact ⟨.refl _, ⟨rfl, nofun, nofun⟩, by simp⟩
  | cons b later ih =>
    obtain ⟨a, more, t', rfl, first, rest⟩ := effect_buildInTurn_cons_iff.mp built
    obtain ⟨one, script, minified, made, laid⟩ :=
      made_of_pipeline (alone b List.mem_cons_self) opens first
    have others : ∀ c ∈ later, s.Separate [c] t' := fun c mem =>
      (alone c (List.mem_cons_of_mem b mem)).written one
    obtain ⟨written, recorded, stands⟩ :=
      ih others (List.nodup_cons.mp distinct).2 (opens.grown one) rest
    refine ⟨?_, recorded.cons made, fun before c after split => ?_⟩
    · refine (one.mono ?_ fun _ m => m).trans (written.mono ?_ fun _ m => m)
      · exact fun l place => place.mono (List.cons_subset_cons b (List.nil_subset later))
      · exact fun l place =>
          ((places_iff_of_written one).mp place).mono (List.subset_cons_self b later)
    · cases before with
      | nil =>
        obtain ⟨rfl, rfl⟩ := List.cons.inj split
        exact stands_first ((alone b List.mem_cons_self).written one) others (opens.grown one) made
          laid written (recorded.cons made) distinct stands
      | cons _ before => exact stands before c after (List.cons.inj split).2

/-- Projections that list no modules write no files. -/
theorem grown_of_applyAll {targets : List Path}
    (unprojected : ∀ p ∈ s.allProjections, p.modules = [])
    (projected : (Projection.applyAll s.outputDir s.allProjections).effect u = (.ok targets, v)) :
    Grown (fun _ => False) (fun _ => True) u v := by
  have within : (Projection.applyAll s.outputDir s.allProjections).Within (fun _ => False)
      fun _ => True := by
    refine Projection.within_applyAll (fun _ _ => trivial) fun p mem c copied => ?_
    rw [Projection.copies, unprojected p mem] at copied
    cases copied
  have confined := Attempt.confined_of_within within u
  rw [projected] at confined
  refine confined.mono ?_ fun _ _ => trivial
  rintro l ⟨path, never, -⟩
  exact never

/-- **Reports stand unless overwritten.**  Where a build in turn has succeeded that projects
nothing, the script of every module has the digest that is reported, and its minified script ends
with its own trailer, unless a later module has been built into that file: one called as
the minified one of this module, or one that this module is the minified one of.  Then the file
is as that later module has made it. -/
theorem reports_stand_unless_overwritten (s : Settings) (minify : Minifier) (schedule : Schedule)
    (w : World) (bundles : List Bundle) (report : Report) (t₁ : FileSystem)
    (inTurn : s.parallel = false) (resolved : Bundle.ofModules s.groups s.modules = .ok bundles)
    (ensured : w.files.ensureDirectory s.outputDir = (.ok (), t₁))
    (untangled : s.Untangled bundles t₁) (unprojected : ∀ p ∈ s.allProjections, p.modules = [])
    (built : ((s.build minify schedule).run w).1 = .ok report) :
    ∀ before a after, report.modules = before ++ a :: after →
      Stands ((s.build minify schedule).run w).2.files a after := by
  obtain ⟨t, u, artifacts, copied, ensured', turned, projected, rfl⟩ :=
    exists_of_build inTurn resolved (Attempt.effect_of_run built)
  obtain rfl : t₁ = t := (Prod.mk.inj (ensured.symm.trans ensured')).2
  intro before a after split
  cases bundles with
  | nil =>
    cases turned
    simp at split
  | cons b later =>
    obtain ⟨_, _, _, -, first, -⟩ := effect_buildInTurn_cons_iff.mp turned
    obtain ⟨home, opens⟩ :=
      exists_opens_of_pipeline ensured (untangled.plain b List.mem_cons_self).2 first
    obtain ⟨-, -, stands⟩ := stands_of_buildInTurn (fun c mem => untangled.alone mem)
      untangled.distinct opens turned
    exact (stands before a after split).grown (grown_of_applyAll unprojected projected)

end Settings

/-! ## A module called as the minified one of another -/

namespace Sample

/-- Called as the minified one of the writer. -/
def twin : Bundle := bundle "a.min" ⟨"f"⟩

/-- The writer and its twin, built in turn. -/
def overlapping : Settings where
  __ := Settings.default
  parallel := false
  modules := [module "a" ⟨"f"⟩, module "a.min" ⟨"f"⟩]

theorem not_places_source {c : Bundle} (mem : c ∈ [writer, twin]) :
    ¬ c.Places overlapping.outputDir tree [octets "f"] := by
  intro own
  have plain : ∀ c ∈ [writer, twin], '/' ∉ c.name.toList := by decide
  obtain ⟨name, -, -, below⟩ :=
    (Bundle.places_iff opens (plain c mem) fun _ _ => not_isLink _).mp own
  simp at below

theorem untangled_overlapping : overlapping.Untangled [writer, twin] tree where
  plain := by decide
  distinct := by decide
  straight _ _ _ _ := not_isLink _
  unread b mem p read place found c mem' := by
    have single : ∀ b ∈ [writer, twin], ∀ p ∈ b.readOrder, p = ⟨"f"⟩ := by decide
    obtain rfl := single b mem p (Bundle.mem_readOrder_iff.mpr read)
    cases resolve_source.symm.trans found
    exact not_places_source mem'

/-- The twin is built after the writer, into the file of its minified script. -/
theorem exists_effect_inTurn : ∃ a c u,
    (overlapping.buildInTurn .verbatim [writer, twin]).effect tree = (.ok [a, c], u) ∧
      Written (fun _ => True) tree u ∧ a.module = "a" ∧ u.HoldsText a.min "f\nf\nf" := by
  obtain ⟨a, t₁, first, -⟩ := exists_effect_pipeline_writer
  have first : (overlapping.pipeline .verbatim writer).effect tree = (.ok a, t₁) := first
  obtain ⟨one, _, _, made, -⟩ :=
    Settings.made_of_pipeline (untangled_overlapping.alone List.mem_cons_self) opens first
  have before : Written (fun _ => True) tree t₁ := one.mono (fun _ _ => trivial) fun _ m => m
  have mem : twin ∈ [twin] := List.mem_singleton.mpr rfl
  have alone : overlapping.Separate [twin] t₁ :=
    (untangled_overlapping.alone (List.mem_cons_of_mem writer mem)).written one
  have source : t₁.HoldsText ⟨"./f"⟩ "f" := by
    refine (node?_of_written one fun l leads place => ?_).trans holds_source
    obtain rfl := leads.unique ⟨_, resolve_source⟩
    obtain ⟨b, single, own⟩ := place
    obtain rfl := List.mem_singleton.mp single
    exact not_places_source List.mem_cons_self own
  have held : List.Forall₂ (fun p text => t₁.HoldsText (overlapping.root.join p) text)
      twin.readOrder ["f", "f", "f"] := .cons source (.cons source (.cons source .nil))
  have assembled : (twin.assemble overlapping.root overlapping.stampedVersion).effect t₁ =
      (.ok "f\nf\nf", t₁) := by
    rw [Bundle.effect_assemble_ok held]
    cbv
  have free : ∀ name ∈ artifactNames "a.min", childFault? overlapping.outputDir name = none ∧
      tree.lookup? ([octets "build"] ++ [octets name]) = none := by
    simp only [lookup?_tree]
    decide
  have here := opens.grown before
  obtain ⟨c, u, second, after⟩ : ∃ c u,
      (overlapping.pipeline .verbatim twin).effect t₁ = (.ok c, u) ∧
        Written (fun _ => True) t₁ u := by
    refine Settings.exists_effect_pipeline alone here mem assembled rfl fun name artifact => ?_
    rw [writeFault?_written before]
    exact writeFault?_tree (free name artifact).1 (free name artifact).2
  have rest : (overlapping.buildInTurn .verbatim [twin]).effect t₁ = (.ok [c], u) :=
    Settings.effect_buildInTurn_cons_iff.mpr ⟨c, [], u, rfl, second, rfl⟩
  refine ⟨a, c, u, Settings.effect_buildInTurn_cons_iff.mpr ⟨a, [c], t₁, rfl, first, rest⟩,
    before.trans after, by rw [made.record]; rfl, ?_⟩
  obtain ⟨-, script, _, made', laid⟩ := Settings.made_of_pipeline alone here second
  obtain rfl : "f\nf\nf" = script :=
    Except.ok.inj ((congrArg Prod.fst assembled).symm.trans made'.assembled)
  have place : a.min = (⟨"./build"⟩ : Path).child (fullName "a.min") := by
    rw [made.record]
    rfl
  have artifact := Settings.mem_artifactNames_self "a.min"
  rw [HoldsText, place, (here.grown after).node?_child (alone.isName mem artifact)
    (laid.sound _ artifact) (not_isLink_written (before.trans after) (not_isLink _))]
  exact laid.full

theorem exists_effect_overlapping : ∃ a c u,
    (overlapping.build .verbatim []).effect tree =
        (.ok ⟨overlapping.stampedVersion, overlapping.outputDir, [a, c], []⟩, u) ∧
      a.module = "a" ∧ u.HoldsText a.min "f\nf\nf" := by
  obtain ⟨a, c, u, turned, written, named, held⟩ := exists_effect_inTurn
  have applied : (overlapping.testBundles.apply overlapping.outputDir).effect u = (.ok [], u) :=
    Projection.effect_apply_ok nofun (opens_copies.grown written)
      (Projection.effect_makeCopies_nil u)
  have projected : (Projection.applyAll overlapping.outputDir overlapping.allProjections).effect u =
      (.ok [], u) := by
    have all : overlapping.allProjections = [overlapping.testBundles] := rfl
    rw [all, Projection.applyAll, Attempt.effect_bind_ok applied]
    rfl
  exact ⟨a, c, u, Settings.effect_build_ok [] rfl rfl opens.ensureDirectory turned projected,
    named, held⟩

/-- What stands when the twin has been built behind the writer. -/
theorem reports_stand_unless_overwritten_twin : ∃ report,
    Bundle.ofModules overlapping.groups overlapping.modules = .ok [writer, twin] ∧
      tree.ensureDirectory overlapping.outputDir = (.ok (), tree) ∧
      overlapping.Untangled [writer, twin] tree ∧
      (∀ p ∈ overlapping.allProjections, p.modules = []) ∧
      ((overlapping.build .verbatim []).run ⟨tree, []⟩).1 = .ok report ∧
      ∀ before a after, report.modules = before ++ a :: after →
        Stands ((overlapping.build .verbatim []).run ⟨tree, []⟩).2.files a after := by
  obtain ⟨a, c, u, done, -, -⟩ := exists_effect_overlapping
  have unprojected : ∀ p ∈ overlapping.allProjections, p.modules = [] := by decide
  have built := (Attempt.run_fst (overlapping.build .verbatim []) ⟨tree, []⟩).trans
    (congrArg Prod.fst done)
  have stand := overlapping.reports_stand_unless_overwritten .verbatim [] ⟨tree, []⟩ [writer, twin]
    _ tree rfl rfl opens.ensureDirectory untangled_overlapping unprojected built
  exact ⟨_, rfl, opens.ensureDirectory, untangled_overlapping, unprojected, built, stand⟩

/-- **A minified script can be overwritten**: where that of the writer should be, there is the
script of its twin in the end, without a trailer. -/
theorem minified_script_can_be_overwritten :
    ¬ ∀ (s : Settings) (minify : Minifier) (schedule : Schedule) (w : World)
        (bundles : List Bundle) (report : Report) (t₁ : FileSystem),
      s.parallel = false → Bundle.ofModules s.groups s.modules = .ok bundles →
        w.files.ensureDirectory s.outputDir = (.ok (), t₁) → s.Untangled bundles t₁ →
        (∀ p, ¬ t₁.IsLink p) → (∀ p ∈ s.allProjections, p.modules = []) →
        ((s.build minify schedule).run w).1 = .ok report →
          ∀ a ∈ report.modules,
            ((s.build minify schedule).run w).2.files.Shows a.full (DigestIs a.digest) ∧
              ((s.build minify schedule).run w).2.files.Shows a.min fun text =>
                (Text.lines text).getLast? =
                  some ("//# sourceMappingURL=" ++ mapName a.module) := by
  intro stand
  obtain ⟨a, c, u, done, named, held⟩ := exists_effect_overlapping
  have built := (Attempt.run_fst (overlapping.build .verbatim []) ⟨tree, []⟩).trans
    (congrArg Prod.fst done)
  obtain ⟨-, text, shown, last⟩ := stand overlapping .verbatim [] ⟨tree, []⟩ [writer, twin] _ tree
    rfl rfl opens.ensureDirectory untangled_overlapping not_isLink (by decide) built a
    List.mem_cons_self
  rw [Attempt.files_run, done] at shown
  obtain rfl := shown.unique held
  rw [named] at last
  revert last
  decide

end Sample

end ReleaseBundle
