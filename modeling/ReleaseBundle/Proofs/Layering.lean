import Mathlib
import ReleaseBundle.Loading
import ReleaseBundle.Proofs.Directory

/-!
# Which layer decides

Settings have two parts.  A **scalar** can be set in every layer, and a layer that is
written over others decides where it says something (`Scalar.get_layered`).  What the
**project** is, its own file says alone: no layer touches it (`projectPart_layered`).

Loading reads the user's file, then the project's, then the variables, each over what was
read before (`effect_load`).  Hence each scalar has the value of the highest layer that
sets it, whatever the others say, and the project is a function of the path and the
content of its file (`load_takes_highest_layer`).  In which directory the user's file is, is
for the system to say.
-/

namespace ReleaseBundle

/-! ## The two parts of settings -/

/-- What the project's file alone decides. -/
structure ProjectPart where
  root : Path
  groups : Manifest
  modules : List ModuleDecl
  testBundles : Projection
  projections : List Projection
  watchedDirs : List Path
deriving DecidableEq

namespace ProjectPart

/-- The part where there is no file. -/
def unset : ProjectPart where
  root := ⟨"."⟩
  groups := .empty
  modules := []
  testBundles := ⟨⟨"test-bundles"⟩, [], false⟩
  projections := []
  watchedDirs := []

/-- The part that a file at a path says, where it is silent that without a file.  The root is
seen from the directory of the file. -/
def ofFile (path : Path) (sections : ProjectSections) : ProjectPart where
  root := (sections.root?.map (projectBase path).join).getD (projectBase path)
  groups := sections.groups?.getD unset.groups
  modules := sections.modules?.getD unset.modules
  testBundles :=
    match sections.testBundles? with
    | none => unset.testBundles
    | some (dir?, modules) => ⟨dir?.getD unset.testBundles.dir, modules, false⟩
  projections := sections.projections?.getD unset.projections
  watchedDirs := sections.watchedDirs?.getD unset.watchedDirs

end ProjectPart

namespace Settings

/-- What the project is. -/
def projectPart (s : Settings) : ProjectPart :=
  ⟨s.root, s.groups, s.modules, s.testBundles, s.projections, s.watchedDirs⟩

/-- The settings of another project with the same scalars. -/
def withPart (s : Settings) (part : ProjectPart) : Settings :=
  { s with
    root := part.root
    groups := part.groups
    modules := part.modules
    testBundles := part.testBundles
    projections := part.projections
    watchedDirs := part.watchedDirs }

theorem withPart_projectPart (s : Settings) : s.withPart s.projectPart = s := rfl

/-- A project's file is read over settings that are still without a project as a layer, and
then it says what the project is. -/
theorem withProject_eq {s : Settings} (fresh : s.projectPart = .unset) (path : Path)
    (file : ConfigFile) :
    s.withProject path file = (s.apply file.layer).withPart (.ofFile path file.project) := by
  obtain ⟨root, outDir, version, codeName, parallel, groups, modules, testBundles, projections,
    watchedDirs⟩ := s
  obtain ⟨rfl, rfl, rfl, rfl, rfl, rfl⟩ := ProjectPart.mk.inj fresh
  obtain ⟨layer, root?, groups?, modules?, testBundles?, projections?, watchedDirs?⟩ := file
  cases root? <;> cases testBundles? <;> rfl

/-- The settings with layers over them, of which the first is the highest. -/
def layered (layers : List Layer) (s : Settings) : Settings :=
  layers.foldr (fun layer s => s.apply layer) s

/-- No layer touches the project. -/
theorem projectPart_layered (layers : List Layer) (s : Settings) :
    (s.layered layers).projectPart = s.projectPart := by
  induction layers with
  | nil => rfl
  | cons layer layers ih => exact ih

end Settings

/-- A setting that layers can set. -/
structure Scalar (α : Type) where
  get : Settings → α
  value? : Layer → Option α
  get_apply : ∀ s layer, get (s.apply layer) = (value? layer).getD (get s)
  get_withPart : ∀ s part, get (Settings.withPart s part) = get s

namespace Scalar

variable {α : Type} (x : Scalar α)

def outDir : Scalar Path := ⟨Settings.outDir, Layer.outDir?, fun _ _ => rfl, fun _ _ => rfl⟩

def version : Scalar String := ⟨Settings.version, Layer.version?, fun _ _ => rfl, fun _ _ => rfl⟩

def codeName : Scalar String := ⟨Settings.codeName, Layer.codeName?, fun _ _ => rfl, fun _ _ => rfl⟩

def parallel : Scalar Bool := ⟨Settings.parallel, Layer.parallel?, fun _ _ => rfl, fun _ _ => rfl⟩

/-- The value in the highest of some layers that set it, the highest coming first. -/
def highest? (layers : List Layer) : Option α := layers.findSome? x.value?

/-- **The highest layer decides.** -/
theorem get_layered (layers : List Layer) (s : Settings) :
    x.get (s.layered layers) = (x.highest? layers).getD (x.get s) := by
  induction layers with
  | nil => rfl
  | cons layer layers ih =>
    rw [Settings.layered, List.foldr_cons, x.get_apply, ← Settings.layered, ih, highest?, highest?,
      List.findSome?_cons]
    cases x.value? layer <;> rfl

end Scalar

/-! ## The files of configuration -/

/-- What is at the path of a configuration file: nothing that is a file, or the text of a
configuration. -/
inductive FileSystem.ConfigAt (t : FileSystem) (path : Path) : Option ConfigFile → Prop where
  | absent (missing : t.isFile path = false) : t.ConfigAt path none
  | present {text : String} {file : ConfigFile} (held : t.HoldsText path text)
      (parsed : ConfigFile.parse text = some file) : t.ConfigAt path (some file)

/-- The user's file, which lies in the directory of the user's files: there may be none. -/
inductive FileSystem.UserFile (t : FileSystem) : Except String Path → Option ConfigFile → Prop where
  | nowhere (reason : String) : t.UserFile (.error reason) none
  | somewhere {dir : Path} {file? : Option ConfigFile}
      (found : t.ConfigAt ((dir.child "ngbundle").child "ngbundle.toml") file?) :
      t.UserFile (.ok dir) file?

/-- The project's file: the one that is named must be there. -/
inductive FileSystem.ProjectFile (t : FileSystem) : Option Path → Option ConfigFile → Prop where
  | named {path : Path} {file : ConfigFile} (found : t.ConfigAt path (some file)) :
      t.ProjectFile (some path) (some file)
  | unnamed {file? : Option ConfigFile} (found : t.ConfigAt ⟨configFileName⟩ file?) :
      t.ProjectFile none file?

namespace FileSystem

variable {t : FileSystem} {path : Path} {text : String}

theorem HoldsText.isFile (held : t.HoldsText path text) : t.isFile path = true := by
  rw [FileSystem.isFile, show t.node? path = some (.file text.toUTF8) from held]

theorem ConfigAt.isFile_eq {file? : Option ConfigFile} (found : t.ConfigAt path file?) :
    t.isFile path = file?.isSome := by
  cases found with
  | absent missing => exact missing
  | present held _ => exact held.isFile

end FileSystem

namespace Settings

variable {t : FileSystem} {env : Environment} {configDir : Except String Path} {path : Path}
  {s : Settings} {user? project? : Option ConfigFile}

theorem effect_asked (t : FileSystem) (path : Path) :
    (Attempt.request (.isFile path) : Attempt ConfigError Bool).effect t =
      (.ok (t.isFile path), t) :=
  Attempt.effect_request (.isFile path) t

theorem effect_readFile {file : ConfigFile} (found : t.ConfigAt path (some file)) :
    (readFile path).effect t = (.ok file, t) := by
  cases found with
  | @present text _ held parsed =>
    have asked : (Attempt.request (.readText path) : Attempt ConfigError _).effect t =
        (.ok (.ok text), t) := by
      rw [← FileSystem.readText_eq_ok_iff.mpr held]
      exact Attempt.effect_request (.readText path) t
    rw [readFile, Attempt.effect_bind_ok (Attempt.effect_orFail asked), parsed]
    rfl

/-- The layers of files that are there. -/
def fileLayers (files : List (Option ConfigFile)) : List Layer :=
  (files.filterMap id).map ConfigFile.layer

theorem effect_readUser (s : Settings) (found : t.UserFile configDir user?) :
    (s.readUser configDir).effect t = (.ok (s.layered (fileLayers [user?])), t) := by
  cases found with
  | nowhere reason => exact Attempt.effect_bind_ok (Attempt.effect_note _ t)
  | @somewhere dir _ found =>
    have asked := effect_asked t (userConfigPath dir)
    have found : t.ConfigAt (userConfigPath dir) user? := found
    rw [found.isFile_eq] at asked
    rw [readUser, Attempt.effect_bind_ok asked]
    cases user? with
    | none => rfl
    | some file =>
      rw [Option.isSome_some, if_pos rfl, Attempt.effect_bind_ok (effect_readFile found)]
      -- What is said about sections of a project changes nothing.
      cases file.project.isEmpty <;> rfl

/-- What the project is, by the path on the command line and the file that is read. -/
def projectOf (chosen? : Option Path) : Option ConfigFile → ProjectPart
  | none => .unset
  | some file => .ofFile (chosen?.getD ⟨configFileName⟩) file.project

theorem effect_readProject (fresh : s.projectPart = .unset) {file : ConfigFile}
    (found : t.ConfigAt path (some file)) :
    (s.readProject path).effect t =
      (.ok ((s.apply file.layer).withPart (.ofFile path file.project)), t) := by
  rw [readProject, Attempt.effect_bind_ok (effect_readFile found), withProject_eq fresh]
  rfl

theorem effect_readNamedProject {chosen? : Option Path} (fresh : s.projectPart = .unset)
    (found : t.ProjectFile chosen? project?) :
    (s.readNamedProject chosen?).effect t =
      (.ok ((s.layered (fileLayers [project?])).withPart (projectOf chosen? project?)), t) := by
  cases found with
  | @named path file found =>
    have asked := effect_asked t path
    rw [found.isFile_eq] at asked
    rw [readNamedProject, Attempt.effect_bind_ok asked]
    exact effect_readProject fresh found
  | unnamed found =>
    have asked := effect_asked t ⟨configFileName⟩
    rw [found.isFile_eq] at asked
    rw [readNamedProject, Attempt.effect_bind_ok asked]
    cases project? with
    | none =>
      have same : s.withPart .unset = s := by rw [← fresh, withPart_projectPart]
      show _ = (Except.ok (s.withPart .unset), t)
      rw [same]
      rfl
    | some file => exact effect_readProject fresh found

/-- **What loading comes to**: the layers over the defaults, and what the project's file
says. -/
theorem effect_load {chosen? : Option Path} (userFile : t.UserFile configDir user?)
    (projectFile : t.ProjectFile chosen? project?) :
    (load env configDir chosen?).effect t =
      (.ok ((default.layered (env.layer :: fileLayers [project?, user?])).withPart
        (projectOf chosen? project?)), t) := by
  have fresh : (default.layered (fileLayers [user?])).projectPart = .unset :=
    projectPart_layered _ _
  rw [load, Attempt.effect_bind_ok (effect_readUser default userFile),
    Attempt.effect_bind_ok (effect_readNamedProject fresh projectFile), readEnvironment,
    Attempt.effect_bind_ok (Attempt.effect_notes _ t)]
  cases project? <;> cases user? <;> rfl

/-- A project's file that is named and is not there is a failure. -/
theorem effect_load_missing (userFile : t.UserFile configDir user?)
    (missing : t.isFile path = false) :
    (load env configDir (some path)).effect t = (.error (.missing path), t) := by
  have asked := effect_asked t path
  rw [missing] at asked
  rw [load, Attempt.effect_bind_ok (effect_readUser default userFile), readNamedProject,
    Attempt.effect_bind, Attempt.effect_bind_ok asked]
  rfl

end Settings

/-! ## The command line -/

/-- What the command line of a build can set over all layers.  It can ask for one module
after the other, but not for modules side by side. -/
structure Overrides where
  outDir? : Option Path
  version? : Option String
  codeName? : Option String
  sequential : Bool

/-- The layer of the command line. -/
def Overrides.layer (o : Overrides) : Layer where
  outDir? := o.outDir?
  version? := o.version?
  codeName? := o.codeName?
  parallel? := if o.sequential then some false else none

/-- The texts of a variable that stand for a boolean. -/
def flagWords : Bool → List String
  | true => ["1", "true", "yes", "on"]
  | false => ["0", "false", "no", "off"]

/-- A variable's text stands for a boolean if it is one of its words, blanks around it and
case aside. -/
theorem flag?_eq_some_iff {text : String} {b : Bool} :
    Environment.flag? text = some b ↔
      (String.ofList (Text.trimBlanks text.toList)).toLower ∈ flagWords b := by
  rw [Environment.flag?]
  generalize (String.ofList (Text.trimBlanks text.toList)).toLower = word
  constructor
  · intro read
    split at read <;> cases read <;> decide
  · intro mem
    cases b <;> simp only [flagWords, List.mem_cons, List.not_mem_nil, or_false] at mem <;>
      rcases mem with rfl | rfl | rfl | rfl <;> rfl

/-- A variable sets how modules are built if its text stands for a boolean. -/
theorem parallel?_layer_iff {env : Environment} {b : Bool} :
    env.layer.parallel? = some b ↔
      ∃ text, (env.lookup "NGBUNDLE_PARALLEL").bind String.fromUTF8? = some text ∧
        (String.ofList (Text.trimBlanks text.toList)).toLower ∈ flagWords b := by
  show (env.text? "NGBUNDLE_PARALLEL" >>= Environment.flag?) = some b ↔ _
  simp only [Environment.text?, Option.bind_eq_bind, Option.bind_eq_some_iff, flag?_eq_some_iff]

/-- What the first says that says anything: the command line, which asks for a value, a variable,
to which one is set, the project's file, and the user's file. -/
def firstOf? {α : Type} (asked? set? : Option α) (project? user? : Option ConfigFile)
    (value? : Layer → Option α) : Option α :=
  asked?.or <| set?.or <| (project?.bind fun file => value? file.layer).or <|
    user?.bind fun file => value? file.layer

theorem findSome?_layers {α : Type} (command environment : Layer)
    (project? user? : Option ConfigFile) (value? : Layer → Option α) :
    (command :: environment :: Settings.fileLayers [project?, user?]).findSome? value? =
      firstOf? (value? command) (value? environment) project? user? value? := by
  have step : ∀ (layer : Layer) (layers : List Layer),
      (layer :: layers).findSome? value? = (value? layer).or (layers.findSome? value?) := by
    intro layer layers
    rw [List.findSome?_cons]
    cases value? layer <;> rfl
  rw [step, step, firstOf?]
  cases project? <;> cases user? <;> simp [Settings.fileLayers, step]

namespace Settings

/-- **The highest layer that sets a scalar decides.**  If the files of the user and of the
project, where they are there, are texts of configurations, loading succeeds and leaves the
files as they are.  With the command line over it, each scalar has the value of the first
of command line, variable, project's file and user's file that sets it, and else that of
the defaults; a variable whose value is no text sets nothing, and neither does one for how
modules are built that stands for no boolean.  What the project is hangs on its file alone:
the path, and what stands in it.  Only a project's file that is named must be there. -/
theorem load_takes_highest_layer (env : Environment) (configDir : Except String Path)
    (chosen? : Option Path) (overrides : Overrides) (w : World) (user? project? : Option ConfigFile)
    (userFile : w.files.UserFile configDir user?)
    (projectFile : w.files.ProjectFile chosen? project?) :
    (∃ s flag?, ((load env configDir chosen?).run w).1 = .ok s ∧
      ((load env configDir chosen?).run w).2.files = w.files ∧
      (∀ b, flag? = some b ↔
        ∃ text, (env.lookup "NGBUNDLE_PARALLEL").bind String.fromUTF8? = some text ∧
          (String.ofList (Text.trimBlanks text.toList)).toLower ∈ flagWords b) ∧
      let final := s.apply overrides.layer
      final.outDir = (firstOf? overrides.outDir?
          (((env.lookup "NGBUNDLE_OUT_DIR").bind String.fromUTF8?).map Path.ofText) project? user?
          Layer.outDir?).getD ⟨"build"⟩ ∧
        final.version = (firstOf? overrides.version?
          ((env.lookup "NGBUNDLE_VERSION").bind String.fromUTF8?) project? user?
          Layer.version?).getD "0.0.0" ∧
        final.codeName = (firstOf? overrides.codeName?
          ((env.lookup "NGBUNDLE_CODE_NAME").bind String.fromUTF8?) project? user?
          Layer.codeName?).getD "snapshot" ∧
        final.parallel = (firstOf? (if overrides.sequential then some false else none) flag?
          project? user? Layer.parallel?).getD true ∧
        final.projectPart = projectOf chosen? project?) ∧
      ∀ path, w.files.isFile path = false →
        ((load env configDir (some path)).run w).1 = .error (.missing path) := by
  have loaded : (load env configDir chosen?).effect w.files = _ :=
    effect_load userFile projectFile
  refine ⟨⟨_, env.layer.parallel?, by rw [Attempt.run_fst, loaded],
    by rw [Attempt.files_run, loaded], fun _ => parallel?_layer_iff, ?_⟩, ?_⟩
  · intro final
    have whole : final = (default.layered (overrides.layer :: env.layer ::
        fileLayers [project?, user?])).withPart (projectOf chosen? project?) := rfl
    have scalar : ∀ {α : Type} (x : Scalar α), x.get final =
        (firstOf? (x.value? overrides.layer) (x.value? env.layer) project? user?
          x.value?).getD (x.get default) := by
      intro α x
      rw [whole, x.get_withPart, x.get_layered, Scalar.highest?, findSome?_layers]
    exact ⟨scalar .outDir, scalar .version, scalar .codeName, scalar .parallel, rfl⟩
  · intro path missing
    rw [Attempt.run_fst, effect_load_missing userFile missing]

end Settings

namespace Sample

open FileSystem

def userText : String := "version = \"1.0.0\"\ncode_name = \"user\"\nparallel = false\n"

def projectText : String := "root = \"src\"\nout_dir = \"dist\"\nversion = \"2.0.0\"\n"

/-- A home with a file of the user in it, and a file of a project in the working
directory. -/
def configured : FileSystem :=
  ((((bare []).put [octets "ngbundle.toml"] (.file projectText.toUTF8)).put [octets "u"]
      .directory).put [octets "u", octets "ngbundle"] .directory).put
    [octets "u", octets "ngbundle", octets "ngbundle.toml"] (.file userText.toUTF8)

/-- One variable sets the version, another holds no text, and a third stands for no boolean. -/
def surroundings : Environment :=
  [("NGBUNDLE_VERSION", "3.0.0".toUTF8), ("NGBUNDLE_OUT_DIR", ⟨#[0x6f, 0xff]⟩),
    ("NGBUNDLE_PARALLEL", "maybe".toUTF8)]

/-- What the two files say. -/
def userSays : ConfigFile :=
  ⟨{ version? := some "1.0.0", codeName? := some "user", parallel? := some false },
    ⟨none, none, none, none, none, none⟩⟩

def projectSays : ConfigFile :=
  ⟨{ outDir? := some ⟨"dist"⟩, version? := some "2.0.0" },
    ⟨some ⟨"src"⟩, none, none, none, none, none⟩⟩

theorem parse_userText : ConfigFile.parse userText = some userSays := by rfl

theorem parse_projectText : ConfigFile.parse projectText = some projectSays := by rfl

theorem userFile_configured : configured.UserFile (.ok ⟨"/u"⟩) (some userSays) := by
  have sound : pathFault? ⟨"/u/ngbundle/ngbundle.toml"⟩ = none := rfl
  have walked : configured.walk .followed 40 []
      [[], octets "u", octets "ngbundle", octets "ngbundle.toml"] =
      .ok ⟨[octets "u", octets "ngbundle", octets "ngbundle.toml"],
        some (.file userText.toUTF8)⟩ := by cbv
  have held : configured.HoldsText ⟨"/u/ngbundle/ngbundle.toml"⟩ userText :=
    node?_eq_some_iff.mpr ⟨_, (resolve_of_sound sound).trans walked⟩
  exact .somewhere (.present held parse_userText)

theorem projectFile_configured : configured.ProjectFile none (some projectSays) := by
  have sound : pathFault? ⟨"ngbundle.toml"⟩ = none := rfl
  have walked : configured.walk .followed 40 [] [octets "ngbundle.toml"] =
      .ok ⟨[octets "ngbundle.toml"], some (.file projectText.toUTF8)⟩ := by cbv
  have held : configured.HoldsText ⟨"ngbundle.toml"⟩ projectText :=
    node?_eq_some_iff.mpr ⟨_, (resolve_of_sound sound).trans walked⟩
  exact .unnamed (.present held parse_projectText)

/-- Each layer decides about something: the version is that of the variables, the output
directory that of the project's file, and the code name that of the user's file, which also
decides how modules are built, for the variable says nothing about it. -/
theorem load_takes_highest_layer_configured :
    configured.UserFile (.ok ⟨"/u"⟩) (some userSays) ∧
      configured.ProjectFile none (some projectSays) ∧
      ∃ s, ((Settings.load surroundings (.ok ⟨"/u"⟩) none).run ⟨configured, []⟩).1 = .ok s ∧
        s.version = "3.0.0" ∧ s.outDir = ⟨"dist"⟩ ∧ s.codeName = "user" ∧ s.parallel = false ∧
        s.root = ⟨"./src"⟩ ∧ s.watchedDirs = [] := by
  obtain ⟨⟨s, flag?, loaded, -, spoken, outDir, version, codeName, parallel, part⟩, -⟩ :=
    Settings.load_takes_highest_layer surroundings (.ok ⟨"/u"⟩) none ⟨none, none, none, false⟩
      ⟨configured, []⟩ (some userSays) (some projectSays) userFile_configured projectFile_configured
  have silent : flag? = none := by
    have nothing : Environment.flag? "maybe" = none := by cbv
    refine Option.eq_none_iff_forall_not_mem.mpr fun b mem => ?_
    obtain ⟨text, said, word⟩ := (spoken b).mp mem
    obtain rfl : "maybe" = text := Option.some.inj said
    rw [← flag?_eq_some_iff, nothing] at word
    cases word
  rw [silent] at parallel
  exact ⟨userFile_configured, projectFile_configured, s, loaded, version, outDir, codeName,
    parallel, congrArg ProjectPart.root part, congrArg ProjectPart.watchedDirs part⟩

end Sample

end ReleaseBundle
