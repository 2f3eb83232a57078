import ReleaseBundle.ConfigFile
import ReleaseBundle.Program
import ReleaseBundle.Text.Blank
import ReleaseBundle.Text.Quoted

/-!
# Loading the settings

Settings are read in layers, each over the one before: the defaults, the user's
file, the project's file, the variables of the environment, and the command
line.  The user's file counts for the scalar settings only; what a project is,
its own file says alone.
-/

namespace ReleaseBundle

/-- Why settings cannot be loaded. -/
inductive ConfigError where
  | missing (path : Path)
  | unreadable (path : Path) (cause : IoError)
  | malformed (path : Path)
deriving DecidableEq, Repr

namespace ConfigError

/-- The failure in words, without its cause. -/
def message : ConfigError → String
  | missing path => s!"Config file not found: {path.text}"
  | unreadable path _ => s!"Failed to read config file {path.text}"
  | malformed path => s!"Failed to parse config file {path.text}"

/-- The failure in words, followed by its cause. -/
def fullMessage (e : ConfigError) : String :=
  match e with
  | unreadable _ cause => e.message ++ ": " ++ cause.message
  | malformed _ => e.message ++ ": the text is no configuration"
  | missing _ => e.message

end ConfigError

/-! ## The environment -/

/-- Variables with their values, which are bytes: nothing makes them text. -/
abbrev Environment := List (String × ByteArray)

namespace Environment

/-- The text of a variable.  One whose value is no text counts as not set. -/
def text? (env : Environment) (name : String) : Option String :=
  (env.lookup name).bind String.fromUTF8?

/-- The boolean that a variable's text says, blanks and case aside. -/
def flag? (text : String) : Option Bool :=
  match (String.ofList (Text.trimBlanks text.toList)).toLower with
  | "1" => some true
  | "true" => some true
  | "yes" => some true
  | "on" => some true
  | "0" => some false
  | "false" => some false
  | "no" => some false
  | "off" => some false
  | _ => none

/-- The variable for building side by side. -/
def parallelVariable : String := "NGBUNDLE_PARALLEL"

/-- What the variables say about the scalar settings. -/
def layer (env : Environment) : Layer where
  outDir? := Path.ofText <$> env.text? "NGBUNDLE_OUT_DIR"
  version? := env.text? "NGBUNDLE_VERSION"
  codeName? := env.text? "NGBUNDLE_CODE_NAME"
  parallel? := env.text? parallelVariable >>= flag?

/-- What is said while the variables are read. -/
def records (env : Environment) : List Record :=
  match env.text? parallelVariable with
  | none => []
  | some text =>
    match flag? text with
    | some _ => []
    | none =>
      [⟨.warn, .config, s!"Ignoring {parallelVariable}={Text.quoted text}: expected a boolean"⟩]

end Environment

/-! ## Files -/

/-- The name of a configuration file. -/
def configFileName : String := "ngbundle.toml"

/-- Where the user's file is, in the directory of the user's files. -/
def userConfigPath (configDir : Path) : Path := (configDir.child "ngbundle").child configFileName

/-- The base of a project: the directory that its file lies in. -/
def projectBase (file : Path) : Path :=
  match file.parent? with
  | none => ⟨"."⟩
  | some dir => if dir.spelling.isEmpty then ⟨"."⟩ else dir

namespace Settings

/-- The settings with what the project's file says. -/
def withProject (s : Settings) (path : Path) (file : ConfigFile) : Settings :=
  let base := projectBase path
  let project := file.project
  let testBundles :=
    match project.testBundles? with
    | none => s.testBundles
    | some (dir?, modules) => { s.testBundles with dir := dir?.getD s.testBundles.dir, modules }
  { s.apply file.layer with
    root := match project.root? with
      | some root => base.join root
      | none => base
    groups := project.groups?.getD s.groups
    modules := project.modules?.getD s.modules
    testBundles
    projections := project.projections?.getD s.projections
    watchedDirs := project.watchedDirs?.getD s.watchedDirs }

/-- Reads a configuration file. -/
def readFile (path : Path) : Attempt ConfigError ConfigFile := do
  let text ← Attempt.orFail (Attempt.request (.readText path)) (.unreadable path)
  match ConfigFile.parse text with
  | some file => return file
  | none => throw (.malformed path)

/-- Reads the project's file over the settings. -/
def readProject (s : Settings) (path : Path) : Attempt ConfigError Settings := do
  let s := s.withProject path (← readFile path)
  Attempt.note ⟨.debug, .config, s!"Loaded project config {path.text} ({
    s.groups.names.length} groups, {s.modules.length} modules)"⟩
  return s

/-- Reads the user's file over the settings, if there is one.  The directory of the user's
files is found by the system, or else it says why there is none. -/
def readUser (s : Settings) (configDir : Except String Path) : Attempt ConfigError Settings := do
  match configDir with
  | .error reason =>
    Attempt.note ⟨.debug, .config, s!"No user config directory: {reason}"⟩
    return s
  | .ok dir =>
    let path := userConfigPath dir
    if ← Attempt.request (.isFile path) then
      let file ← readFile path
      unless file.project.isEmpty do
        Attempt.note ⟨.warn, .config, s!"Ignoring project sections in user config {
          path.text}; only scalar settings apply"⟩
      return s.apply file.layer
    else return s

/-- Reads the project's file over the settings: the one that is named, or the one
in the working directory if there is one. -/
def readNamedProject (s : Settings) : Option Path → Attempt ConfigError Settings
  | some path => do
    if ← Attempt.request (.isFile path) then s.readProject path
    else throw (.missing path)
  | none => do
    if ← Attempt.request (.isFile ⟨configFileName⟩) then s.readProject ⟨configFileName⟩
    else
      Attempt.note ⟨.debug, .config, s!"No {configFileName} in the working directory"⟩
      return s

/-- The settings with what the variables say. -/
def readEnvironment (s : Settings) (env : Environment) : Attempt ConfigError Settings := do
  Attempt.notes env.records
  return s.apply env.layer

/-- The settings of all layers below the command line. -/
def load (env : Environment) (configDir : Except String Path) (project? : Option Path) :
    Attempt ConfigError Settings := do
  let s ← default.readUser configDir
  let s ← s.readNamedProject project?
  s.readEnvironment env

end Settings

end ReleaseBundle
