import ReleaseBundle.CommandLine.Launch

/-!
# The command

The launch of a command line, played on the disk: every request of the program is
done by the operating system, and the records that the filter shows go to the
standard error as they come.  The system is told of files, and tells of them, in texts:
octets that are no text go as they are shown.
-/

open ReleaseBundle

namespace ReleaseBundle.Disk

/-- The failure of a file operation, by the number that the system gives it. -/
def ofCode (code : UInt32) (text : String) : IoError :=
  match code.toNat with
  | 2 => .notFound
  | 17 => .alreadyExists
  | 20 => .notADirectory
  | 21 => .isADirectory
  | 36 => .nameTooLong
  | 40 => .tooManyLinks
  | _ => .other text

/-- The failure that the system reports. -/
def ofError (e : IO.Error) : IoError :=
  match e with
  | .noFileOrDirectory .. => .notFound
  | .alreadyExists .. => .alreadyExists
  | .inappropriateType _ code _ => ofCode code (toString e)
  | .invalidArgument _ code _ => ofCode code (toString e)
  | .illegalOperation code _ => ofCode code (toString e)
  | .otherError code _ => ofCode code (toString e)
  | _ => .other (toString e)

/-- An operation of the system with its failure as a value. -/
def attempt {α : Type} (action : IO α) : IO (Except IoError α) := do
  match ← action.toBaseIO with
  | .ok a => return .ok a
  | .error e => return .error (ofError e)

/-- What a path leads to, following links. -/
def kind? (path : Path) : IO (Option IO.FS.FileType) := do
  let here ← IO.currentDir
  match ← (here / path.text).metadata.toBaseIO with
  | .ok found => return some found.type
  | .error _ => return none

/-- Whether a path leads to a file. -/
def isFile (path : Path) : IO Bool := do
  match ← kind? path with
  | some .file => return true
  | _ => return false

/-- Whether a path leads to a directory. -/
def isDirectory (path : Path) : IO Bool := do
  match ← kind? path with
  | some .dir => return true
  | _ => return false

/-- The text of a file. -/
def readText (path : Path) : IO (Except IoError String) := do
  match ← attempt (IO.FS.readBinFile path.text) with
  | .error e => return .error e
  | .ok bytes =>
    match String.fromUTF8? bytes with
    | some text => return .ok text
    | none => return .error .notText

/-- Makes the first of the paths a directory, after the others where these are
what is missing. -/
def ensureAll : List Path → IO (Except IoError Unit)
  | [] => return .error .notFound
  | path :: outer => do
    if path.spelling.isEmpty then return .ok ()
    match ← attempt (IO.FS.createDir path.text) with
    | .ok () => return .ok ()
    | .error .notFound =>
      match ← ensureAll outer with
      | .error e => return .error e
      | .ok () =>
        match ← attempt (IO.FS.createDir path.text) with
        | .ok () => return .ok ()
        | .error e => return if ← isDirectory path then .ok () else .error e
    | .error e => return if ← isDirectory path then .ok () else .error e

/-- Copies a file; the source is opened before the target. -/
def copy (source target : Path) : IO (Except IoError Unit) :=
  attempt do
    let reading ← IO.FS.Handle.mk source.text .read
    let writing ← IO.FS.Handle.mk target.text .write
    writing.write (← reading.readBinToEnd)

/-- What a walk comes upon below a directory, depth first, the entries of each
directory by name; links are not followed. -/
partial def visitsBelow (dir : Path) : IO (List FileSystem.Visit) := do
  let here ← IO.currentDir
  match ← attempt (here / dir.text).readDir with
  | .error cause => return [.unreadable dir cause]
  | .ok entries =>
    let names := (entries.toList.map (octets ·.fileName)).mergeSort fun a b => !decide (b < a)
    let found ← names.mapM fun name => do
      let path := dir.child name
      match ← (here / path.text).symlinkMetadata.toBaseIO with
      | .error _ => return []
      | .ok found =>
        match found.type with
        | .file => return [.file path]
        | .dir => visitsBelow path
        | _ => return []
    return found.flatten

/-- What a walk from a path comes upon. -/
def visitsFrom (start : Path) : IO (List FileSystem.Visit) := do
  let here ← IO.currentDir
  match ← attempt (here / start.text).symlinkMetadata with
  | .error cause => return [.unreadable start cause]
  | .ok found =>
    match found.type with
    | .file => return [.file start]
    | .dir => visitsBelow start
    | .symlink =>
      match ← attempt (here / start.text).metadata with
      | .error cause => return [.unreadable start cause]
      | .ok target =>
        match target.type with
        | .dir => visitsBelow start
        | _ => return []
    | .other => return []

/-- Does what a program asks for. -/
def perform (launch : CommandLine.Launch) : (r : Request) → IO r.Answer
  | .readText path => readText path
  | .isFile path => isFile path
  | .visitsFrom start => visitsFrom start
  | .ensureDirectory path => ensureAll path.lineage
  | .writeText path text => attempt (IO.FS.writeBinFile path.text text.toUTF8)
  | .copy source target => copy source target
  | .note record =>
    if launch.filter.shows record then IO.eprint (launch.style.line record) else return ()

/-- Plays a program on the disk. -/
def play {α : Type} (launch : CommandLine.Launch) : Program α → IO α
  | .done a => return a
  | .ask request next => do
    let answer ← perform launch request
    play launch (next answer)

/-- The variables of the environment that the program reads. -/
def environment : IO Environment := do
  let names := ["NGBUNDLE_OUT_DIR", "NGBUNDLE_VERSION", "NGBUNDLE_CODE_NAME",
    Environment.parallelVariable]
  let all := names ++ [CommandLine.filterVariable, CommandLine.styleVariable] ++
    CommandLine.colourVariables
  all.filterMapM fun name => do
    return (fun value => (name, value.toUTF8)) <$> (← IO.getEnv name)

/-- The directory of the user's files: the one that is set, if it is absolute, and else one in
the user's home, if that is set. -/
def configDir : IO (Except String Path) := do
  if let some dir ← IO.getEnv "XDG_CONFIG_HOME" then
    if (Path.ofText dir).isAbsolute then return .ok ⟨dir⟩
  match ← IO.getEnv "HOME" with
  | none | some "" => return .error "Home directory could not be located"
  | some home => return .ok ((Path.ofText home).child ".config")

end ReleaseBundle.Disk

/-- Runs the command with the words of a command line. -/
def main (words : List String) : IO UInt32 := do
  let setup : CommandLine.Setup := {
    env := ← Disk.environment
    configDir := ← Disk.configDir
    workDir := ⟨toString (← IO.currentDir)⟩
    toTerminal := ← (← IO.getStderr).isTty
    minify := Minifier.verbatim
    schedule := [] }
  let launch := CommandLine.launch setup words
  IO.print launch.output
  IO.eprint launch.complaint
  let status ← Disk.play launch launch.program
  return UInt32.ofNat status
