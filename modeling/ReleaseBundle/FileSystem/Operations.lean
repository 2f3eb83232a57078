import ReleaseBundle.FileSystem.Resolve

/-!
# Reading and writing by path

The operations a program has on files, as functions of the file system: each
tells how it went and, where it writes, what the file system is afterwards.  An
operation that fails half way leaves what it had done: the directories that
`ensureDirectory` made stay, and a target that `copy` opened is empty.
-/

namespace ReleaseBundle

namespace FileSystem

/-- How a writing operation went, and the file system after it. -/
abbrev Outcome := Except IoError Unit × FileSystem

/-! ## Reading -/

/-- The bytes of the file that a path leads to. -/
def readBytes (t : FileSystem) (p : Path) : Except IoError ByteArray := do
  match (← t.resolve .followed p).node? with
  | none => .error .notFound
  | some (.file bytes) => .ok bytes
  | some .directory => .error .isADirectory
  | some (.link _) => .error .tooManyLinks

/-- The text of the file that a path leads to. -/
def readText (t : FileSystem) (p : Path) : Except IoError String := do
  match String.fromUTF8? (← t.readBytes p) with
  | some text => .ok text
  | none => .error .notText

/-! ## Writing -/

/-- Makes bytes the content of the file that a path leads to; the file is made if
it is missing, also where a link points to. -/
def writeBytes (t : FileSystem) (p : Path) (bytes : ByteArray) : Outcome :=
  match t.resolve .asFile p with
  | .error e => (.error e, t)
  | .ok ⟨_, some .directory⟩ => (.error .isADirectory, t)
  | .ok ⟨_, some (.link _)⟩ => (.error .tooManyLinks, t)
  | .ok ⟨l, _⟩ => (.ok (), t.put l (.file bytes))

/-- Makes a text the content of the file that a path leads to. -/
def writeText (t : FileSystem) (p : Path) (text : String) : Outcome :=
  t.writeBytes p text.toUTF8

/-- Whether a path is short enough to be told to the system. -/
def isTellable (p : Path) : Bool := p.spelling.length ≤ pathLimit

/-- A path without slashes at its end. -/
def withoutSlashes (p : Path) : List UInt8 :=
  (p.spelling.reverse.dropWhile (· = slash)).reverse

/-- The path that a directory is made by: slashes behind its last name say
nothing, but they count in its length. -/
def madeBy (p : Path) : Path :=
  if withoutSlashes p = [] || !isTellable p then p else ⟨withoutSlashes p⟩

/-- Makes one directory, whose place must be free and lie in a directory. -/
def makeDirectory (t : FileSystem) (p : Path) : Outcome :=
  match t.resolve .atLink (madeBy p) with
  | .error e => (.error e, t)
  | .ok ⟨_, some _⟩ => (.error .alreadyExists, t)
  | .ok ⟨l, none⟩ => (.ok (), t.put l .directory)

/-- Makes the first of the paths a directory, after the others where these are
what is missing.  A place taken by a directory is as good as a free one. -/
def ensureAll (t : FileSystem) : List Path → Outcome
  | [] => (.error .notFound, t)
  | p :: outer =>
    if p.spelling.isEmpty then (.ok (), t)
    else
      match t.makeDirectory p with
      | (.ok (), t) => (.ok (), t)
      | (.error .notFound, _) =>
        match t.ensureAll outer with
        | (.error e, t) => (.error e, t)
        | (.ok (), t) =>
          match t.makeDirectory p with
          | (.ok (), t) => (.ok (), t)
          | (.error e, _) => if t.isDirectory p then (.ok (), t) else (.error e, t)
      | (.error e, _) => if t.isDirectory p then (.ok (), t) else (.error e, t)

/-- The empty path is where one is, and there is nothing to make. -/
theorem ensureAll_of_empty {t : FileSystem} {p : Path} {outer : List Path}
    (empty : p.spelling.isEmpty = true) : t.ensureAll (p :: outer) = (.ok (), t) := by
  rw [ensureAll, if_pos empty]

/-- Makes a path a directory, with all the directories it lies in. -/
def ensureDirectory (t : FileSystem) (p : Path) : Outcome := t.ensureAll p.lineage

/-- Copies a file.  The source is found first, then the target is opened, which
empties it, and then the bytes are copied: a file copied onto itself ends
empty. -/
def copy (t : FileSystem) (source target : Path) : Outcome :=
  match t.resolve .followed source with
  | .error e => (.error e, t)
  | .ok ⟨_, none⟩ => (.error .notFound, t)
  | .ok ⟨_, some .directory⟩ => (.error .isADirectory, t)
  | .ok ⟨_, some (.link _)⟩ => (.error .tooManyLinks, t)
  | .ok ⟨l, some (.file _)⟩ =>
    match t.writeBytes target ByteArray.empty with
    | (.error e, t) => (.error e, t)
    | (.ok (), opened) =>
      match opened.lookup? l with
      | some (.file bytes) => opened.writeBytes target bytes
      | _ => (.ok (), opened)

/-! ## Listing -/

/-- What a walk comes upon. -/
inductive Visit where
  | file (path : Path)
  /-- A path that nothing can be read from, and why. -/
  | unreadable (path : Path) (cause : IoError)
deriving DecidableEq, Repr

/-- What the walk from `start` to a location comes upon at an entry below it.
Nothing below a directory is seen whose path is too long. -/
def visit? (start : Path) : Location × Node → Option Visit
  | (names, node) =>
    let path := start.childBelow names
    if !isTellable (start.childBelow names.dropLast) then none
    else
      match node with
      | .file _ => some (.file path)
      | .directory => if isTellable path then none else some (.unreadable path .nameTooLong)
      | .link _ => none

/-- What a walk comes upon below a location, with paths that go on from `start`:
depth first, the entries of each directory by name. -/
def visitsBelow (t : FileSystem) (start : Path) (l : Location) : List Visit :=
  (t.entriesBelow l).filterMap (visit? start)

/-- What a walk from a path comes upon.  A link is followed at the start of the
walk only; a link met later is no file, and neither is one at the start that leads
to a file. -/
def visitsFrom (t : FileSystem) (start : Path) : List Visit :=
  match t.resolve .atLink start with
  | .error cause => [.unreadable start cause]
  | .ok ⟨_, none⟩ => [.unreadable start .notFound]
  | .ok ⟨_, some (.file _)⟩ => [.file start]
  | .ok ⟨l, some .directory⟩ => t.visitsBelow start l
  | .ok ⟨_, some (.link _)⟩ =>
    match t.resolve .followed start with
    | .error cause => [.unreadable start cause]
    | .ok ⟨_, none⟩ => [.unreadable start .notFound]
    | .ok ⟨l, some .directory⟩ => t.visitsBelow start l
    | .ok _ => []

/-! ## Setting up -/

/-- Puts a node where a path leads, with all the directories around it; a node
that was there goes. -/
def install (t : FileSystem) (p : Path) (node : Node) : FileSystem :=
  match node with
  | .directory => (t.ensureDirectory p).2
  | .file bytes => ((around t).writeBytes p bytes).2
  | .link _ =>
    match (around t).resolve .atLink p with
    | .ok place => ((around t).prune place.location).put place.location node
    | .error _ => around t
where
  /-- The file system with the directory that the path lies in. -/
  around (t : FileSystem) : FileSystem :=
    match p.parent? with
    | some outer => (t.ensureDirectory outer).2
    | none => t

/-- Removes what a path leads to, a link itself rather than its target, with all
that is below. -/
def remove (t : FileSystem) (p : Path) : FileSystem :=
  match t.resolve .atLink p with
  | .ok place => t.prune place.location
  | .error _ => t

end FileSystem

end ReleaseBundle
