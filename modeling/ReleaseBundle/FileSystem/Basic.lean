import ReleaseBundle.OrderedMap
import ReleaseBundle.Path

/-!
# File systems

A file system is a finite map from **locations** to nodes, with a working
directory.  A location is the list of names that leads from the root to a node,
with no link on the way left to follow; a node is a file, a directory or a
symbolic link.  The root is always a directory.  What there is to know about
changing a file system is what a look-up finds afterwards (`lookup?_put`,
`lookup?_prune`).

What is left out: a file has one place, so there are no hard links; there are no devices or pipes;
everybody may read and write everything, and there is room for everything.  A disk that is short of
rights or of room fails with `IoError.other`, and no operation here does.
-/

namespace ReleaseBundle

/-- Why an operation on files fails. -/
inductive IoError where
  | notFound
  | alreadyExists
  | notADirectory
  | isADirectory
  | nameTooLong
  | tooManyLinks
  | notText
  | nulInPath
  /-- A failure of a disk that the file systems of this library cannot have, such
  as a lack of rights, in the words of the disk. -/
  | other (text : String)
deriving DecidableEq, Repr

/-- The failure in words. -/
def IoError.message : IoError → String
  | notFound => "No such file or directory (os error 2)"
  | alreadyExists => "File exists (os error 17)"
  | notADirectory => "Not a directory (os error 20)"
  | isADirectory => "Is a directory (os error 21)"
  | nameTooLong => "File name too long (os error 36)"
  | tooManyLinks => "Too many levels of symbolic links (os error 40)"
  | notText => "stream did not contain valid UTF-8"
  | nulInPath => "file name contained an unexpected NUL byte"
  | other text => text

/-- Where a node is: the names from the root down to it. -/
abbrev Location := List Name

/-- What can be at a location. -/
inductive Node where
  | file (bytes : ByteArray)
  | directory
  | link (target : List UInt8)

/-- Nodes are compared by their content: files byte by byte. -/
instance : DecidableEq Node
  | .file a, .file b =>
    decidable_of_iff (a.data = b.data)
      ⟨fun h => congrArg Node.file (ByteArray.ext h), fun h => by cases h; rfl⟩
  | .directory, .directory => isTrue rfl
  | .link a, .link b => decidable_of_iff (a = b) ⟨congrArg Node.link, fun h => by cases h; rfl⟩
  | .file _, .directory => isFalse nofun
  | .file _, .link _ => isFalse nofun
  | .directory, .file _ => isFalse nofun
  | .directory, .link _ => isFalse nofun
  | .link _, .file _ => isFalse nofun
  | .link _, .directory => isFalse nofun

/-- Whether a node is a file. -/
def Node.isFile : Node → Bool
  | .file _ => true
  | _ => false

/-- A tree of files, directories and links, and the directory from which
relative paths are read. -/
structure FileSystem where
  nodes : OrderedMap Location Node
  workDir : Location
deriving DecidableEq

namespace FileSystem

/-- What is at a location. -/
def lookup? (t : FileSystem) (l : Location) : Option Node :=
  if l = [] then some .directory else t.nodes.get? l

/-- The file system with a node at a location. -/
def put (t : FileSystem) (l : Location) (node : Node) : FileSystem :=
  { t with nodes := t.nodes.insert l node }

/-- The file system without what is at a location and below it. -/
def prune (t : FileSystem) (l : Location) : FileSystem :=
  { t with nodes := t.nodes.filterKeys fun k => !l.isPrefixOf k }

/-- The file system with nothing but a working directory and the directories it
lies in. -/
def bare (workDir : Location) : FileSystem :=
  (List.range workDir.length).foldl (fun t n => t.put (workDir.take (n + 1)) .directory)
    ⟨.empty, workDir⟩

/-- The entries below a location, named from there, in the order of their names:
a directory comes before its content, and its content before its next sibling. -/
def entriesBelow (t : FileSystem) (l : Location) : List (Location × Node) :=
  (t.nodes.pairs.filterMap fun (k, node) =>
    if l.isPrefixOf k && k ≠ l then some (k.drop l.length, node) else none).mergeSort
      fun (a, _) (b, _) => !decide (b < a)

/-- **What is put is found**, and nothing else changes. -/
theorem lookup?_put (t : FileSystem) {l : Location} (hl : l ≠ []) (node : Node) (k : Location) :
    (t.put l node).lookup? k = if k = l then some node else t.lookup? k := by
  rcases Decidable.em (k = []) with rfl | hk
  · simp [lookup?, Ne.symm hl]
  · simp [lookup?, put, hk, OrderedMap.get?_insert]

/-- **What is pruned is gone**, and nothing else changes. -/
theorem lookup?_prune (t : FileSystem) (l : Location) {k : Location} (hk : k ≠ []) :
    (t.prune l).lookup? k = if l.isPrefixOf k then none else t.lookup? k := by
  simp only [lookup?, prune, if_neg hk, OrderedMap.get?_filterKeys]
  cases l.isPrefixOf k <;> rfl

@[simp] theorem workDir_put (t : FileSystem) (l : Location) (node : Node) :
    (t.put l node).workDir = t.workDir := rfl

@[simp] theorem workDir_prune (t : FileSystem) (l : Location) :
    (t.prune l).workDir = t.workDir := rfl

end FileSystem

end ReleaseBundle
