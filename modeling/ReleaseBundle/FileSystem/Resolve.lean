import ReleaseBundle.FileSystem.Basic

/-!
# Where a path leads

A path is read segment by segment, from the root or the working directory: an
idle segment stays, ".." goes up, and a name goes down.  A link on the way is
replaced by the segments of its target, so one path may take many turns; the
number of links one path may follow is bounded, which ends every walk.  Each
segment needs a directory to stand in.  The last name may be missing: the walk
then tells where it would be.  What becomes of a link in the last place depends on
the operation, and one that makes a file refuses slashes behind the last name,
whether the path or a link on the way wrote them.
-/

namespace ReleaseBundle

namespace FileSystem

/-- How many links one path may follow. -/
def linkLimit : Nat := 40

/-- How many bytes a name may have. -/
def nameLimit : Nat := 255

/-- How many bytes a path may have. -/
def pathLimit : Nat := 4095

/-- What a walk does in the last place. -/
inductive Ending where
  /-- A link is taken as it is. -/
  | atLink
  /-- A link is followed. -/
  | followed
  /-- A link is followed, and the last name is to be a file's. -/
  | asFile
deriving DecidableEq, Repr

/-- Where a walk ends: a location, and what is there. -/
structure Place where
  location : Location
  node? : Option Node

/-- Walks on from the location `here`; `links` tells how many links may still be
followed. -/
def walk (t : FileSystem) (ending : Ending) (links : Nat) (here : Location) :
    List Name → Except IoError Place
  | [] => .ok ⟨here, t.lookup? here⟩
  | segment :: rest =>
    match t.lookup? here with
    | some .directory =>
      if Path.isIdle segment then t.walk ending links here rest
      else if segment = [dot, dot] then t.walk ending links here.dropLast rest
      else if ending = .asFile && rest ≠ [] && rest.all List.isEmpty then .error .isADirectory
      else if nameLimit < segment.length then .error .nameTooLong
      else
        match t.lookup? (here ++ [segment]) with
        | none => if rest = [] then .ok ⟨here ++ [segment], none⟩ else .error .notFound
        | some (.link target) =>
          if rest = [] && ending = .atLink then .ok ⟨here ++ [segment], some (.link target)⟩
          else
            match links with
            | 0 => .error .tooManyLinks
            | links + 1 =>
              let start := if target.head? = some slash then [] else here
              t.walk ending links start (Path.segments target ++ rest)
        | some _ => t.walk ending links (here ++ [segment]) rest
    | _ => .error .notADirectory
termination_by segments => (links, segments.length)

/-- Where the segments of a path lead. -/
def resolve (t : FileSystem) (ending : Ending) (p : Path) : Except IoError Place :=
  if p.spelling.isEmpty then .error .notFound
  else if p.spelling.contains 0 then .error .nulInPath
  else if pathLimit < p.spelling.length then .error .nameTooLong
  else
    t.walk ending linkLimit (if p.isAbsolute then [] else t.workDir)
      (Path.segments p.spelling)

/-- What a path leads to, following links. -/
def node? (t : FileSystem) (p : Path) : Option Node :=
  match t.resolve .followed p with
  | .ok place => place.node?
  | .error _ => none

/-- Whether a path leads to a file. -/
def isFile (t : FileSystem) (p : Path) : Bool :=
  match t.node? p with
  | some (.file _) => true
  | _ => false

/-- Whether a path leads to a directory. -/
def isDirectory (t : FileSystem) (p : Path) : Bool :=
  match t.node? p with
  | some .directory => true
  | _ => false

end FileSystem

end ReleaseBundle
