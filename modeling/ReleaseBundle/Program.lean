import ReleaseBundle.BuildError
import ReleaseBundle.FileSystem.Operations
import ReleaseBundle.Journal

/-!
# Programs

What the library does to files it does as a **program**: a value that is either
done with a result, or asks for one operation on files and goes on with the
answer.  A program does nothing by itself.  `Program.run` plays it on a `World`,
a file system with a journal, one request after the other; the command line
plays the same program on the disk.  Since a program shows its requests one by
one, several can also be played in turns (`ReleaseBundle.Schedule`).

Main statement: a program in sequence plays the first part and then the second
on the world the first one left (`run_bind`).
-/

namespace ReleaseBundle

/-- One operation that a program asks for. -/
inductive Request where
  | readText (path : Path)
  | isFile (path : Path)
  | visitsFrom (start : Path)
  | ensureDirectory (path : Path)
  | writeText (path : Path) (text : String)
  | copy (source target : Path)
  | note (record : Record)
deriving DecidableEq

/-- The type of the answer to a request. -/
abbrev Request.Answer : Request → Type
  | readText _ => Except IoError String
  | isFile _ => Bool
  | visitsFrom _ => List FileSystem.Visit
  | ensureDirectory _ => Except IoError Unit
  | writeText _ _ => Except IoError Unit
  | copy _ _ => Except IoError Unit
  | note _ => Unit

/-- A program with a result in `α`. -/
inductive Program (α : Type) where
  | done (result : α)
  | ask (request : Request) (next : request.Answer → Program α)

namespace Program

variable {α β : Type}

/-- The program that goes on with the result of the first one. -/
def bind : Program α → (α → Program β) → Program β
  | done a, f => f a
  | ask request next, f => ask request fun answer => (next answer).bind f

instance : Monad Program where
  pure := done
  bind := bind

/-- The program of a single request. -/
def request (r : Request) : Program r.Answer := ask r done

@[simp] theorem pure_eq (a : α) : (pure a : Program α) = done a := rfl

@[simp] theorem done_bind (a : α) (f : α → Program β) : (done a >>= f) = f a := rfl

@[simp] theorem ask_bind (r : Request) (next : r.Answer → Program α) (f : α → Program β) :
    (ask r next >>= f) = ask r fun answer => next answer >>= f := rfl

end Program

/-- What a program is played on: files, and the journal so far. -/
structure World where
  files : FileSystem
  journal : List Record

/-- The answer to a request, and the world after it.  Reading leaves the world as
it is; a note reaches the journal only. -/
def World.answer (w : World) : (r : Request) → r.Answer × World
  | .readText path => (w.files.readText path, w)
  | .isFile path => (w.files.isFile path, w)
  | .visitsFrom start => (w.files.visitsFrom start, w)
  | .ensureDirectory path =>
    let (result, files) := w.files.ensureDirectory path
    (result, { w with files })
  | .writeText path text =>
    let (result, files) := w.files.writeText path text
    (result, { w with files })
  | .copy source target =>
    let (result, files) := w.files.copy source target
    (result, { w with files })
  | .note record => ((), { w with journal := w.journal ++ [record] })

namespace Program

variable {α β : Type}

/-- Plays a program to its end. -/
def run : Program α → World → α × World
  | done a, w => (a, w)
  | ask request next, w =>
    let (answer, w) := w.answer request
    (next answer).run w

@[simp] theorem run_done (a : α) (w : World) : (done a).run w = (a, w) := rfl

@[simp] theorem run_ask (r : Request) (next : r.Answer → Program α) (w : World) :
    (ask r next).run w = (next (w.answer r).1).run (w.answer r).2 := rfl

/-- **Playing in sequence.** -/
@[simp] theorem run_bind (p : Program α) (f : α → Program β) (w : World) :
    (p >>= f).run w = (f (p.run w).1).run (p.run w).2 := by
  induction p generalizing w with
  | done a => rfl
  | ask r next ih => exact ih _ _

end Program

/-! ## Programs that may fail -/

/-- A program that ends with a result or with a failure. -/
abbrev Attempt (ε : Type) := ExceptT ε Program

namespace Attempt

variable {ε α : Type}

/-- The program whose result tells whether it failed. -/
def outcome (attempt : Attempt ε α) : Program (Except ε α) := ExceptT.run attempt

/-- Plays a program that may fail. -/
def run (attempt : Attempt ε α) (w : World) : Except ε α × World := attempt.outcome.run w

/-- Asks for one operation. -/
def request (r : Request) : Attempt ε r.Answer := ExceptT.lift (Program.request r)

/-- Ends with a result, or with a failure, that is known already. -/
def ofExcept (result : Except ε α) : Attempt ε α := ExceptT.mk (Program.done result)

/-- Asks for an operation that may fail, and says which failure that is. -/
def orFail (answer : Attempt ε (Except IoError α)) (failure : IoError → ε) : Attempt ε α := do
  match ← answer with
  | .ok a => return a
  | .error cause => throw (failure cause)

/-- Writes a record into the journal. -/
def note (record : Record) : Attempt ε Unit := request (.note record)

/-- Writes records into the journal. -/
def notes : List Record → Attempt ε Unit
  | [] => return
  | record :: records => do note record; notes records

end Attempt

/-- A program that may fail as builds do. -/
abbrev Build := Attempt BuildError

end ReleaseBundle
