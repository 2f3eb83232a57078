/-!
# The journal of a run

What a run tells its user beside its result: **records**, each with a level, the
topic that speaks, and one line of text.  Records are data like any other
result: an operation's records are computed from its inputs, and the command
line decides which of them are shown.
-/

namespace ReleaseBundle

/-- How pressing a record is. -/
inductive Level where
  | error
  | warn
  | info
  | debug
  | trace
deriving DecidableEq, Repr

namespace Level

/-- The levels from the most pressing, numbered from one. -/
def rank : Level → Nat
  | error => 1
  | warn => 2
  | info => 3
  | debug => 4
  | trace => 5

/-- The level's name as it is printed. -/
def label : Level → String
  | error => "ERROR"
  | warn => "WARN"
  | info => "INFO"
  | debug => "DEBUG"
  | trace => "TRACE"

/-- The level of a name, in any case of letters. -/
def ofName? (name : String) : Option Level :=
  match name.toLower with
  | "error" => some error
  | "warn" => some warn
  | "info" => some info
  | "debug" => some debug
  | "trace" => some trace
  | _ => none

end Level

/-- The part of the program that writes a record. -/
inductive Topic where
  | program
  | assembly
  | config
  | descriptor
  | artifact
  | manifest
  | build
  | placeholder
  | projection
  | validation
  | version
deriving DecidableEq, Repr

/-- The topic's address as it is printed, and as a filter names it. -/
def Topic.label : Topic → String
  | program => "ngbundle"
  | assembly => "ngbundle::assembler"
  | config => "ngbundle::config"
  | descriptor => "ngbundle::descriptor"
  | artifact => "ngbundle::finalizer"
  | manifest => "ngbundle::manifest"
  | build => "ngbundle::orchestrator"
  | placeholder => "ngbundle::placeholder"
  | projection => "ngbundle::projection"
  | validation => "ngbundle::validate"
  | version => "ngbundle::version"

/-- One line of the journal. -/
structure Record where
  level : Level
  topic : Topic
  text : String
deriving DecidableEq, Repr

end ReleaseBundle
