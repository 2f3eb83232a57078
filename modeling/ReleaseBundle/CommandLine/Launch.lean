import ReleaseBundle.CommandLine.Arguments
import ReleaseBundle.CommandLine.LogFilter
import ReleaseBundle.CommandLine.LogLine
import ReleaseBundle.Loading
import ReleaseBundle.Pipeline
import ReleaseBundle.Validation

/-!
# Launching the program

A command line and the environment determine a **launch**: what is printed at
once, which records are shown and how they look, and the program to be played,
whose result is the exit status.  The status is zero for success, one for a failure
that the journal tells, and two for a command line that is wrong.
-/

namespace ReleaseBundle.CommandLine

/-- What a command line comes to. -/
structure Launch where
  /-- What is printed before the program is played. -/
  output : String
  /-- What is said before the program is played. -/
  complaint : String
  filter : LogFilter
  style : LineStyle
  program : Program Nat

/-- The name of the program. -/
def programName : String := "ngbundle"

/-- The version of the program. -/
def programVersion : String := "0.1.0"

/-- What is printed for help. -/
def usage : String :=
  "Assemble, version-stamp and minify release bundles\n\n" ++
  s!"Usage: {programName} [OPTIONS] <COMMAND>\n\n" ++
  "Commands:\n" ++
  "  build     Build every configured module and run the projections\n" ++
  "  validate  Check that the manifest and the source tree agree\n" ++
  "  help      Print this message\n\n" ++
  "Options:\n" ++
  "  -c, --config <CONFIG>  Project config file (defaults to ./ngbundle.toml)\n" ++
  "  -v, --verbose...       Increase log verbosity (-v debug, -vv trace)\n" ++
  "  -h, --help             Print help\n" ++
  "  -V, --version          Print version\n\n" ++
  "Options of build:\n" ++
  "  -o, --out-dir <OUT_DIR>        Output directory\n" ++
  "      --ng-version <NG_VERSION>  Version string to stamp into placeholders\n" ++
  "      --code-name <CODE_NAME>    Release code name\n" ++
  "      --sequential               Build modules one after another\n"

/-- The bound that the number of requests for more records sets. -/
def levelOf : Nat → Level
  | 0 => .info
  | 1 => .debug
  | _ => .trace

/-- The variable that writes a filter. -/
def filterVariable : String := "RUST_LOG"

/-- The filter for a number of requests for more records; the environment's
directives stand over it, as far as they can be read. -/
def filterFor (env : Environment) (verbosity : Nat) : LogFilter × List FilterFault :=
  let filter := LogFilter.upTo (levelOf verbosity)
  match env.text? filterVariable with
  | some text => filter.addText text
  | none => (filter, [])

/-- The variable that asks for colours outright. -/
def styleVariable : String := "RUST_LOG_STYLE"

/-- The variables that ask for colours or against them. -/
def colourVariables : List String := ["NO_COLOR", "CLICOLOR_FORCE", "CLICOLOR", "TERM", "CI"]

/-- Whether colours suit the environment: a variable forbids them, or one forces
them, or the records go to a terminal that knows colours. -/
def wantsColours (env : Environment) (toTerminal : Bool) : Bool :=
  let isFilled (name : String) : Bool := (env.lookup name).any fun value => !value.isEmpty
  let asked? : Option Bool := (env.lookup "CLICOLOR").map (· != "0".toUTF8)
  let knowsColours := (env.lookup "TERM").any (· != "dumb".toUTF8)
  !isFilled "NO_COLOR" &&
    (isFilled "CLICOLOR_FORCE" ||
      asked?.getD true && toTerminal &&
        (knowsColours || asked?.getD false || (env.lookup "CI").isSome))

/-- How records look. -/
def styleFor (env : Environment) (toTerminal : Bool) : LineStyle :=
  match env.text? styleVariable with
  | some "always" => .coloured
  | some "never" => .plain
  | _ => if wantsColours env toTerminal then .coloured else .plain

/-- The overrides with an output directory seen from the working directory. -/
def overridesFrom (workDir : Path) (layer : Layer) : Layer :=
  { layer with outDir? := workDir.join <$> layer.outDir? }

/-- What a run needs beside its settings. -/
structure Setup where
  env : Environment
  /-- The directory of the user's files, or why there is none. -/
  configDir : Except String Path
  workDir : Path
  /-- Whether records go to a terminal. -/
  toTerminal : Bool
  minify : Minifier
  schedule : Schedule

/-- Builds with the given overrides, and tells where the modules are. -/
def runBuild (setup : Setup) (s : Settings) (overrides : Layer) : Attempt String Unit := do
  let s := s.apply (overridesFrom setup.workDir overrides)
  let report ← ExceptT.adapt BuildError.fullMessage (s.build setup.minify setup.schedule)
  Attempt.notes (report.modules.map fun m =>
    ⟨.info, .program, s!"  {m.module} -> {m.full.text}"⟩)

/-- Validates; any problem is a failure. -/
def runValidate (s : Settings) : Attempt String Unit := do
  let findings ← ExceptT.adapt BuildError.fullMessage s.validate
  unless findings.isClean do
    throw s!"Not all files were properly detected in the local file structure ({
      findings.problems.length} problems)"

/-- Loads the settings and runs a command. -/
def runCommand (setup : Setup) (config? : Option Path) (command : Command) :
    Attempt String Unit := do
  let s ← ExceptT.adapt (fun e : ConfigError => "Failed to load configuration: " ++ e.fullMessage)
    (Settings.load setup.env setup.configDir config?)
  match command with
  | .build overrides => runBuild setup s overrides
  | .validate => runValidate s

/-- The exit status of an attempt, whose failure is written into the journal. -/
def status (attempt : Attempt String Unit) : Program Nat := do
  match ← attempt.outcome with
  | .ok () => return 0
  | .error message =>
    Program.request (.note ⟨.error, .program, message⟩)
    return 1

/-- A launch that only prints. -/
def Launch.printing (output complaint : String) (status : Nat) : Launch :=
  ⟨output, complaint, .upTo .info, .plain, .done status⟩

/-- What a command line comes to. -/
def launch (setup : Setup) (words : List String) : Launch :=
  match read words with
  | .help => .printing usage "" 0
  | .version => .printing s!"{programName} {programVersion}\n" "" 0
  | .wrong => .printing "" ("error: the command line is wrong\n\n" ++ usage) 2
  | .run config? verbosity command =>
    let (filter, faults) := filterFor setup.env verbosity
    { output := ""
      complaint := String.join (faults.map FilterFault.complaint)
      filter
      style := styleFor setup.env setup.toTerminal
      program := status (runCommand setup config? command) }

end ReleaseBundle.CommandLine
