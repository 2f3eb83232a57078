import ReleaseBundle.Path
import ReleaseBundle.Settings

/-!
# Command line arguments

The words of a command line: options of the program, the name of a command, and
options of the command.  An option's value is the word after it, or stands in the
same word; a value that starts with a dash must stand in the same word, for a
word with a dash is an option.  Options of the program may stand on both sides of
the command's name, once on each side, and the nearer side counts.  Words are
read from left to right, and the first that asks for help, or is wrong, decides.
A value in a word of its own is taken only when the next option is read, or when
all words are: until then a command, or one that asks for help, may come before
its refusal.
-/

namespace ReleaseBundle.CommandLine

/-- What the program is to do. -/
inductive Command where
  /-- Build all modules, with the settings of the command line over all others. -/
  | build (overrides : Layer)
  | validate
deriving DecidableEq, Repr

/-- What a command line asks for. -/
inductive Invocation where
  | run (config? : Option Path) (verbosity : Nat) (command : Command)
  | help
  | version
  | wrong
deriving DecidableEq, Repr

/-- An option with a value. -/
inductive Setting where
  | config
  | outDir
  | version
  | codeName
deriving DecidableEq, Repr

/-- The options on one side of the command's name. -/
structure Side where
  config? : Option Path := none
  verbosity : Nat := 0
deriving DecidableEq, Repr

/-- The words read so far. -/
structure Progress where
  outer : Side := {}
  /-- The side behind the command's name, with the command. -/
  inner? : Option (Side × Command) := none
  /-- The option whose value was read last and is not yet taken. -/
  waiting? : Option (Setting × String) := none
  /-- Whether the last value before the command's name was refused. -/
  refused : Bool := false
deriving DecidableEq, Repr

namespace Progress

/-- Changes the side that is being read; there may be nothing to change to. -/
def changeSide (p : Progress) (change : Side → Option Side) : Option Progress :=
  match p.inner? with
  | none => (fun side => { p with outer := side }) <$> change p.outer
  | some (inner, command) =>
    (fun side => { p with inner? := some (side, command) }) <$> change inner

/-- Changes the overrides of a build; before and behind other commands there are
none. -/
def changeLayer (p : Progress) (change : Layer → Option Layer) : Option Progress :=
  match p.inner? with
  | some (inner, .build layer) =>
    (fun layer => { p with inner? := some (inner, .build layer) }) <$> change layer
  | _ => none

/-- A path that may stand on the command line. -/
def path? (text : String) : Option Path := if text.isEmpty then none else some ⟨text⟩

/-- Whether an option may stand at the present place. -/
def accepts (p : Progress) : Setting → Bool
  | .config => true
  | _ =>
    match p.inner? with
    | some (_, .build _) => true
    | _ => false

/-- Gives an option its value, which it must not have. -/
def set (p : Progress) (setting : Setting) (text : String) : Option Progress :=
  match setting with
  | .config =>
    p.changeSide fun side =>
      if side.config?.isSome then none
      else (fun path => { side with config? := some path }) <$> path? text
  | .outDir =>
    p.changeLayer fun layer =>
      if layer.outDir?.isSome then none
      else (fun path => { layer with outDir? := some path }) <$> path? text
  | .version =>
    p.changeLayer fun layer =>
      if layer.version?.isSome then none else some { layer with version? := some text }
  | .codeName =>
    p.changeLayer fun layer =>
      if layer.codeName?.isSome then none else some { layer with codeName? := some text }

/-- Takes the value that waits. -/
def settle (p : Progress) : Option Progress :=
  match p.waiting? with
  | none => some p
  | some (setting, text) => { p with waiting? := none }.set setting text

/-- Enters a command.  A value that waits and is refused is remembered, for the
command's words come first. -/
def enter (p : Progress) (command : Command) : Progress :=
  match p.settle with
  | some p => { p with inner? := some ({}, command) }
  | none => { p with inner? := some ({}, command), waiting? := none, refused := true }

/-- Asks for more records. -/
def moreVerbose (p : Progress) : Option Progress :=
  p.changeSide fun side => some { side with verbosity := side.verbosity + 1 }

/-- Asks for one module after the other, once. -/
def sequential (p : Progress) : Option Progress :=
  p.changeLayer fun layer =>
    if layer.parallel?.isSome then none else some { layer with parallel? := some false }

/-- What the words ask for when they are all read. -/
def finish (p : Progress) : Invocation :=
  match p.settle with
  | none => .wrong
  | some p =>
    match p.refused, p.inner? with
    | false, some (inner, command) =>
      .run (inner.config?.or p.outer.config?)
        (if inner.verbosity = 0 then p.outer.verbosity else inner.verbosity) command
    | _, _ => .wrong

end Progress

/-- What a word leads to. -/
inductive Step where
  | next (p : Progress)
  /-- The value of the option is the next word. -/
  | valueOf (setting : Setting) (p : Progress)
  | stop (r : Invocation)

/-- The step to the words so far, if there are such. -/
def Step.ofOption : Option Progress → Step
  | some p => .next p
  | none => .stop .wrong

/-- The step of an option whose value may stand in the same word. -/
def Step.ofSetting (p : Progress) (setting : Setting) (value? : Option String) : Step :=
  if p.accepts setting then
    match value? with
    | some value => .ofOption (p.set setting value)
    | none => .valueOf setting p
  else .stop .wrong

/-- Whether a word is an option. -/
def isOption (word : String) : Bool :=
  match word.toList with
  | '-' :: _ :: _ => true
  | _ => false

/-- Reads an option with a long name. -/
def longOption (p : Progress) (name : String) (value? : Option String) : Step :=
  match name with
  | "config" => .ofSetting p .config value?
  | "out-dir" => .ofSetting p .outDir value?
  | "ng-version" => .ofSetting p .version value?
  | "code-name" => .ofSetting p .codeName value?
  | _ =>
    if value?.isSome then .stop .wrong
    else
      match name with
      | "verbose" => .ofOption p.moreVerbose
      | "sequential" => .ofOption p.sequential
      | "help" => .stop .help
      | "version" => if p.inner?.isNone then .stop .version else .stop .wrong
      | _ => .stop .wrong

/-- The value that stands behind the letter of an option in the same word. -/
def attached? : List Char → Option String
  | [] => none
  | '=' :: value => some (String.ofList value)
  | value => some (String.ofList value)

/-- Reads the letters of a word of short options. -/
def shortOptions (p : Progress) : List Char → Step
  | [] => .next p
  | 'c' :: rest => .ofSetting p .config (attached? rest)
  | 'o' :: rest => .ofSetting p .outDir (attached? rest)
  | 'h' :: _ => .stop .help
  | 'V' :: _ => if p.inner?.isNone then .stop .version else .stop .wrong
  | 'v' :: rest =>
    match p.moreVerbose with
    | some p => shortOptions p rest
    | none => .stop .wrong
  | _ => .stop .wrong

/-- Whether a word names a command. -/
def isCommand (word : String) : Bool := ["build", "validate", "help"].contains word

/-- Reads a word that is no option: the name of a command. -/
def commandName (p : Progress) (word : String) (rest : List String) : Step :=
  match p.inner?, word with
  | none, "build" => .next (p.enter (.build {}))
  | none, "validate" => .next (p.enter .validate)
  | none, "help" =>
    match rest with
    | [] => .stop .help
    | [name] => if isCommand name then .stop .help else .stop .wrong
    | _ => .stop .wrong
  | _, _ => .stop .wrong

/-- A long option's name, and its value if it stands in the same word. -/
def splitValue (letters : List Char) : String × Option String :=
  match letters.dropWhile (· ≠ '=') with
  | [] => (String.ofList letters, none)
  | _ :: value => (String.ofList (letters.takeWhile (· ≠ '=')), some (String.ofList value))

/-- Reads a word that is an option. -/
def optionWord (p : Progress) (letters : List Char) : Step :=
  match p.settle, letters with
  | none, _ => .stop .wrong
  | some p, '-' :: letters =>
    let (name, value?) := splitValue letters
    longOption p name value?
  | some p, letters => shortOptions p letters

/-- Reads one word; the words behind it are seen but not read. -/
def readWord (p : Progress) (word : String) (rest : List String) : Step :=
  match word.toList with
  | ['-', '-'] => if rest.isEmpty then .stop p.finish else .stop .wrong
  | '-' :: letter :: letters => optionWord p (letter :: letters)
  | _ => commandName p word rest

/-- What the words ask for, after those already read. -/
def readWords (p : Progress) : List String → Invocation
  | [] => p.finish
  | word :: rest =>
    match readWord p word rest with
    | .next p => readWords p rest
    | .stop r => r
    | .valueOf setting p =>
      match rest with
      | [] => .wrong
      | value :: rest =>
        if isOption value then .wrong
        else readWords { p with waiting? := some (setting, value) } rest

/-- What a command line asks for. -/
def read (words : List String) : Invocation := readWords {} words

end ReleaseBundle.CommandLine
