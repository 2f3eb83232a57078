import ReleaseBundle.Settings
import ReleaseBundle.Toml.Document

/-!
# Configuration files

A configuration file is a TOML document with the scalar settings of a layer and
the sections of a project.  Nothing else may stand in it, and a value of the
wrong kind refuses the whole file.  A section has named **fields**; it is written
as a table, or as an array of its fields' values in their order.
-/

namespace ReleaseBundle

open Toml (Value Table)

/-- What a configuration file says about the project. -/
structure ProjectSections where
  root? : Option Path
  groups? : Option Manifest
  modules? : Option (List ModuleDecl)
  /-- The directory for test bundles, if it is set, and their modules. -/
  testBundles? : Option (Option Path × List String)
  projections? : Option (List Projection)
  watchedDirs? : Option (List Path)
deriving DecidableEq

/-- Whether no section of a project is there. -/
def ProjectSections.isEmpty (p : ProjectSections) : Bool :=
  p.root?.isNone && p.groups?.isNone && p.modules?.isNone && p.testBundles?.isNone &&
    p.projections?.isNone && p.watchedDirs?.isNone

/-- What a configuration file says. -/
structure ConfigFile where
  layer : Layer
  project : ProjectSections
deriving DecidableEq

namespace ConfigFile

/-! ## Values -/

/-- A string. -/
def text? : Value → Option String
  | .text value => some value
  | _ => none

/-- A path, written as a string. -/
def path? (v : Value) : Option Path := Path.ofText <$> text? v

/-- A boolean. -/
def flag? : Value → Option Bool
  | .flag value => some value
  | _ => none

/-- An array of values of one kind. -/
def list? {α : Type} (item? : Value → Option α) : Value → Option (List α)
  | .list _ items => items.mapM item?
  | _ => none

/-- The fields of a section that has the given names. -/
def fields? (names : List String) : Value → Option Table
  | .table _ entries =>
    if entries.all fun (key, _) => names.contains key then some entries else none
  | .list _ items => some (names.zip items)
  | _ => none

/-- A field that may be left out. -/
def optional? {α : Type} (fields : Table) (name : String) (value? : Value → Option α) :
    Option (Option α) :=
  match fields.lookup name with
  | none => some none
  | some value => some <$> value? value

/-- A field that must be there. -/
def required? {α : Type} (fields : Table) (name : String) (value? : Value → Option α) : Option α :=
  fields.lookup name >>= value?

/-! ## Sections -/

/-- The groups: a table of arrays of strings. -/
def groups? : Value → Option Manifest
  | .table _ entries => do
    let groups ← entries.mapM fun (name, value) => do return (name, ← list? text? value)
    return Manifest.ofList groups
  | _ => none

/-- A module. -/
def module? (v : Value) : Option ModuleDecl := do
  let fields ← fields? ["name", "group", "files", "prefix", "suffix"] v
  return {
    name := ← required? fields "name" text?
    group? := ← optional? fields "group" text?
    files? := ← optional? fields "files" (list? text?)
    header := ← required? fields "prefix" path?
    footer := ← required? fields "suffix" path? }

/-- A projection. -/
def projection? (v : Value) : Option Projection := do
  let fields ← fields? ["dir", "modules", "include_minified"] v
  return {
    dir := ← required? fields "dir" path?
    modules := (← optional? fields "modules" (list? text?)).getD []
    includeMinified := (← optional? fields "include_minified" flag?).getD false }

/-- The test bundles.  Written as an array they start with their directory. -/
def testBundles? (v : Value) : Option (Option Path × List String) := do
  let fields ← fields? ["dir", "modules"] v
  let dir ←
    match v with
    | .list _ _ => some <$> required? fields "dir" path?
    | _ => optional? fields "dir" path?
  return (dir, (← optional? fields "modules" (list? text?)).getD [])

/-- The directories that are watched. -/
def watchedDirs? (v : Value) : Option (List Path) := do
  let fields ← fields? ["watched_dirs"] v
  return (← optional? fields "watched_dirs" (list? path?)).getD []

/-- The names that may stand at the top of a file. -/
def topNames : List String :=
  ["root", "out_dir", "version", "code_name", "parallel", "groups", "modules", "test_bundles",
    "projections", "validate"]

/-- What a document says, if it is a configuration file. -/
def ofTable (document : Table) : Option ConfigFile := do
  let fields ← fields? topNames (.table .header document)
  return {
    layer := {
      outDir? := ← optional? fields "out_dir" path?
      version? := ← optional? fields "version" text?
      codeName? := ← optional? fields "code_name" text?
      parallel? := ← optional? fields "parallel" flag? }
    project := {
      root? := ← optional? fields "root" path?
      groups? := ← optional? fields "groups" groups?
      modules? := ← optional? fields "modules" (list? module?)
      testBundles? := ← optional? fields "test_bundles" testBundles?
      projections? := ← optional? fields "projections" (list? projection?)
      watchedDirs? := ← optional? fields "validate" watchedDirs? } }

/-- What a text says, if it is a configuration file. -/
def parse (text : String) : Option ConfigFile := Toml.parse text >>= ofTable

end ConfigFile

end ReleaseBundle
