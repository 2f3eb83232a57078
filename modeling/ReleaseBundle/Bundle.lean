import ReleaseBundle.Manifest
import ReleaseBundle.Text.Quoted

/-!
# Modules and bundles

A **module** is declared by its name, the two files that wrap it, and its source:
a group of the manifest, or files listed one by one.  A **bundle** is a module
whose source has been looked up: it knows every file it will read, in order, and
it reads one source file at least (`files_ne_nil_of_ofModule`).
-/

namespace ReleaseBundle

/-- A module as it is declared.  Of a list of files and a group the list counts. -/
structure ModuleDecl where
  name : String
  group? : Option String
  files? : Option (List String)
  header : Path
  footer : Path
deriving DecidableEq, Repr

/-- Where the source files of a bundle come from. -/
inductive Source where
  | group (name : String)
  | listed (files : List String)
deriving DecidableEq, Repr

/-- The source as messages show it. -/
def Source.display : Source → String
  | group name => "ByGroup(" ++ Text.quoted name ++ ")"
  | listed files => "Explicit(" ++ Text.quotedList files ++ ")"

/-- What is put together under one name. -/
structure Bundle where
  name : String
  source : Source
  files : List Path
  header : Path
  footer : Path
deriving DecidableEq, Repr

namespace Bundle

/-- Every path the bundle reads, in order. -/
def readOrder (b : Bundle) : List Path := b.header :: b.files ++ [b.footer]

/-- The header comes first, then the files as often as they are listed, then the footer. -/
theorem readOrder_eq (b : Bundle) : b.readOrder = b.header :: b.files ++ [b.footer] := rfl

/-- A path that the bundle reads: its header, one of its files, or its footer. -/
def Reads (b : Bundle) (p : Path) : Prop := p = b.header ∨ p ∈ b.files ∨ p = b.footer

instance (b : Bundle) (p : Path) : Decidable (b.Reads p) :=
  inferInstanceAs (Decidable (_ ∨ _ ∨ _))

theorem mem_readOrder_iff {b : Bundle} {p : Path} : p ∈ b.readOrder ↔ b.Reads p := by
  simp [readOrder_eq, Reads]

/-- The bundle of a declared module with the given files, of which there must be
one. -/
def ofFiles (d : ModuleDecl) (source : Source) (files : List String) : Except BuildError Bundle :=
  if files = [] then .error (.noSources d.name)
  else .ok ⟨d.name, source, files.map Path.ofText, d.header, d.footer⟩

/-- The bundle of a declared module. -/
def ofModule (m : Manifest) (d : ModuleDecl) : Except BuildError Bundle :=
  match d.files?, d.group? with
  | some files, _ => ofFiles d (.listed files) files
  | none, some group => do ofFiles d (.group group) (← m.filesFor d.name group)
  | none, none => .error (.noSources d.name)

/-- The bundles of declared modules, in order, or the first failure. -/
def ofModules (m : Manifest) : List ModuleDecl → Except BuildError (List Bundle)
  | [] => .ok []
  | d :: modules => do
    let bundle ← ofModule m d
    return bundle :: (← ofModules m modules)

/-- What is said while a module is looked up. -/
def ofModuleRecords (m : Manifest) (d : ModuleDecl) : List Record :=
  let expansion :=
    match d.files?, d.group? with
    | none, some group => m.filesForRecords d.name group
    | _, _ => []
  match ofModule m d with
  | .ok b =>
    expansion ++ [⟨.debug, .descriptor,
      s!"Module '{b.name}' resolved to {b.files.length} source files ({b.source.display})"⟩]
  | .error _ => expansion

/-- What is said while modules are looked up: nothing after the first that
fails. -/
def ofModulesRecords (m : Manifest) : List ModuleDecl → List Record
  | [] => []
  | d :: modules =>
    ofModuleRecords m d ++
      match ofModule m d with
      | .ok _ => ofModulesRecords m modules
      | .error _ => []

theorem exists_ofFiles_of_ofModule {m : Manifest} {d : ModuleDecl} {b : Bundle}
    (h : ofModule m d = .ok b) : ∃ source files, ofFiles d source files = .ok b := by
  simp only [ofModule] at h
  split at h
  · exact ⟨_, _, h⟩
  · rename_i group _ _
    cases hf : m.filesFor d.name group with
    | error e => rw [hf] at h; cases h
    | ok files => rw [hf] at h; exact ⟨_, _, h⟩
  · cases h

theorem of_ofFiles {d : ModuleDecl} {source : Source} {files : List String} {b : Bundle}
    (h : ofFiles d source files = .ok b) :
    files ≠ [] ∧ b = ⟨d.name, source, files.map Path.ofText, d.header, d.footer⟩ := by
  rw [ofFiles] at h
  split at h
  · cases h
  · rename_i ne
    exact ⟨ne, (Except.ok.inj h).symm⟩

/-- **A bundle reads one source file at least.** -/
theorem files_ne_nil_of_ofModule {m : Manifest} {d : ModuleDecl} {b : Bundle}
    (h : ofModule m d = .ok b) : b.files ≠ [] := by
  obtain ⟨source, files, found⟩ := exists_ofFiles_of_ofModule h
  obtain ⟨ne, rfl⟩ := of_ofFiles found
  simpa using ne

theorem name_of_ofModule {m : Manifest} {d : ModuleDecl} {b : Bundle}
    (h : ofModule m d = .ok b) : b.name = d.name := by
  obtain ⟨source, files, found⟩ := exists_ofFiles_of_ofModule h
  rw [(of_ofFiles found).2]

/-- Bundles are called as their modules, in the same order. -/
theorem names_of_ofModules {m : Manifest} {modules : List ModuleDecl} {bundles : List Bundle}
    (h : ofModules m modules = .ok bundles) :
    bundles.map Bundle.name = modules.map ModuleDecl.name := by
  induction modules generalizing bundles with
  | nil =>
    cases h
    rfl
  | cons d modules ih =>
    rw [ofModules] at h
    cases first : ofModule m d with
    | error e => rw [first] at h; cases h
    | ok b =>
      cases rest : ofModules m modules with
      | error e => rw [first, rest] at h; cases h
      | ok more =>
        rw [first, rest] at h
        cases h
        rw [List.map_cons, List.map_cons, name_of_ofModule first, ih rest]

end Bundle

end ReleaseBundle
