import ReleaseBundle.Proofs.KeptTree
import ReleaseBundle.Proofs.ValidationResult

/-!
# False orphans

A validation calls a file below a watched directory an orphan if its path, as seen from the
root, is not the same as one that is named.  But paths that are not the same may lead to one
file: of a module that reads "./src/a.js" the file "src/a.js" is called an orphan, although
it is the very file that the module reads (`Sample.validation_calls_source_orphan`).

Where there are no links, such a false orphan has one cause: a path that is not plain.  Either
the module has one, or the file was come upon from a watched directory that has one
(`Settings.false_orphans_have_detours`).  Slashes, repeated or at the end, never are the cause,
and a configuration of plain paths has no false orphans, wherever its root is.
-/

namespace ReleaseBundle

namespace FileSystem

variable {t : FileSystem}

theorem exists_of_file_visitsBelow {start path : Path} {l : Location}
    (visited : .file path ∈ t.visitsBelow start l) :
    ∃ names node, (names, node) ∈ t.entriesBelow l ∧ path = start.childBelow names := by
  obtain ⟨⟨names, node⟩, entry, seen⟩ := List.mem_filterMap.mp visited
  refine ⟨names, node, entry, ?_⟩
  dsimp only [visit?] at seen
  split at seen
  · cases seen
  · cases node with
    | file bytes =>
      cases seen
      rfl
    | directory =>
      dsimp only at seen
      split at seen <;> cases seen
    | link target => cases seen

/-- **A file that is come upon** has the path of the start with names below it. -/
theorem exists_of_file_visitsFrom (named : t.Named) {start path : Path}
    (visited : .file path ∈ t.visitsFrom start) :
    ∃ names, (∀ name ∈ names, Path.IsName name) ∧ path = start.childBelow names := by
  have below : ∀ l, .file path ∈ t.visitsBelow start l →
      ∃ names, (∀ name ∈ names, Path.IsName name) ∧ path = start.childBelow names := by
    intro l visited
    obtain ⟨names, node, entry, path⟩ := exists_of_file_visitsBelow visited
    have there := (mem_entriesBelow_iff.mp entry).2
    exact ⟨names, fun name mem => named _ node there name (List.mem_append_right l mem), path⟩
  rw [visitsFrom] at visited
  split at visited
  · cases List.mem_singleton.mp visited
  · cases List.mem_singleton.mp visited
  · cases List.mem_singleton.mp visited
    exact ⟨[], nofun, rfl⟩
  · exact below _ visited
  · split at visited
    · cases List.mem_singleton.mp visited
    · cases List.mem_singleton.mp visited
    · exact below _ visited
    · cases visited

end FileSystem

open FileSystem

namespace Settings

variable {s : Settings} {t : FileSystem} {named : List Path} {q : Path}

/-- **An orphan** is the path of a file below a watched directory, seen from the root, and is
not named. -/
theorem exists_of_orphan {findings : Findings} {referenced : List Path}
    (found : findings = s.findingsIn t referenced) (mem : .orphan q ∈ findings.problems) :
    (∀ p ∈ referenced ++ s.wrapperFiles, ¬ q.SameAs p) ∧
      ∃ watched ∈ s.watchedDirs, ∃ path, .file path ∈ t.visitsFrom (s.root.join watched) ∧
        path.below? s.root = some q := by
  subst found
  have orphan : .orphan q ∈ s.orphansIn t (referenced ++ s.wrapperFiles) := by
    have beside := s.orphan_not_mem t (referenced ++ s.wrapperFiles) q
    rcases List.mem_append.mp mem with mem | unknown
    · rcases List.mem_append.mp mem with missing | orphan
      · exact absurd (List.mem_append_left _ missing) beside
      · exact orphan
    · exact absurd (List.mem_append_right _ unknown) beside
  obtain ⟨watched, watches, told⟩ := List.mem_flatMap.mp orphan
  obtain ⟨visit, visited, told⟩ := List.mem_filterMap.mp told
  cases visit with
  | unreadable path cause => cases told
  | file path =>
    dsimp only at told
    split at told
    · cases told
    cases below : path.below? s.root with
    | none =>
      rw [below] at told
      cases told
    | some relative =>
      rw [below] at told
      dsimp only at told
      split at told
      · cases told
      · rename_i unnamed
        cases told
        refine ⟨fun p mem same => unnamed (isAmong_iff.mpr ⟨p, mem, same⟩), ?_⟩
        exact ⟨watched, watches, path, visited, below⟩

/-- An orphan that is come upon from a plain path has a plain path. -/
theorem isPlain_of_orphan (sound : t.Named) {watched path : Path} (plain : watched.IsPlain)
    (visited : .file path ∈ t.visitsFrom (s.root.join watched))
    (below : path.below? s.root = some q) : q.IsPlain := by
  obtain ⟨names, are_names, rfl⟩ := exists_of_file_visitsFrom sound visited
  have said := Path.components_below below
  rw [Path.components_childBelow _ are_names, Path.components_join s.root plain,
    List.append_assoc] at said
  rw [Path.IsPlain, List.append_cancel_left said]
  intro c mem
  rcases List.mem_append.mp mem with mem | mem
  · exact plain c mem
  · obtain ⟨name, -, rfl⟩ := List.mem_map.mp mem
    rfl

/-- **False orphans have detours.**  If an orphan leads to where a bundle reads from, the two
paths are not the same, slashes aside, and one of them is not plain; if it is the orphan's,
then so is that of a watched directory. -/
theorem false_orphans_have_detours (s : Settings) (w : World) (findings : Findings)
    (bundles : List Bundle) (valid : (s.validate.run w).1 = .ok findings)
    (resolved : Bundle.ofModules s.groups s.modules = .ok bundles) (sound : w.files.Named)
    (unlinked : ∀ l target, w.files.lookup? l ≠ some (.link target)) :
    ∀ q, .orphan q ∈ findings.problems → ∀ b ∈ bundles, ∀ p, b.Reads p → ∀ place,
      w.files.resolve .followed (s.root.join p) = .ok place →
        w.files.resolve .followed (s.root.join q) = .ok place →
          ¬ p.SameAs q ∧
            (p.IsPlain → ¬ q.IsPlain ∧ ∃ watched ∈ s.watchedDirs, ¬ watched.IsPlain) := by
  intro q orphan b mem p reads place leads leads'
  obtain ⟨referenced, known, found⟩ := exists_of_validate valid
  obtain ⟨unnamed, watched, watches, path, visited, below⟩ := exists_of_orphan found orphan
  obtain ⟨p', named, same⟩ := exists_named_of_reads known resolved mem reads
  have other : ¬ p.SameAs q := fun same' => unnamed p' named (same'.symm.trans same)
  refine ⟨other, fun plain => ?_⟩
  have detour : ¬ q.IsPlain := fun plain' =>
    other (sameAs_of_resolve unlinked plain plain' leads leads')
  exact ⟨detour, watched, watches, fun straight =>
    detour (isPlain_of_orphan sound straight visited below)⟩

end Settings

namespace Sample

/-- A module whose one source starts, in so many words, where one is. -/
def dotted : Settings where
  __ := Settings.default
  modules := [⟨"m", none, some ["./src/a.js"], ⟨"./src/a.js"⟩, ⟨"./src/a.js"⟩⟩]
  watchedDirs := [⟨"src"⟩]

def dottedBundle : Bundle :=
  ⟨"m", .listed ["./src/a.js"], [⟨"./src/a.js"⟩], ⟨"./src/a.js"⟩, ⟨"./src/a.js"⟩⟩

/-- Its source, in a directory. -/
def sources : FileSystem :=
  ((FileSystem.bare []).put [octets "src"] .directory).put [octets "src", octets "a.js"]
    (.file "x".toUTF8)

def dottedFindings : Findings := ⟨2, [.orphan ⟨"src/a.js"⟩]⟩

theorem ofModules_dotted :
    Bundle.ofModules dotted.groups dotted.modules = .ok [dottedBundle] := rfl

theorem lookup?_sources (l : Location) :
    sources.lookup? l =
      if l = [] then some .directory
      else if l = [octets "src", octets "a.js"] then some (.file "x".toUTF8)
      else if l = [octets "src"] then some .directory
      else none := by
  by_cases root : l = []
  · subst root
    rfl
  · have nothing : (bare []).lookup? l = none := by
      rw [lookup?, if_neg root]
      rfl
    rw [sources, lookup?_put _ (by simp), lookup?_put _ (by simp), nothing, if_neg root]

theorem isTree_sources : sources.IsTree := by
  have src : Path.IsName (octets "src") := ⟨by decide, by decide, by decide⟩
  have script : Path.IsName (octets "a.js") := ⟨by decide, by decide, by decide⟩
  have nothing : (bare []).IsTree := isTree_bare nofun
  have outer : ((bare []).put ([] ++ [octets "src"]) .directory).IsTree :=
    nothing.put rfl src fun _ => rfl
  have stands : ((bare []).put [octets "src"] .directory).lookup? [octets "src"] =
      some .directory := rfl
  exact outer.put stands script nofun

theorem unlinked_sources (l : Location) (target : List UInt8) :
    sources.lookup? l ≠ some (.link target) := by
  intro link
  rw [lookup?_sources] at link
  split_ifs at link <;> cases link

def script : Place := ⟨[octets "src", octets "a.js"], some (.file "x".toUTF8)⟩

/-- The path that the module has leads to its source, and so does the plain one. -/
theorem resolve_dotted : sources.resolve .followed ⟨"././src/a.js"⟩ = .ok script := by
  have sound : pathFault? ⟨"././src/a.js"⟩ = none := rfl
  have walked : sources.walk .followed 40 [] [[dot], [dot], octets "src", octets "a.js"] =
      .ok script := by cbv
  exact (resolve_of_sound sound).trans walked

theorem resolve_plain : sources.resolve .followed ⟨"./src/a.js"⟩ = .ok script := by
  have sound : pathFault? ⟨"./src/a.js"⟩ = none := rfl
  have walked : sources.walk .followed 40 [] [[dot], octets "src", octets "a.js"] =
      .ok script := by cbv
  exact (resolve_of_sound sound).trans walked

theorem visitsFrom_watched : sources.visitsFrom ⟨"./src"⟩ = [.file ⟨"./src/a.js"⟩] := by
  have sound : pathFault? ⟨"./src"⟩ = none := rfl
  have walked : sources.walk .atLink 40 [] [[dot], octets "src"] =
      .ok ⟨[octets "src"], some .directory⟩ := by cbv
  have found : sources.resolve .atLink ⟨"./src"⟩ = .ok ⟨[octets "src"], some .directory⟩ :=
    (resolve_of_sound sound).trans walked
  have below : sources.visitsBelow ⟨"./src"⟩ [octets "src"] = [.file ⟨"./src/a.js"⟩] := by cbv
  rw [visitsFrom, found]
  exact below

/-- The module's source is called an orphan. -/
theorem validate_dotted : (dotted.validate.run ⟨sources, []⟩).1 = .ok dottedFindings := by
  have known : dotted.referencedFiles = .ok [⟨"./src/a.js"⟩] := rfl
  have named : [⟨"./src/a.js"⟩] ++ dotted.wrapperFiles =
      [(⟨"./src/a.js"⟩ : Path), ⟨"./src/a.js"⟩] := by decide
  have file : sources.isFile (dotted.root.join ⟨"./src/a.js"⟩) = true :=
    isFile_iff.mpr ⟨_, _, resolve_dotted⟩
  have missing : dotted.missingIn sources [⟨"./src/a.js"⟩, ⟨"./src/a.js"⟩] = [] :=
    Settings.missingIn_eq_nil_iff.mpr (by simpa using file)
  have orphans : dotted.orphansIn sources [⟨"./src/a.js"⟩, ⟨"./src/a.js"⟩] =
      [.orphan ⟨"src/a.js"⟩] := by
    have watched : dotted.watchedDirs = [⟨"src"⟩] := rfl
    have visits : sources.visitsFrom (dotted.root.join ⟨"src"⟩) = [.file ⟨"./src/a.js"⟩] :=
      visitsFrom_watched
    rw [Settings.orphansIn, watched, List.flatMap_singleton, visits]
    decide
  have found : dotted.findingsIn sources [⟨"./src/a.js"⟩] = dottedFindings := by
    rw [Settings.findingsIn, named, missing, orphans]
    rfl
  rw [Attempt.run_fst, Settings.effect_validate, known]
  exact congrArg Except.ok found

theorem false_orphans_have_detours_dotted :
    (dotted.validate.run ⟨sources, []⟩).1 = .ok dottedFindings ∧
      Bundle.ofModules dotted.groups dotted.modules = .ok [dottedBundle] ∧ sources.Named ∧
      (∀ l target, sources.lookup? l ≠ some (.link target)) ∧
      dottedBundle.Reads ⟨"./src/a.js"⟩ ∧
      sources.resolve .followed (dotted.root.join ⟨"./src/a.js"⟩) = .ok script ∧
      sources.resolve .followed (dotted.root.join ⟨"src/a.js"⟩) = .ok script ∧
      ¬ Path.SameAs ⟨"./src/a.js"⟩ ⟨"src/a.js"⟩ ∧
      (Path.IsPlain ⟨"./src/a.js"⟩ → ¬ Path.IsPlain ⟨"src/a.js"⟩ ∧
        ∃ watched ∈ dotted.watchedDirs, ¬ watched.IsPlain) := by
  have reads : dottedBundle.Reads ⟨"./src/a.js"⟩ := by decide
  exact ⟨validate_dotted, ofModules_dotted, isTree_sources.named, unlinked_sources, reads,
    resolve_dotted, resolve_plain,
    dotted.false_orphans_have_detours ⟨sources, []⟩ dottedFindings [dottedBundle] validate_dotted
      ofModules_dotted isTree_sources.named unlinked_sources ⟨"src/a.js"⟩
      (List.mem_singleton_self _) dottedBundle (List.mem_singleton_self _) ⟨"./src/a.js"⟩ reads
      script resolve_dotted resolve_plain⟩

/-- **There are false orphans**: the source that a module reads is called unused, for the dot
before its path. -/
theorem validation_calls_source_orphan :
    ¬ ∀ (s : Settings) (w : World) (findings : Findings) (bundles : List Bundle),
      (s.validate.run w).1 = .ok findings → Bundle.ofModules s.groups s.modules = .ok bundles →
        (∀ l target, w.files.lookup? l ≠ some (.link target)) →
          ∀ q, .orphan q ∈ findings.problems → ∀ b ∈ bundles, ∀ p, b.Reads p → ∀ place,
            w.files.resolve .followed (s.root.join p) = .ok place →
              w.files.resolve .followed (s.root.join q) ≠ .ok place := by
  intro no_false_orphans
  have apart := no_false_orphans dotted ⟨sources, []⟩ dottedFindings [dottedBundle] validate_dotted
    ofModules_dotted unlinked_sources ⟨"src/a.js"⟩ (List.mem_singleton_self _) dottedBundle
    (List.mem_singleton_self _) ⟨"./src/a.js"⟩ (by decide) script resolve_dotted
  exact apart resolve_plain

end Sample

end ReleaseBundle
