import Mathlib.Tactic.Choose
import ReleaseBundle.Proofs.MakingDirectories

/-!
# Files laid over a tree

What a build makes of a tree is told by a second tree, that has the directories and
none of the files, and by the **files** that are laid over it: which bytes are at
which location.  Making a directory changes the tree below (`Overlaid.ensureDirectory`),
writing and copying change the files (`Overlaid.put`, `Overlaid.copy`).
-/

namespace ReleaseBundle.FileSystem

/-- Files, by their locations. -/
abbrev Files := Location → Option ByteArray

/-- The files with one more, or with one that is written anew. -/
def Files.write (files : Files) (l : Location) (bytes : ByteArray) : Files :=
  fun k => if k = l then some bytes else files k

theorem Files.write_self (files : Files) (l : Location) (bytes : ByteArray) :
    files.write l bytes l = some bytes := if_pos rfl

theorem Files.write_ne (files : Files) {k l : Location} (h : k ≠ l) (bytes : ByteArray) :
    files.write l bytes k = files k := if_neg h

/-- What was written before does not count. -/
theorem Files.write_write (files : Files) (l : Location) (before bytes : ByteArray) :
    (files.write l before).write l bytes = files.write l bytes := by
  funext k
  by_cases h : k = l
  · rw [h, write_self, write_self]
  · rw [write_ne _ h, write_ne _ h, write_ne _ h]

/-- The tree `u` is `t` with files laid over it. -/
structure Overlaid (files : Files) (t u : FileSystem) : Prop where
  written : Written (fun l => files l ≠ none) t u
  holds : ∀ l bytes, files l = some bytes → u.lookup? l = some (.file bytes)

namespace Overlaid

variable {files : Files} {t u v : FileSystem}

theorem refl (t : FileSystem) : Overlaid (fun _ => none) t t :=
  ⟨.refl t, fun _ _ held => nomatch held⟩

/-- Where files are known to have been written, a tree is told by what they hold. -/
theorem exists_of_written {W : Location → Prop} (h : Written W t u)
    (filled : ∀ l, W l → ∃ bytes, u.lookup? l = some (.file bytes)) :
    ∃ files, Overlaid files t u ∧ ∀ l, files l ≠ none ↔ W l := by
  classical
  choose! bytes found using filled
  refine ⟨fun l => if W l then some (bytes l) else none, ⟨?_, fun l b held => ?_⟩, fun l => by simp⟩
  · exact h.mono (fun l w => by simp [w]) fun _ m => m
  · split at held
    · rename_i w
      cases held
      exact found l w
    · cases held

/-- Where no file is laid, the tree is as it was. -/
theorem lookup?_of_none (overlay : Overlaid files t u) {l : Location} (free : files l = none) :
    u.lookup? l = t.lookup? l :=
  overlay.written.lookup?_eq (fun laid => laid free) id

theorem put (overlay : Overlaid files t u) {l : Location} (bytes : ByteArray)
    (free : u.lookup? l = none ∨ ∃ before, u.lookup? l = some (.file before)) :
    Overlaid (files.write l bytes) t (u.put l (.file bytes)) := by
  have laid : Written (fun k => files.write l bytes k ≠ none) u (u.put l (.file bytes)) :=
    grown_put_file (by simp [Files.write_self]) bytes free
  refine ⟨(overlay.written.mono (fun k before => ?_) fun _ m => m).trans laid,
    fun k found held => ?_⟩
  · by_cases h : k = l
    · simp [h, Files.write_self]
    · rwa [Files.write_ne _ h]
  · have ne : l ≠ [] := ne_nil_of_lookup? (t := u) (by rcases free with h | ⟨_, h⟩ <;> simp [h])
    rw [lookup?_put u ne]
    by_cases h : k = l
    · rw [h, Files.write_self] at held
      cases held
      rw [if_pos h]
    · rw [Files.write_ne _ h] at held
      rw [if_neg h]
      exact overlay.holds k found held

/-- **A directory that is made among the files** is made in the tree below them. -/
theorem ensureDirectory {p : Path} (overlay : Overlaid files t u)
    (ensured : u.ensureDirectory p = (.ok (), v)) :
    ∃ s, t.ensureDirectory p = (.ok (), s) ∧ Overlaid files s v := by
  obtain ⟨s, ensured', written⟩ := ensureAll_of_written overlay.written ensured
  refine ⟨s, ensured', written, fun l bytes held => ?_⟩
  have grows := (grown_ensureAll ensured).node l
  rw [overlay.holds l bytes held] at grows
  exact grows.unwritten id

end Overlaid

/-! ## Copying a name from one directory into another -/

section

variable {t u v : FileSystem} {dir dir' : Path} {home home' : Location} {name : Name}
  {bytes : ByteArray}

/-- **A copy** of a file is the file, under the same name in the other directory.  The
target is emptied before it is filled. -/
theorem Opens.copy_child (opens : u.Opens dir home) (opens' : u.Opens dir' home')
    (plain : Path.IsName name) (sound : childFault? dir name = none)
    (straight : ¬ u.IsLink (dir.child name)) (straight' : ¬ u.IsLink (dir'.child name))
    (apart : home ≠ home') (held : u.lookup? (home ++ [name]) = some (.file bytes)) :
    u.copy (dir.child name) (dir'.child name) =
      match u.writeFault? dir' home' name with
      | some cause => (.error cause, u)
      | none => (.ok (), (u.put (home' ++ [name]) (.file ByteArray.empty)).put
          (home' ++ [name]) (.file bytes)) := by
  rw [copy, opens.resolve_child plain sound straight, held]
  dsimp only
  rw [opens'.writeBytes_child plain straight']
  cases fault : u.writeFault? dir' home' name with
  | some cause => rfl
  | none =>
    dsimp only
    -- The source is another file, so it is as it was when the target has been emptied.
    have ne : home' ++ [name] ≠ [] := by simp
    have other : home ++ [name] ≠ home' ++ [name] := by simpa using apart
    have opened : Written (fun _ => True) u
        (u.put (home' ++ [name]) (.file ByteArray.empty)) :=
      grown_put_file trivial _ (opens'.free_of_writeFault? plain straight' fault)
    rw [lookup?_put u ne, if_neg other, held]
    dsimp only
    rw [(opens'.grown opened).writeBytes_child plain (not_isLink_written opened straight'),
      writeFault?_written opened, fault]

theorem Overlaid.copy {files : Files} (overlay : Overlaid files t u) (opens : u.Opens dir home)
    (opens' : u.Opens dir' home') (plain : Path.IsName name)
    (straight : ¬ u.IsLink (dir.child name)) (straight' : ¬ u.IsLink (dir'.child name))
    (apart : home ≠ home') (held : files (home ++ [name]) = some bytes)
    (copied : u.copy (dir.child name) (dir'.child name) = (.ok (), v)) :
    childFault? dir' name = none ∧ Written (fun _ => True) u v ∧
      Overlaid (files.write (home' ++ [name]) bytes) t v := by
  cases fault : childFault? dir name with
  | some cause =>
    rw [FileSystem.copy, opens.resolve_of_fault plain fault] at copied
    cases copied
  | none =>
    rw [opens.copy_child opens' plain fault straight straight' apart (overlay.holds _ _ held)]
      at copied
    cases fault' : u.writeFault? dir' home' name with
    | some cause =>
      rw [fault'] at copied
      cases copied
    | none =>
      rw [fault'] at copied
      obtain rfl := (Prod.mk.inj copied).2
      have free := opens'.free_of_writeFault? plain straight' fault'
      have emptied := overlay.put ByteArray.empty free
      have empty := emptied.holds _ _ (Files.write_self _ _ _)
      have filled := emptied.put bytes (Or.inr ⟨_, empty⟩)
      rw [Files.write_write] at filled
      exact ⟨(Option.or_eq_none_iff.mp fault').1,
        (grown_put_file trivial ByteArray.empty free).trans
          (grown_put_file trivial bytes (Or.inr ⟨_, empty⟩)), filled⟩

end

end ReleaseBundle.FileSystem
