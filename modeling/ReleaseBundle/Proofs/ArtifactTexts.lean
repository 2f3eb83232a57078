import ReleaseBundle.Proofs.Pipelines

/-!
# What artifacts hold

A finalized module is told by a record of its three artifacts and by what these hold: the script
itself, the minified code with the line behind it that names the map (`Trailed`), and the map.
The record carries the digest of the script (`Finalized`).

The line always starts a line of its own, whatever the code ends with, and there is one such text
for every code (`trailed_iff`).
-/

namespace ReleaseBundle

open FileSystem

/-! ## Digests -/

namespace Digest

theorem digitChar_mem (n : Nat) : Nat.digitChar (n % 16) ∈ "0123456789abcdef".toList := by
  have digits : ∀ d < 16, Nat.digitChar d ∈ "0123456789abcdef".toList := by decide
  exact digits _ (Nat.mod_lt n (by decide))

/-- **A digest has sixty-four digits**, hexadecimal ones in lower case. -/
theorem sha256_digits (bytes : ByteArray) :
    (sha256 bytes).length = 64 ∧ ∀ c ∈ (sha256 bytes).toList, c ∈ "0123456789abcdef".toList := by
  constructor
  · simp [sha256, digestWords, State.toWords, hexWord]
  · intro c mem
    rw [sha256, String.toList_ofList] at mem
    obtain ⟨w, -, mem⟩ := List.mem_flatMap.mp mem
    obtain ⟨shift, -, rfl⟩ := List.mem_map.mp mem
    exact digitChar_mem _

/-- The digest of a message of one block, as the standard gives it. -/
theorem sha256_abc : sha256 "abc".toUTF8 =
    "ba7816bf8f01cfea414140de5dae2223b00361a396177a9cb410ff61f20015ad" := by
  decide +kernel

/-- The digest of a message of two blocks, as the standard gives it. -/
example : sha256 "abcdbcdecdefdefgefghfghighijhijkijkljklmklmnlmnomnopnopq".toUTF8 =
    "248d6a61d20638b8e5c026930c3e6039a33ce45964ff2167f6ecedd419db06c1" := by
  decide +kernel

end Digest

/-! ## Minified scripts -/

/-- A text that ends with the line that names a source map.  What stands before is the code, with
a line break at its end, which is added if the code has none there. -/
def Trailed (module code text : String) : Prop :=
  ∃ body, text = body ++ ("//# sourceMappingURL=" ++ module ++ ".min.js.map" ++ "\n") ∧
    body.toList.getLast? = some '\n' ∧
      (body = code ∨ code.toList.getLast? ≠ some '\n' ∧ body = code ++ "\n")

theorem trailer_eq (module : String) :
    trailer module = "//# sourceMappingURL=" ++ module ++ ".min.js.map" ++ "\n" := by
  unfold trailer mapName
  exact congrArg (· ++ "\n") String.append_assoc.symm

/-- **Of every code there is one text with the trailer**, and that is what is written. -/
theorem trailed_iff {module code text : String} :
    Trailed module code text ↔ text = withTrailer module code := by
  rw [withTrailer, trailer_eq]
  constructor
  · rintro ⟨body, rfl, ends, rfl | ⟨unended, rfl⟩⟩
    · rw [if_pos ends]
    · rw [if_neg unended]
  · rintro rfl
    split
    · rename_i ends
      exact ⟨code, rfl, ends, Or.inl rfl⟩
    · rename_i unended
      have ends : (code ++ "\n").toList.getLast? = some '\n' :=
        getLast?_toList_append code (by decide)
      exact ⟨code ++ "\n", rfl, ends, Or.inr ⟨unended, rfl⟩⟩

/-! ## Finalized modules -/

/-- What is there when a module has been finalized: the record of its artifacts, and their
texts. -/
structure Finalized (module script : String) (outDir : Path) (minified : Minified)
    (u : FileSystem) (a : Artifacts) : Prop where
  name : a.module = module
  full : a.full = outDir.child (octets (module ++ ".js"))
  min : a.min = outDir.child (octets (module ++ ".min.js"))
  map : a.map = outDir.child (octets (module ++ ".min.js.map"))
  digest : a.digest = Digest.sha256 script.toUTF8
  digits : a.digest.length = 64 ∧ ∀ c ∈ a.digest.toList, c ∈ "0123456789abcdef".toList
  fullText : u.HoldsText a.full script
  minText : ∃ text, u.HoldsText a.min text ∧ Trailed module minified.code text
  mapText : u.HoldsText a.map minified.map

/-- What the artifacts of a module hold makes it finalized. -/
theorem Finalized.of_texts {module script : String} {outDir : Path} {minified : Minified}
    {u : FileSystem} (full : u.HoldsText (outDir.child (fullName module)) script)
    (min : u.HoldsText (outDir.child (minName module)) (withTrailer module minified.code))
    (map : u.HoldsText (outDir.child (mapName module)) minified.map) :
    Finalized module script outDir minified u ⟨module, outDir.child (fullName module),
      outDir.child (minName module), outDir.child (mapName module),
      Digest.sha256 script.toUTF8⟩ :=
  ⟨rfl, rfl, rfl, rfl, rfl, Digest.sha256_digits _, full, ⟨_, min, trailed_iff.mpr rfl⟩, map⟩

end ReleaseBundle
