import ReleaseBundle.FileSystem.Operations

/-!
# What a path holds

A path **holds a text** if it leads to a file whose bytes are the text in UTF-8.
Reading a text finds exactly the text that is held (`readText_eq_ok_iff`): what
cannot be read is missing, a directory, or not UTF-8.
-/

namespace ReleaseBundle.FileSystem

variable {t : FileSystem} {p : Path}

/-- A path leads to a file with a text in it. -/
def HoldsText (t : FileSystem) (p : Path) (text : String) : Prop :=
  t.node? p = some (.file text.toUTF8)

theorem node?_eq_some_iff {node : Node} :
    t.node? p = some node ↔ ∃ l, t.resolve .followed p = .ok ⟨l, some node⟩ := by
  rw [node?]
  cases t.resolve .followed p with
  | error e => simp
  | ok place =>
    obtain ⟨l, found⟩ := place
    simp

theorem readBytes_eq_ok_iff {bytes : ByteArray} :
    t.readBytes p = .ok bytes ↔ t.node? p = some (.file bytes) := by
  rw [node?, readBytes]
  cases t.resolve .followed p with
  | error e => simp [bind, Except.bind]
  | ok place => rcases place with ⟨l, _ | _ | _ | _⟩ <;> simp [bind, Except.bind]

theorem fromUTF8?_eq_some_iff {bytes : ByteArray} {text : String} :
    String.fromUTF8? bytes = some text ↔ bytes = text.toUTF8 := by
  simp only [String.fromUTF8?]
  constructor
  · intro h
    split at h
    · cases h
      rfl
    · cases h
  · rintro rfl
    exact dif_pos text.isValidUTF8

/-- **Reading finds the text that is held.** -/
theorem readText_eq_ok_iff {text : String} : t.readText p = .ok text ↔ t.HoldsText p text := by
  rw [HoldsText, ← readBytes_eq_ok_iff, readText]
  cases t.readBytes p with
  | error e => simp [bind, Except.bind]
  | ok bytes =>
    simp only [bind, Except.bind, Except.ok.injEq]
    rw [← fromUTF8?_eq_some_iff]
    cases String.fromUTF8? bytes <;> simp

theorem HoldsText.unique {text text' : String} (h : t.HoldsText p text)
    (h' : t.HoldsText p text') : text = text' :=
  Except.ok.inj ((readText_eq_ok_iff.mpr h).symm.trans (readText_eq_ok_iff.mpr h'))

theorem exists_readText_error (h : ∀ text, ¬ t.HoldsText p text) :
    ∃ cause, t.readText p = .error cause := by
  cases read : t.readText p with
  | ok text => exact absurd (readText_eq_ok_iff.mp read) (h text)
  | error cause => exact ⟨cause, rfl⟩

end ReleaseBundle.FileSystem
