import Mathlib.Data.List.Forall2
import ReleaseBundle.Assembly
import ReleaseBundle.Proofs.Directory
import ReleaseBundle.Proofs.Effect
import ReleaseBundle.Proofs.Stamping

/-!
# The script of a bundle

A bundle is assembled from its fragments in the order in which it reads them, and
stamped as a whole.  Since no placeholder spans the line break between two
fragments, this is the same as stamping every fragment (`assemble_stamps_fragments`),
whatever stands at their ends.  The first fragment that cannot be read is the one
that is told, and nothing is written in any case.
-/

namespace ReleaseBundle.Bundle

variable {t : FileSystem}

theorem effect_read (t : FileSystem) (p : Path) :
    (Attempt.orFail (Attempt.request (.readText p)) (BuildError.missingSource p)).effect t =
      ((t.readText p).mapError (BuildError.missingSource p), t) :=
  Attempt.effect_orFail rfl

theorem effect_readAll_ok {paths : List Path} {texts : List String}
    (h : List.Forall₂ t.HoldsText paths texts) : (readAll paths).effect t = (.ok texts, t) := by
  induction h with
  | nil => rfl
  | @cons p text paths texts holds _ ih =>
    have read := effect_read t p
    rw [FileSystem.readText_eq_ok_iff.mpr holds] at read
    rw [readAll, Attempt.effect_bind_ok read, Attempt.effect_bind_ok ih]
    rfl

theorem effect_readAll_error {before after : List Path} {p : Path} {cause : IoError}
    (readable : ∀ q ∈ before, ∃ text, t.HoldsText q text) (failed : t.readText p = .error cause) :
    (readAll (before ++ p :: after)).effect t = (.error (.missingSource p cause), t) := by
  induction before with
  | nil =>
    have read := effect_read t p
    rw [failed] at read
    exact Attempt.effect_bind_error read
  | cons q before ih =>
    obtain ⟨text, holds⟩ := readable q List.mem_cons_self
    have read := effect_read t q
    rw [FileSystem.readText_eq_ok_iff.mpr holds] at read
    rw [List.cons_append, readAll, Attempt.effect_bind_ok read,
      Attempt.effect_bind_error (ih fun other mem => readable other (List.mem_cons_of_mem _ mem))]

/-- A list some of whose elements fail a test has a first one that does. -/
theorem exists_first_of_not {α : Type} (test : α → Prop) {items : List α}
    (h : ∃ a ∈ items, ¬ test a) :
    ∃ before a after, items = before ++ a :: after ∧ (∀ b ∈ before, test b) ∧ ¬ test a := by
  classical
  obtain ⟨a, mem, fails⟩ := h
  have found : (items.find? fun a => ¬ test a).isSome :=
    List.find?_isSome.mpr ⟨a, mem, by simpa using fails⟩
  obtain ⟨first, hf⟩ := Option.isSome_iff_exists.mp found
  obtain ⟨hfirst, before, after, split, passed⟩ := List.find?_eq_some_iff_append.mp hf
  exact ⟨before, first, after, split, fun b hb => by simpa using passed b hb, by simpa using hfirst⟩

theorem effect_assemble_ok {b : Bundle} {root : Path} {v : Version} {fragments : List String}
    (h : List.Forall₂ (fun p text => t.HoldsText (root.join p) text) b.readOrder fragments) :
    (b.assemble root v).effect t =
      (.ok ("\n".intercalate (fragments.map (Placeholder.substitute v))), t) := by
  have read : (readAll (b.readOrder.map root.join)).effect t = (.ok fragments, t) :=
    effect_readAll_ok (List.forall₂_map_left_iff.mpr h)
  have text : (b.concatenate root).effect t = (.ok ("\n".intercalate fragments), t) := by
    rw [concatenate, Attempt.effect_bind_ok read]
    rfl
  rw [assemble, Attempt.effect_bind_ok text,
    Attempt.effect_bind_ok (Attempt.effect_notes _ t), Placeholder.substitute_intercalate]
  rfl

theorem effect_assemble_error {b : Bundle} {root p : Path} {v : Version} {before after : List Path}
    {cause : IoError} (split : b.readOrder = before ++ p :: after)
    (readable : ∀ q ∈ before, ∃ text, t.HoldsText (root.join q) text)
    (failed : t.readText (root.join p) = .error cause) :
    (b.assemble root v).effect t = (.error (.missingSource (root.join p) cause), t) := by
  have read : (readAll (b.readOrder.map root.join)).effect t =
      (.error (.missingSource (root.join p) cause), t) := by
    rw [split, List.map_append, List.map_cons]
    refine effect_readAll_error (fun q mem => ?_) failed
    obtain ⟨q, hq, rfl⟩ := List.mem_map.mp mem
    exact readable q hq
  rw [assemble, concatenate, Attempt.effect_bind_error (Attempt.effect_bind_error read)]

/-- Assembling ends with a script, if every fragment is readable, or with the
first one that is not. -/
theorem effect_assemble_cases (t : FileSystem) (b : Bundle) (root : Path) (v : Version) :
    (∃ fragments,
      List.Forall₂ (fun p text => t.HoldsText (root.join p) text) b.readOrder fragments ∧
      (b.assemble root v).effect t =
        (.ok ("\n".intercalate (fragments.map (Placeholder.substitute v))), t)) ∨
    ∃ before p after cause, b.readOrder = before ++ p :: after ∧
      (∀ q ∈ before, ∃ text, t.HoldsText (root.join q) text) ∧
      t.readText (root.join p) = .error cause ∧
      (b.assemble root v).effect t = (.error (.missingSource (root.join p) cause), t) := by
  by_cases readable : ∀ p ∈ b.readOrder, ∃ text, t.HoldsText (root.join p) text
  · obtain ⟨fragments, held⟩ : ∃ fragments,
        List.Forall₂ (fun p text => t.HoldsText (root.join p) text) b.readOrder fragments := by
      choose! text holds using readable
      refine ⟨b.readOrder.map text, List.forall₂_map_right_iff.mpr ?_⟩
      exact List.forall₂_same.mpr holds
    exact Or.inl ⟨fragments, held, effect_assemble_ok held⟩
  · push Not at readable
    obtain ⟨before, p, after, split, passed, missing⟩ :=
      exists_first_of_not (fun p => ∃ text, t.HoldsText (root.join p) text)
        (by simpa using readable)
    obtain ⟨cause, failed⟩ := FileSystem.exists_readText_error (not_exists.mp missing)
    exact Or.inr ⟨before, p, after, cause, split, passed, failed,
      effect_assemble_error split passed failed⟩

theorem files_assemble (t : FileSystem) (b : Bundle) (root : Path) (v : Version) :
    ((b.assemble root v).effect t).2 = t := by
  obtain ⟨_, _, outcome⟩ | ⟨_, _, _, _, _, _, _, outcome⟩ := effect_assemble_cases t b root v <;>
    rw [outcome]

/-- A bundle that can be assembled is assembled to the same script when directories
were made. -/
theorem assemble_of_grown {u : FileSystem} {M : Location → Prop} {b : Bundle} {root : Path}
    {v : Version} {script : String} (h : FileSystem.Grown (fun _ => False) M t u)
    (assembled : ((b.assemble root v).effect t).1 = .ok script) :
    ((b.assemble root v).effect u).1 = .ok script := by
  obtain ⟨fragments, held, outcome⟩ | ⟨_, _, _, _, _, _, _, outcome⟩ :=
    effect_assemble_cases t b root v
  · rw [outcome] at assembled
    rw [effect_assemble_ok (held.imp fun p text holds => holds.grown h)]
    exact assembled
  · rw [outcome] at assembled
    cases assembled

/-- **Stamping the whole is stamping each fragment.**  If every path that a bundle reads,
its header, its files in order and its footer, holds a text, its script is these texts,
each stamped by itself, with line breaks between them; if one of the paths does not,
assembling fails with the first such path and the reason why it cannot be read.  The files
stay as they are. -/
theorem assemble_stamps_fragments (b : Bundle) (root : Path) (v : Version) (w : World) :
    (∀ fragments,
        List.Forall₂ (fun p text => w.files.HoldsText (root.join p) text)
            (b.header :: b.files ++ [b.footer]) fragments →
          ((b.assemble root v).run w).1 =
            .ok ("\n".intercalate (fragments.map (Placeholder.substitute v)))) ∧
      ((∃ p ∈ b.header :: b.files ++ [b.footer], ∀ text, ¬ w.files.HoldsText (root.join p) text) →
        ∃ before p after cause, b.header :: b.files ++ [b.footer] = before ++ p :: after ∧
          (∀ q ∈ before, ∃ text, w.files.HoldsText (root.join q) text) ∧
          (∀ text, ¬ w.files.HoldsText (root.join p) text) ∧
          w.files.readText (root.join p) = .error cause ∧
          ((b.assemble root v).run w).1 = .error (.missingSource (root.join p) cause)) ∧
      ((b.assemble root v).run w).2.files = w.files := by
  rw [Attempt.run_fst, Attempt.files_run, ← b.readOrder_eq]
  refine ⟨fun fragments held => ?_, fun ⟨p, mem, missing⟩ => ?_, files_assemble w.files b root v⟩
  · rw [effect_assemble_ok held]
  · obtain ⟨before, p, after, split, readable, missing⟩ :=
      exists_first_of_not (fun p => ∃ text, w.files.HoldsText (root.join p) text)
        ⟨p, mem, not_exists.mpr missing⟩
    obtain ⟨cause, failed⟩ := FileSystem.exists_readText_error (not_exists.mp missing)
    refine ⟨before, p, after, cause, split, readable, not_exists.mp missing, failed, ?_⟩
    rw [effect_assemble_error split readable failed]

end ReleaseBundle.Bundle
