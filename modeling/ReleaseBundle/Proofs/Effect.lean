import ReleaseBundle.Program

/-!
# Effects on files

The journal of a run is written and never read, so what a program answers and
what it makes of the files follow from the files alone.  The **effect** of a
program is this part of its run (`Program.run_eq_effect`); the other modules
reason about effects and come back to runs at the end.

Programs that may fail are read step by step: a sequence has the effect of its
second part if the first one succeeds, and else of the first alone
(`Attempt.effect_bind`).
-/

namespace ReleaseBundle

variable {ε α β : Type}

/-- The answer to a request, and the files after it. -/
def FileSystem.answer (t : FileSystem) : (r : Request) → r.Answer × FileSystem
  | .readText path => (t.readText path, t)
  | .isFile path => (t.isFile path, t)
  | .visitsFrom start => (t.visitsFrom start, t)
  | .ensureDirectory path => t.ensureDirectory path
  | .writeText path text => t.writeText path text
  | .copy source target => t.copy source target
  | .note _ => ((), t)

theorem World.answer_eq (w : World) (r : Request) :
    ((w.answer r).1, (w.answer r).2.files) = w.files.answer r := by
  cases r <;> rfl

namespace Program

/-- The result of a program, and the files after it. -/
def effect : Program α → FileSystem → α × FileSystem
  | done a, t => (a, t)
  | ask r next, t => (next (t.answer r).1).effect (t.answer r).2

@[simp] theorem effect_done (a : α) (t : FileSystem) : (done a).effect t = (a, t) := rfl

@[simp] theorem effect_ask (r : Request) (next : r.Answer → Program α) (t : FileSystem) :
    (ask r next).effect t = (next (t.answer r).1).effect (t.answer r).2 := rfl

/-- **A run has the effect of its program**, whatever the journal holds. -/
theorem run_eq_effect (p : Program α) (w : World) :
    ((p.run w).1, (p.run w).2.files) = p.effect w.files := by
  induction p generalizing w with
  | done a => rfl
  | ask r next ih => rw [run_ask, ih, effect_ask, ← World.answer_eq]

@[simp] theorem effect_bind (p : Program α) (f : α → Program β) (t : FileSystem) :
    (p >>= f).effect t = (f (p.effect t).1).effect (p.effect t).2 := by
  induction p generalizing t with
  | done a => rfl
  | ask r next ih => exact ih _ _

end Program

namespace Attempt

/-- The result or failure of a program, and the files after it. -/
def effect (attempt : Attempt ε α) (t : FileSystem) : Except ε α × FileSystem :=
  attempt.outcome.effect t

theorem run_eq_effect (attempt : Attempt ε α) (w : World) :
    ((attempt.run w).1, (attempt.run w).2.files) = attempt.effect w.files :=
  attempt.outcome.run_eq_effect w

theorem run_fst (attempt : Attempt ε α) (w : World) :
    (attempt.run w).1 = (attempt.effect w.files).1 :=
  congrArg Prod.fst (attempt.run_eq_effect w)

theorem files_run (attempt : Attempt ε α) (w : World) :
    (attempt.run w).2.files = (attempt.effect w.files).2 :=
  congrArg Prod.snd (attempt.run_eq_effect w)

theorem effect_of_run {attempt : Attempt ε α} {w : World} {result : Except ε α}
    (h : (attempt.run w).1 = result) :
    attempt.effect w.files = (result, (attempt.run w).2.files) := by
  rw [← attempt.run_eq_effect, h]

theorem effect_of_fst {attempt : Attempt ε α} {t : FileSystem} {result : Except ε α}
    (h : (attempt.effect t).1 = result) : attempt.effect t = (result, (attempt.effect t).2) :=
  Prod.ext h rfl

/-- A sequence goes on where its first part succeeds. -/
theorem outcome_bind (first : Attempt ε α) (next : α → Attempt ε β) :
    (first >>= next).outcome = first.outcome >>= fun result =>
      match result with
      | .ok a => (next a).outcome
      | .error e => .done (.error e) :=
  rfl

@[simp] theorem effect_pure (a : α) (t : FileSystem) :
    (pure a : Attempt ε α).effect t = (.ok a, t) := rfl

@[simp] theorem effect_throw (e : ε) (t : FileSystem) :
    (throw e : Attempt ε α).effect t = (.error e, t) := rfl

@[simp] theorem effect_ofExcept (result : Except ε α) (t : FileSystem) :
    (ofExcept result).effect t = (result, t) := rfl

/-- **Effects in sequence.** -/
theorem effect_bind (first : Attempt ε α) (next : α → Attempt ε β) (t : FileSystem) :
    (first >>= next).effect t =
      match first.effect t with
      | (.ok a, u) => (next a).effect u
      | (.error e, u) => (.error e, u) := by
  simp only [effect, outcome_bind, Program.effect_bind]
  rcases first.outcome.effect t with ⟨_ | a, u⟩ <;> rfl

theorem effect_bind_ok {first : Attempt ε α} {next : α → Attempt ε β} {t u : FileSystem} {a : α}
    (h : first.effect t = (.ok a, u)) : (first >>= next).effect t = (next a).effect u := by
  rw [effect_bind, h]

theorem effect_bind_error {first : Attempt ε α} {next : α → Attempt ε β} {t u : FileSystem} {e : ε}
    (h : first.effect t = (.error e, u)) : (first >>= next).effect t = (.error e, u) := by
  rw [effect_bind, h]

/-- If a sequence succeeds, both of its parts do. -/
theorem exists_of_effect_bind_ok {first : Attempt ε α} {next : α → Attempt ε β}
    {t v : FileSystem} {b : β} (h : (first >>= next).effect t = (.ok b, v)) :
    ∃ a u, first.effect t = (.ok a, u) ∧ (next a).effect u = (.ok b, v) := by
  rw [effect_bind] at h
  rcases hf : first.effect t with ⟨_ | a, u⟩
  · rw [hf] at h
    cases h
  · rw [hf] at h
    exact ⟨a, u, rfl, h⟩

@[simp] theorem effect_request (r : Request) (t : FileSystem) :
    (request r : Attempt ε r.Answer).effect t = (.ok (t.answer r).1, (t.answer r).2) := rfl

/-- An operation that fails does so with the failure that is given for it. -/
theorem effect_orFail {answer : Attempt ε (Except IoError α)} {failure : IoError → ε}
    {t u : FileSystem} {result : Except IoError α} (h : answer.effect t = (.ok result, u)) :
    (orFail answer failure).effect t = (result.mapError failure, u) := by
  rw [orFail, effect_bind_ok h]
  cases result <;> rfl

/-- An operation that does not fail succeeds as it is. -/
theorem of_effect_orFail_ok {answer : Attempt ε (Except IoError α)} {failure : IoError → ε}
    {t u v : FileSystem} {result : Except IoError α} {a : α} (h : answer.effect t = (.ok result, u))
    (ok : (orFail answer failure).effect t = (.ok a, v)) : (result, u) = (.ok a, v) := by
  rw [effect_orFail h] at ok
  cases result with
  | error cause => cases ok
  | ok b =>
    cases ok
    rfl

@[simp] theorem effect_note (record : Record) (t : FileSystem) :
    (note record : Attempt ε Unit).effect t = (.ok (), t) := rfl

@[simp] theorem effect_notes (records : List Record) (t : FileSystem) :
    (notes records : Attempt ε Unit).effect t = (.ok (), t) := by
  induction records with
  | nil => rfl
  | cons record records ih => rw [notes, effect_bind_ok (effect_note record t), ih]

end Attempt

end ReleaseBundle
