import ReleaseBundle.Proofs.Confinement

/-!
# Programs that run again

A program has run and left the tree `F`; now it runs again, from `F`.  The second run
**retraces** the first if at each of its steps the two compare as follows
(`Retraced`).  The first run stood at a tree `u`, with files written by then at some
locations; there the second run finds the same files, since it has written them again.
Everywhere else it still finds what the first run has left in the end.

So the second run can differ from the first only where it comes upon something that the
first one wrote later.  It does not, as long as no file is read that the program writes, and
nothing is copied that the program has not written before (`Attempt.Repeats`).  When both runs
have ended, the tree is `F` again (`Retraced.lookup?_eq`), even if files were written
over by others on the way.
-/

namespace ReleaseBundle

open FileSystem

namespace FileSystem

variable {t u u' v F : FileSystem} {W S : Location → Prop} {p source target : Path}
  {l : Location} {bytes : ByteArray}

/-- How two runs compare at one step: the first stands at `u` and has files written at
`S`, and will leave `F`, with files written at locations of `W`; the second, which has
set out from `F`, stands at `v`. -/
structure Retraced (W : Location → Prop) (F : FileSystem) (S : Location → Prop)
    (u v : FileSystem) : Prop where
  ahead : Grown W (fun _ => True) u F
  inside : ∀ l, S l → W l
  redone : ∀ l, S l → ∃ bytes, u.lookup? l = some (.file bytes) ∧ v.lookup? l = some (.file bytes)
  kept : ∀ l, ¬ S l → v.lookup? l = F.lookup? l
  workDir : v.workDir = F.workDir

namespace Retraced

theorem start (ahead : Grown W (fun _ => True) t F) : Retraced W F (fun _ => False) t F where
  ahead := ahead
  inside _ := False.elim
  redone _ := False.elim
  kept _ _ := rfl
  workDir := rfl

/-- Where a file was, the first run has left one. -/
theorem exists_file_ahead (ahead : Grown W (fun _ => True) u F)
    (held : u.lookup? l = some (.file bytes)) :
    ∃ after, F.lookup? l = some (.file after) := by
  have grows := ahead.node l
  rw [held] at grows
  generalize F.lookup? l = node at grows
  cases grows with
  | same => exact ⟨bytes, rfl⟩
  | rewritten _ _ after => exact ⟨after, rfl⟩

theorem written (r : Retraced W F S u v) : Written W F v := by
  refine ⟨r.workDir, fun l => ?_⟩
  by_cases done : S l
  · obtain ⟨bytes, held, again⟩ := r.redone l done
    obtain ⟨after, there⟩ := exists_file_ahead r.ahead held
    rw [there, again]
    exact .rewritten (r.inside l done) after bytes
  · rw [r.kept l done]
    exact .same _

theorem grows (r : Retraced W F S u v) : u.Grows v := r.ahead.grows.trans r.written.grows

/-- **When both runs have ended**, the trees are the same. -/
theorem lookup?_eq (r : Retraced W F S F v) (l : Location) : v.lookup? l = F.lookup? l := by
  by_cases done : S l
  · obtain ⟨bytes, held, again⟩ := r.redone l done
    rw [again, held]
  · exact r.kept l done

/-! ## One operation -/

/-- What is not written by the program is read again. -/
theorem readText {text : String} (r : Retraced W F S u v) (read : u.readText p = .ok text)
    (unwritten : ∀ l, F.LeadsTo p l → ¬ W l) : v.readText p = .ok text := by
  obtain ⟨l, found⟩ := node?_eq_some_iff.mp (readText_eq_ok_iff.mp read)
  have leads : u.LeadsTo p l := ⟨_, found⟩
  have free := unwritten l (leads.grown r.ahead)
  have ahead := r.ahead.node l
  rw [lookup?_of_resolve found] at ahead
  refine readText_eq_ok_iff.mpr ?_
  rw [HoldsText, (leads.grown r.grows).node?_eq, r.written.lookup?_eq free id]
  exact ahead.unwritten free

/-- A directory that was made is there. -/
theorem ensureDirectory (r : Retraced W F S u v) (ensured : u.ensureDirectory p = (.ok (), u'))
    (ahead : Grown W (fun _ => True) u' F) :
    v.ensureDirectory p = (.ok (), v) ∧ Retraced W F S u' v := by
  refine ⟨ensureDirectory_of_grown ensured (ahead.grows.trans r.written.grows), ahead, r.inside,
    fun l done => ?_, r.kept, r.workDir⟩
  obtain ⟨bytes, held, again⟩ := r.redone l done
  have grows := (grown_ensureAll ensured).node l
  rw [held] at grows
  exact ⟨bytes, grows.unwritten id, again⟩

/-- Both runs write the same to one more location. -/
theorem write {v' : FileSystem} (r : Retraced W F S u v) (ahead : Grown W (fun _ => True) u' F)
    (w : W l) (one : Written (fun k => k = l) u u') (one' : Written (fun k => k = l) v v')
    (held : u'.lookup? l = some (.file bytes)) (held' : v'.lookup? l = some (.file bytes)) :
    Retraced W F (fun k => k = l ∨ S k) u' v' where
  ahead := ahead
  inside k done := by
    rcases done with rfl | done
    · exact w
    · exact r.inside k done
  redone k done := by
    by_cases here : k = l
    · subst here
      exact ⟨bytes, held, held'⟩
    · rw [one.lookup?_eq here id, one'.lookup?_eq here id]
      exact r.redone k (done.resolve_left here)
  kept k free := by
    obtain ⟨elsewhere, free⟩ := not_or.mp free
    rw [one'.lookup?_eq elsewhere id, r.kept k free]
  workDir := one'.workDir.trans r.workDir

/-- A file that could be written, and is one in the end, can be written again. -/
theorem writeBytes (r : Retraced W F S u v)
    (found : u.resolve .asFile p = .ok ⟨l, u.lookup? l⟩)
    (file : ∃ after, F.lookup? l = some (.file after)) (bytes : ByteArray) :
    v.Free l ∧ v.writeBytes p bytes = (.ok (), v.put l (.file bytes)) := by
  obtain ⟨there, held⟩ : ∃ there, v.lookup? l = some (.file there) := by
    by_cases done : S l
    · obtain ⟨there, -, again⟩ := r.redone l done
      exact ⟨there, again⟩
    · rw [r.kept l done]
      exact file
  refine ⟨Or.inr ⟨there, held⟩, ?_⟩
  rw [FileSystem.writeBytes, resolve_of_grown r.grows found, held]

theorem writeText {text : String} (r : Retraced W F S u v)
    (wrote : u.writeText p text = (.ok (), u')) (ahead : Grown W (fun _ => True) u' F)
    (w : ∀ l, F.LeadsTo p l → W l) :
    ∃ l v', v.writeText p text = (.ok (), v') ∧ u'.LeadsTo p l ∧
      Retraced W F (fun k => k = l ∨ S k) u' v' := by
  obtain ⟨l, free, found, rfl⟩ := put_of_writeBytes wrote
  have leads : u.LeadsTo p l := ⟨_, resolve_followed_of_asFile found⟩
  have one := free.written text.toUTF8
  obtain ⟨free', wrote'⟩ :=
    r.writeBytes found (exists_file_ahead ahead (free.lookup?_put_self _)) text.toUTF8
  refine ⟨l, _, wrote', leads.grown one, ?_⟩
  exact r.write ahead (w l (leads.grown r.ahead)) one (free'.written _)
    (free.lookup?_put_self _) (free'.lookup?_put_self _)

/-- What the program has written before is copied again. -/
theorem copy (r : Retraced W F S u v) (copied : u.copy source target = (.ok (), u'))
    (ahead : Grown W (fun _ => True) u' F) (w : ∀ l, F.LeadsTo target l → W l)
    (done : ∃ k, u.LeadsTo source k ∧ S k) :
    ∃ l v', v.copy source target = (.ok (), v') ∧ Retraced W F (fun k => k = l ∨ S k) u' v' := by
  obtain ⟨k, leads, done⟩ := done
  obtain ⟨bytes, held, again⟩ := r.redone k done
  obtain ⟨k₁, l, before, from₁, to₁, there, one, filled⟩ := exists_of_copy copied
  obtain rfl := leads.unique from₁
  obtain rfl : bytes = before := by simpa using held.symm.trans there
  -- The target can be opened again, and the source holds the same as in the first run.
  obtain ⟨_, opened⟩ := exists_opened_of_copy copied
  obtain ⟨l₁, -, found, -⟩ := put_of_writeBytes opened
  obtain rfl := to₁.unique ⟨_, resolve_followed_of_asFile found⟩
  have opened' := (r.writeBytes found (exists_file_ahead ahead filled) ByteArray.empty).2
  have file : v.isFile source = true := by
    rw [isFile, (leads.grown r.grows).node?_eq, again]
  obtain ⟨v', copied'⟩ := exists_copy file opened'
  obtain ⟨k', l', before', from', to', there', one', filled'⟩ := exists_of_copy copied'
  obtain rfl := (leads.grown r.grows).unique from'
  obtain rfl := (to₁.grown r.grows).unique to'
  obtain rfl : bytes = before' := by simpa using again.symm.trans there'
  exact ⟨l, v', copied', r.write ahead (w l (to₁.grown r.ahead)) one one' filled filled'⟩

end Retraced

/-- Paths that lead to files which have been written by now. -/
def Redone (S : Location → Prop) (u : FileSystem) (p : Path) : Prop := ∃ l, u.LeadsTo p l ∧ S l

theorem Redone.later {S' : Location → Prop} (done : Redone S u p) (grows : u.Grows u')
    (le : ∀ l, S l → S' l) : Redone S' u' p := by
  obtain ⟨l, leads, inside⟩ := done
  exact ⟨l, leads.grown grows, le l inside⟩

end FileSystem

/-! ## Whole programs -/

namespace Attempt

variable {ε α β : Type} {F : FileSystem} {writes needs gives : Path → Prop}

/-- A program that writes files where the paths of `writes` lead, and that comes to the same
when it runs again.  It relies on it that what the paths of `needs` lead to has been
written before, and then what the paths of `gives` lead to has been written as well. -/
structure Repeats (F : FileSystem) (writes needs gives : Path → Prop) (attempt : Attempt ε α) :
    Prop where
  within : attempt.Within writes fun _ => True
  again : ∀ {u u' v : FileSystem} {S : Location → Prop} {a : α},
    attempt.effect u = (.ok a, u') → Grown (F.Reached writes) (fun _ => True) u' F →
      Retraced (F.Reached writes) F S u v → (∀ p, needs p → Redone S u p) →
        ∃ S' v', attempt.effect v = (.ok a, v') ∧ Retraced (F.Reached writes) F S' u' v' ∧
          (∀ l, S l → S' l) ∧ ∀ p, gives p → Redone S' u' p

/-- What is still ahead of a program is ahead of what comes before it. -/
theorem ahead_of_within {attempt : Attempt ε α} (within : attempt.Within writes fun _ => True)
    {u : FileSystem} (ahead : Grown (F.Reached writes) (fun _ => True) (attempt.effect u).2 F) :
    Grown (F.Reached writes) (fun _ => True) u F :=
  ((confined_of_within within u).mono (fun _ reached => reached.grown ahead)
    fun _ _ => trivial).trans ahead

namespace Repeats

theorem mono {needs' gives' : Path → Prop} {attempt : Attempt ε α}
    (h : attempt.Repeats F writes needs gives) (le : ∀ p, needs p → needs' p)
    (le' : ∀ p, gives' p → gives p) : attempt.Repeats F writes needs' gives' where
  within := h.within
  again ran ahead r done := by
    obtain ⟨S', v', ran', r', more, given⟩ := h.again ran ahead r fun p need => done p (le p need)
    exact ⟨S', v', ran', r', more, fun p give => given p (le' p give)⟩

/-- **Programs in sequence**: the second relies on what the first has written. -/
theorem bind {mid : Path → Prop} {first : Attempt ε α} {next : α → Attempt ε β}
    (h : first.Repeats F writes needs mid)
    (after : ∀ a, (next a).Repeats F writes (fun p => needs p ∨ mid p) gives) :
    (first >>= next).Repeats F writes needs fun p => mid p ∨ gives p where
  within := h.within.bind fun a => (after a).within
  again {u u' v S b} ran ahead r done := by
    obtain ⟨a, u₁, head, rest⟩ := exists_of_effect_bind_ok ran
    have ahead' : Grown (F.Reached writes) (fun _ => True) ((next a).effect u₁).2 F := by
      rwa [rest]
    obtain ⟨S₁, v₁, head', r₁, more, given⟩ :=
      h.again head (ahead_of_within (after a).within ahead') r done
    obtain ⟨S₂, v₂, rest', r₂, more', given'⟩ := (after a).again rest ahead r₁ fun p need =>
      need.elim (fun need => (done p need).later (grows_of_effect head) more) (given p)
    refine ⟨S₂, v₂, ?_, r₂, fun l done => more' l (more l done), fun p give => ?_⟩
    · rw [effect_bind_ok head', rest']
    · exact give.elim (fun give => (given p give).later (grows_of_effect rest) more') (given' p)

/-- Programs in sequence, of which the first gives nothing to rely on. -/
theorem andThen {first : Attempt ε α} {next : α → Attempt ε β}
    (h : first.Repeats F writes needs fun _ => False)
    (after : ∀ a, (next a).Repeats F writes needs gives) :
    (first >>= next).Repeats F writes needs gives :=
  (h.bind fun a => (after a).mono (fun _ => Or.inl) fun _ => id).mono (fun _ => id)
    fun _ => Or.inr

/-- An operation repeats itself, and fails as it is told to. -/
theorem orFail (operation : FileSystem → Except IoError α × FileSystem)
    {answer : Attempt ε (Except IoError α)} {failure : IoError → ε}
    (asked : ∀ t, answer.effect t = (.ok (operation t).1, (operation t).2))
    (within : answer.Within writes fun _ => True)
    (again : ∀ {u u' v S a}, operation u = (.ok a, u') →
      Grown (F.Reached writes) (fun _ => True) u' F → Retraced (F.Reached writes) F S u v →
        (∀ p, needs p → Redone S u p) →
          ∃ S' v', operation v = (.ok a, v') ∧ Retraced (F.Reached writes) F S' u' v' ∧
            (∀ l, S l → S' l) ∧ ∀ p, gives p → Redone S' u' p) :
    (Attempt.orFail answer failure).Repeats F writes needs gives where
  within := within.orFail failure
  again {u u' v S a} ran ahead r done := by
    obtain ⟨S', v', ran', rest⟩ := again (of_effect_orFail_ok (asked u) ran) ahead r done
    refine ⟨S', v', ?_, rest⟩
    rw [effect_orFail (asked v), ran']
    rfl

/-- A program that leaves the files as they are repeats itself if it answers the same. -/
theorem of_unchanged {attempt : Attempt ε α} (within : attempt.Within writes fun _ => True)
    (same : ∀ {u v S a}, Retraced (F.Reached writes) F S u v →
      (attempt.effect u).1 = .ok a → (∀ p, needs p → Redone S u p) → attempt.effect v = (.ok a, v))
    (idle : ∀ u, (attempt.effect u).2 = u) :
    attempt.Repeats F writes needs fun _ => False where
  within := within
  again {u u' v S a} ran ahead r done := by
    obtain rfl : u = u' := by rw [← idle u, ran]
    exact ⟨S, v, same r (by rw [ran]) done, r, fun _ => id, fun _ => False.elim⟩

theorem pure (a : α) : (Pure.pure a : Attempt ε α).Repeats F writes needs fun _ => False :=
  of_unchanged (.pure a) (fun _ ran _ => by cases ran; rfl) fun _ => rfl

theorem throw (e : ε) :
    (MonadExcept.throw e : Attempt ε α).Repeats F writes needs gives where
  within := .throw e
  again ran := by cases ran

theorem note (record : Record) :
    (Attempt.note record : Attempt ε Unit).Repeats F writes needs fun _ => False :=
  of_unchanged (.note record) (fun _ _ _ => rfl) fun _ => rfl

theorem notes (records : List Record) :
    (Attempt.notes records : Attempt ε Unit).Repeats F writes needs fun _ => False := by
  induction records with
  | nil => exact .pure ()
  | cons record records ih => exact (note record).andThen fun _ => ih

end Repeats

end Attempt

end ReleaseBundle
