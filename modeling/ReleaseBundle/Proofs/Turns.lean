import ReleaseBundle.Proofs.Effect
import ReleaseBundle.Schedule

/-!
# Programs in turns

Programs that are played in turns find the files as the others have left them.  Let
each program **own** some locations: it changes no others, and what it answers hangs
on what is there and on an invariant that all programs keep.  Then no program
notices the others: in any turns it comes to the same as alone
(`result_of_interleave`), and so do the files (`interleave_keeps`).

"The same" may be less than equality.  Two programs are **in accord** if they ask
for the same operations, however often the files are changed in between at
locations that they do not own, and end with results that are related.
-/

namespace ReleaseBundle

/-- Two file systems have the same nodes at some locations. -/
def FileSystem.AgreeOn (own : Location → Prop) (t u : FileSystem) : Prop :=
  ∀ l, own l → t.lookup? l = u.lookup? l

namespace FileSystem.AgreeOn

variable {own : Location → Prop} {t u v : FileSystem}

theorem refl (own : Location → Prop) (t : FileSystem) : AgreeOn own t t := fun _ _ => rfl

theorem symm (h : AgreeOn own t u) : AgreeOn own u t := fun l hl => (h l hl).symm

theorem trans (h : AgreeOn own t u) (h' : AgreeOn own u v) : AgreeOn own t v :=
  fun l hl => (h l hl).trans (h' l hl)

theorem mono {own' : Location → Prop} (h : AgreeOn own t u) (le : ∀ l, own' l → own l) :
    AgreeOn own' t u := fun l hl => h l (le l hl)

end FileSystem.AgreeOn

open FileSystem (AgreeOn)

/-- An operation that keeps an invariant, changes files at owned locations only, and
makes of these the same whatever else is there. -/
structure Request.Confined (inv : FileSystem → Prop) (own : Location → Prop) (r : Request) :
    Prop where
  keeps : ∀ t, inv t → inv (t.answer r).2
  apart : ∀ t, inv t → AgreeOn (fun l => ¬ own l) t (t.answer r).2
  follows : ∀ t u, inv t → inv u → AgreeOn own t u → AgreeOn own (t.answer r).2 (u.answer r).2

/-- An operation that leaves the files as they are. -/
theorem Request.Confined.of_unchanged {inv : FileSystem → Prop} {own : Location → Prop}
    {r : Request} (same : ∀ t, inv t → (t.answer r).2 = t) : r.Confined inv own where
  keeps t ht := by rwa [same t ht]
  apart t ht := by rw [same t ht]; exact .refl _ t
  follows t u ht hu agree := by rwa [same t ht, same u hu]

namespace Program

variable {α β : Type} {inv : FileSystem → Prop} {own : Location → Prop}

/-- Two programs that ask for the same operations and end with related results,
whatever happens to the files at locations that they do not own. -/
inductive InAccord (inv : FileSystem → Prop) (own : Location → Prop) (rel : α → α → Prop) :
    Program α → Program α → Prop where
  | done {a b : α} (related : rel a b) : InAccord inv own rel (done a) (done b)
  | ask {r : Request} {next next' : r.Answer → Program α} (confined : r.Confined inv own)
      (after : ∀ t u, inv t → inv u → AgreeOn own t u →
        InAccord inv own rel (next (t.answer r).1) (next' (u.answer r).1)) :
      InAccord inv own rel (ask r next) (ask r next')

namespace InAccord

variable {rel : α → α → Prop} {p q : Program α} {t u : FileSystem}

theorem bind {rel' : β → β → Prop} {f g : α → Program β} (h : InAccord inv own rel p q)
    (after : ∀ a b, rel a b → InAccord inv own rel' (f a) (g b)) :
    InAccord inv own rel' (p >>= f) (q >>= g) := by
  induction h with
  | done related => exact after _ _ related
  | ask confined _ ih => exact .ask confined ih

theorem keeps (h : InAccord inv own rel p q) (ht : inv t) : inv (p.effect t).2 := by
  induction h generalizing t with
  | done => exact ht
  | ask confined _ ih => exact ih t t ht ht (.refl _ t) (confined.keeps t ht)

theorem apart (h : InAccord inv own rel p q) (ht : inv t) :
    AgreeOn (fun l => ¬ own l) t (p.effect t).2 := by
  induction h generalizing t with
  | done => exact .refl _ t
  | ask confined _ ih =>
    exact (confined.apart t ht).trans (ih t t ht ht (.refl _ t) (confined.keeps t ht))

/-- Programs in accord, each played to its end, have related results, and make the
same of what they own. -/
theorem effect (h : InAccord inv own rel p q) (ht : inv t) (hu : inv u) (agree : AgreeOn own t u) :
    rel (p.effect t).1 (q.effect u).1 ∧ AgreeOn own (p.effect t).2 (q.effect u).2 := by
  induction h generalizing t u with
  | done related => exact ⟨related, agree⟩
  | ask confined _ ih =>
    exact ih t u ht hu agree (confined.keeps t ht) (confined.keeps u hu)
      (confined.follows t u ht hu agree)

end InAccord

/-! ## Turns -/

variable {rel : α → α → Prop} {owns : Nat → Location → Prop} {programs : List (Program α)}

/-- Programs each of which is in accord with itself about the locations it owns. -/
def Apart (inv : FileSystem → Prop) (owns : Nat → Location → Prop) (rel : α → α → Prop)
    (programs : List (Program α)) : Prop :=
  ∀ i p, programs[i]? = some p → InAccord inv (owns i) rel p p

theorem Apart.tail {p : Program α} (h : Apart inv owns rel (p :: programs)) :
    Apart inv (fun i => owns (i + 1)) rel programs :=
  fun i q found => h (i + 1) q (by simpa using found)

/-- Programs stay apart when one of them has had its turn. -/
theorem Apart.turn {turn : Nat} {r : Request} {next : r.Answer → Program α} {t : FileSystem}
    (h : Apart inv owns rel programs) (found : programs[turn]? = some (.ask r next)) (ht : inv t) :
    Apart inv owns rel (programs.set turn (next (t.answer r).1)) := by
  intro i p at_i
  rw [List.getElem?_set] at at_i
  split at at_i
  · rename_i same
    subst same
    split at at_i
    · cases at_i
      cases h turn _ found with
      | ask _ after => exact after t t ht ht (.refl _ t)
    · cases at_i
  · exact h i p at_i

theorem confined_of_ask {r : Request} {next next' : r.Answer → Program α}
    (h : InAccord inv own rel (.ask r next) (.ask r next')) : r.Confined inv own := by
  cases h with
  | ask confined => exact confined

/-- Whose turn it is changes the programs, or nothing. -/
theorem effect_interleave_cons (turn : Nat) (schedule : Schedule) (programs : List (Program α))
    (t : FileSystem) :
    (∃ r next, programs[turn]? = some (.ask r next) ∧
        (interleave (turn :: schedule) programs).effect t =
          (interleave schedule (programs.set turn (next (t.answer r).1))).effect (t.answer r).2) ∨
      (interleave (turn :: schedule) programs).effect t =
        (interleave schedule programs).effect t := by
  rw [interleave]
  cases found : programs[turn]? with
  | none => exact Or.inr rfl
  | some p =>
    cases p with
    | done a => exact Or.inr rfl
    | ask r next => exact Or.inl ⟨r, next, rfl, rfl⟩

theorem length_inSequence (programs : List (Program α)) (t : FileSystem) :
    ((inSequence programs).effect t).1.length = programs.length := by
  induction programs generalizing t with
  | nil => rfl
  | cons p programs ih =>
    simp only [inSequence, effect_bind]
    exact congrArg (· + 1) (ih _)

/-- Every program has a result, in any turns. -/
theorem length_interleave (schedule : Schedule) (programs : List (Program α)) (t : FileSystem) :
    ((interleave schedule programs).effect t).1.length = programs.length := by
  induction schedule generalizing programs t with
  | nil => exact length_inSequence programs t
  | cons turn schedule ih =>
    obtain ⟨r, next, -, step⟩ | step := effect_interleave_cons turn schedule programs t
    · rw [step, ih, List.length_set]
    · rw [step, ih]

/-- Any program can be the first to end: there are turns in which nothing happens but
what it does. -/
theorem exists_turns {i : Nat} {p : Program α} (found : programs[i]? = some p) (t : FileSystem) :
    ∃ turns : Schedule, ∀ schedule, (interleave (turns ++ schedule) programs).effect t =
      (interleave schedule (programs.set i (done (p.effect t).1))).effect (p.effect t).2 := by
  induction p generalizing programs t with
  | done a =>
    refine ⟨[], fun schedule => ?_⟩
    obtain ⟨inside, at_i⟩ := List.getElem?_eq_some_iff.mp found
    rw [List.nil_append, effect_done, ← at_i, List.set_getElem_self]
  | ask r next ih =>
    have inside := (List.getElem?_eq_some_iff.mp found).1
    obtain ⟨turns, rest⟩ := ih (t.answer r).1 (List.getElem?_set_self inside) (t.answer r).2
    refine ⟨i :: turns, fun schedule => ?_⟩
    rw [List.cons_append, interleave, found]
    rw [List.set_set] at rest
    exact rest schedule

theorem inSequence_keeps {t : FileSystem} (h : Apart inv owns rel programs) (ht : inv t) :
    inv ((inSequence programs).effect t).2 ∧
      AgreeOn (fun l => ∀ i < programs.length, ¬ owns i l) t
        ((inSequence programs).effect t).2 := by
  induction programs generalizing owns t with
  | nil => exact ⟨ht, .refl _ t⟩
  | cons p programs ih =>
    have first := h 0 p rfl
    obtain ⟨kept, apart⟩ := ih h.tail (first.keeps ht)
    simp only [inSequence, effect_bind]
    refine ⟨kept, ((first.apart ht).mono ?_).trans (apart.mono ?_)⟩
    · exact fun l free => free 0 (by simp)
    · exact fun l free i hi => free (i + 1) (by simpa using hi)

/-- **Programs in turns change what they own, and keep the invariant.** -/
theorem interleave_keeps {t : FileSystem} (schedule : Schedule) (h : Apart inv owns rel programs)
    (ht : inv t) :
    inv ((interleave schedule programs).effect t).2 ∧
      AgreeOn (fun l => ∀ i < programs.length, ¬ owns i l) t
        ((interleave schedule programs).effect t).2 := by
  induction schedule generalizing programs t with
  | nil => exact inSequence_keeps h ht
  | cons turn schedule ih =>
    obtain ⟨r, next, found, step⟩ | step := effect_interleave_cons turn schedule programs t
    · have confined := confined_of_ask (h turn _ found)
      obtain ⟨kept, apart⟩ := ih (h.turn found ht) (confined.keeps t ht)
      rw [step]
      refine ⟨kept, ((confined.apart t ht).mono ?_).trans (apart.mono ?_)⟩
      · exact fun l free => free turn (List.getElem?_eq_some_iff.mp found).1
      · exact fun l free i hi => free i (by simpa using hi)
    · rw [step]
      exact ih h ht

theorem result_of_inSequence {i : Nat} {p q : Program α} {t u : FileSystem}
    (h : Apart inv owns rel programs) (alone : ∀ j l, owns i l → owns j l → j = i) (ht : inv t)
    (hu : inv u) (found : programs[i]? = some p) (accord : InAccord inv (owns i) rel p q)
    (agree : AgreeOn (owns i) t u) :
    (∃ a, ((inSequence programs).effect t).1[i]? = some a ∧ rel a (q.effect u).1) ∧
      AgreeOn (owns i) ((inSequence programs).effect t).2 (q.effect u).2 := by
  induction programs generalizing owns i t with
  | nil => cases found
  | cons first programs ih =>
    simp only [inSequence, effect_bind]
    cases i with
    | zero =>
      obtain rfl : first = p := by simpa using found
      obtain ⟨related, same⟩ := accord.effect ht hu agree
      obtain ⟨-, apart⟩ := inSequence_keeps h.tail (accord.keeps ht)
      refine ⟨⟨_, rfl, related⟩, (apart.symm.mono fun l own j hj other => ?_).trans same⟩
      exact absurd (alone (j + 1) l own other) (Nat.succ_ne_zero j)
    | succ i =>
      have before := h 0 first rfl
      refine ih h.tail (fun j l own other => ?_) (before.keeps ht) (by simpa using found) accord ?_
      · exact Nat.succ.inj (alone (j + 1) l own other)
      · refine ((before.apart ht).symm.mono fun l own other => ?_).trans agree
        exact absurd (alone 0 l own other) (Nat.succ_ne_zero i).symm

/-- **No program notices the others.**  The result of a program that is played with
others is related to its result alone, and what it owns is the same afterwards. -/
theorem result_of_interleave {i : Nat} {p q : Program α} {t u : FileSystem} (schedule : Schedule)
    (h : Apart inv owns rel programs) (alone : ∀ j l, owns i l → owns j l → j = i) (ht : inv t)
    (hu : inv u) (found : programs[i]? = some p) (accord : InAccord inv (owns i) rel p q)
    (agree : AgreeOn (owns i) t u) :
    (∃ a, ((interleave schedule programs).effect t).1[i]? = some a ∧ rel a (q.effect u).1) ∧
      AgreeOn (owns i) ((interleave schedule programs).effect t).2 (q.effect u).2 := by
  induction schedule generalizing programs p q t u with
  | nil => exact result_of_inSequence h alone ht hu found accord agree
  | cons turn schedule ih =>
    obtain ⟨r, next, at_turn, step⟩ | step :=
      effect_interleave_cons turn schedule programs t
    · rw [step]
      have confined := confined_of_ask (h turn _ at_turn)
      by_cases mine : turn = i
      -- A turn of the program itself: alone, it makes the same step.
      · subst mine
        obtain rfl : Program.ask r next = p := Option.some.inj (at_turn.symm.trans found)
        cases accord with
        | ask _ after =>
          have inside := (List.getElem?_eq_some_iff.mp at_turn).1
          rw [effect_ask]
          exact ih (h.turn at_turn ht) (confined.keeps t ht) (confined.keeps u hu)
            (by rw [List.getElem?_set_self inside]) (after t u ht hu agree)
            (confined.follows t u ht hu agree)
      -- A turn of another program, which leaves alone what this one owns.
      · refine ih (h.turn at_turn ht) (confined.keeps t ht) hu ?_ accord
          (((confined.apart t ht).symm.mono fun l own other => ?_).trans agree)
        · rw [List.getElem?_set_ne mine, found]
        · exact mine (alone turn l own other)
    · rw [step]
      exact ih h ht hu found accord agree

end Program

end ReleaseBundle
