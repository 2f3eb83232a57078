import ReleaseBundle.Proofs.GrowingRuns
import ReleaseBundle.Proofs.Turns

/-!
# What programs attain, whatever happens beside them

A program that is played in turns with others finds a tree that they have let grow
between any two of its operations.  It **attains** a goal if, however the tree grows
in between, its result and the tree at its end meet the goal
(`Program.Attains`).  A goal that growth does not undo is **lasting**: a program
attains it from a grown tree as well (`Program.Attains.grown`), programs in turns attain
the lasting goals of each of them in the tree they leave together
(`Program.Attains.interleave`), and what lasts from before a program can be added to
what it attains (`Program.Attains.keeping`).

Nothing is asked of the programs beside, so this holds where they write over each
other's files as well.
-/

namespace ReleaseBundle

open FileSystem

/-- A fact about trees that growth does not undo. -/
def Lasting (fact : FileSystem → Prop) : Prop := ∀ t u, t.Grows u → fact t → fact u

theorem lasting_isFile (p : Path) : Lasting fun t => t.isFile p = true :=
  fun _ _ grows file => isFile_of_grown grows file

namespace Program

variable {α β : Type} {goal : α → FileSystem → Prop} {t u : FileSystem}

/-- However a tree grows between the operations of a program, its result and the tree
at its end meet the goal. -/
def Attains (goal : α → FileSystem → Prop) : Program α → FileSystem → Prop
  | done a, t => goal a t
  | ask r next, t => ∀ u, t.Grows u → Attains goal (next (u.answer r).1) (u.answer r).2

namespace Attains

variable {p : Program α}

theorem effect (h : Attains goal p t) : goal (p.effect t).1 (p.effect t).2 := by
  induction p generalizing t with
  | done a => exact h
  | ask r next ih => exact ih _ (h t (.refl t))

/-- A lasting goal is attained from a grown tree as well. -/
theorem grown (lasting : ∀ a, Lasting (goal a)) (h : Attains goal p t) (grows : t.Grows u) :
    Attains goal p u := by
  cases p with
  | done a => exact lasting a t u grows h
  | ask r next => exact fun v later => h v (grows.trans later)

theorem imp {goal' : α → FileSystem → Prop} (h : Attains goal p t)
    (weaker : ∀ a u, goal a u → goal' a u) : Attains goal' p t := by
  induction p generalizing t with
  | done a => exact weaker a t h
  | ask r next ih => exact fun u grows => ih _ (h u grows)

/-- **In sequence**, what the first part attains is where the second one starts. -/
theorem bind {goal' : β → FileSystem → Prop} {f : α → Program β} (h : Attains goal p t)
    (after : ∀ a u, goal a u → Attains goal' (f a) u) : Attains goal' (p >>= f) t := by
  induction p generalizing t with
  | done a => exact after a t h
  | ask r next ih => exact fun u grows => ih _ (h u grows)

/-- What lasts from before is there at the end. -/
theorem keeping {fact : FileSystem → Prop} (h : Attains goal p t) (lasting : Lasting fact)
    (before : fact t) : Attains (fun a u => goal a u ∧ fact u) p t := by
  induction p generalizing t with
  | done a => exact ⟨h, before⟩
  | ask r next ih =>
    exact fun u grows => ih _ (h u grows)
      (lasting _ _ (u.grows_answer r) (lasting _ _ grows before))

end Attains

/-! ## Programs in turns -/

variable {goals : Nat → α → FileSystem → Prop} {programs : List (Program α)}

/-- As many results as there are programs, each of which meets the goal of its number. -/
structure Meets (goals : Nat → α → FileSystem → Prop) (count : Nat) (results : List α)
    (t : FileSystem) : Prop where
  length : results.length = count
  each : ∀ i a, results[i]? = some a → goals i a t

theorem Meets.cons {goals : Nat → α → FileSystem → Prop} {a : α} {results : List α} {count : Nat}
    (first : goals 0 a t) (rest : Meets (fun i => goals (i + 1)) count results t) :
    Meets goals (count + 1) (a :: results) t where
  length := congrArg (· + 1) rest.length
  each i b found := by
    cases i with
    | zero =>
      cases found
      exact first
    | succ i => exact rest.each i b found

theorem attains_inSequence (lasting : ∀ i a, Lasting (goals i a))
    (h : ∀ i p, programs[i]? = some p → Attains (goals i) p t) :
    Attains (Meets goals programs.length) (inSequence programs) t := by
  induction programs generalizing goals t with
  | nil => exact ⟨rfl, nofun⟩
  | cons p programs ih =>
    have rest_lasts : Lasting fun u => ∀ i q, programs[i]? = some q →
        Attains (goals (i + 1)) q u := fun _ _ grows rest i q found =>
      (rest i q found).grown (lasting (i + 1)) grows
    -- The others start from what the first one leaves, and its goal lasts until they end.
    have first := (h 0 p rfl).keeping rest_lasts fun i q found => h (i + 1) q found
    refine first.bind fun a u ⟨met, rest⟩ => ?_
    have others := (ih (fun i => lasting (i + 1)) rest).keeping (lasting 0 a) met
    exact others.bind fun results v ⟨all, met⟩ => all.cons met

/-- **Programs in turns attain the goals of each**, in any turns. -/
theorem attains_interleave (schedule : Schedule) (lasting : ∀ i a, Lasting (goals i a))
    (h : ∀ i p, programs[i]? = some p → Attains (goals i) p t) :
    Attains (Meets goals programs.length) (interleave schedule programs) t := by
  induction schedule generalizing programs t with
  | nil => exact attains_inSequence lasting h
  | cons turn schedule ih =>
    rw [interleave]
    split
    · rename_i r next found
      intro u grows
      have count : (programs.set turn (next (u.answer r).1)).length = programs.length :=
        List.length_set
      rw [← count]
      refine ih fun i p at_i => ?_
      have later := grows.trans (u.grows_answer r)
      rw [List.getElem?_set] at at_i
      split at at_i
      -- The program whose turn it is goes on; for the others the tree has grown.
      · rename_i same
        subst same
        split at at_i
        · cases at_i
          exact h turn _ found u grows
        · cases at_i
      · exact (h i p at_i).grown (lasting i) later
    · exact ih h

end Program

/-! ## Programs that may fail -/

namespace Attempt

variable {ε α β : Type} {goal : α → FileSystem → Prop} {fair : ε → Prop} {t : FileSystem}

/-- What an attempt comes to meets a goal, or is a failure of a certain kind. -/
def Outcome (goal : α → FileSystem → Prop) (fair : ε → Prop) : Except ε α → FileSystem → Prop
  | .ok a, t => goal a t
  | .error e, _ => fair e

/-- However a tree grows beside a program that may fail, it attains its goal or fails in
a fair way. -/
def Attains (goal : α → FileSystem → Prop) (fair : ε → Prop) (attempt : Attempt ε α)
    (t : FileSystem) : Prop :=
  Program.Attains (Outcome goal fair) attempt.outcome t

theorem lasting_outcome (lasting : ∀ a, Lasting (goal a)) (result : Except ε α) :
    Lasting (Outcome goal fair result) := by
  cases result with
  | ok a => exact lasting a
  | error e => exact fun _ _ _ h => h

namespace Attains

theorem effect {attempt : Attempt ε α} (h : attempt.Attains goal fair t) :
    Outcome goal fair (attempt.effect t).1 (attempt.effect t).2 :=
  Program.Attains.effect h

theorem bind {goal' : β → FileSystem → Prop} {first : Attempt ε α} {next : α → Attempt ε β}
    (h : first.Attains goal fair t) (after : ∀ a u, goal a u → (next a).Attains goal' fair u) :
    (first >>= next).Attains goal' fair t := by
  refine Program.Attains.bind h fun result u met => ?_
  cases result with
  | ok a => exact after a u met
  | error e => exact met

theorem keeping {fact : FileSystem → Prop} {attempt : Attempt ε α}
    (h : attempt.Attains goal fair t) (lasting : Lasting fact) (before : fact t) :
    attempt.Attains (fun a u => goal a u ∧ fact u) fair t := by
  refine (Program.Attains.keeping h lasting before).imp fun result u met => ?_
  cases result with
  | ok a => exact met
  | error e => exact met.1

theorem imp {goal' : α → FileSystem → Prop} {attempt : Attempt ε α}
    (h : attempt.Attains goal fair t) (weaker : ∀ a u, goal a u → goal' a u) :
    attempt.Attains goal' fair t := by
  refine Program.Attains.imp h fun result u met => ?_
  cases result with
  | ok a => exact weaker a u met
  | error e => exact met

theorem pure {a : α} (met : goal a t) : (Pure.pure a : Attempt ε α).Attains goal fair t := met

theorem throw {e : ε} (h : fair e) : (MonadExcept.throw e : Attempt ε α).Attains goal fair t := h

theorem note (record : Record) :
    (Attempt.note record : Attempt ε Unit).Attains (fun _ _ => True) fair t :=
  fun _ _ => trivial

theorem notes (records : List Record) :
    (Attempt.notes records : Attempt ε Unit).Attains (fun _ _ => True) fair t := by
  induction records generalizing t with
  | nil => exact .pure trivial
  | cons record records ih => exact (note record).bind fun _ _ _ => ih

theorem request {r : Request} {goal : r.Answer → FileSystem → Prop}
    (h : ∀ u, t.Grows u → goal (u.answer r).1 (u.answer r).2) :
    (Attempt.request r : Attempt ε r.Answer).Attains goal fair t := h

/-- An operation that may fail attains a goal if its answer does, and fails fairly. -/
theorem orFail {answer : Attempt ε (Except IoError α)} {failure : IoError → ε}
    (h : answer.Attains (Outcome goal fun cause => fair (failure cause)) fair t) :
    (Attempt.orFail answer failure).Attains goal fair t := by
  refine h.bind fun result u met => ?_
  cases result with
  | ok a => exact .pure met
  | error cause => exact .throw met

/-- Where every failure is fair, nothing need be known of the answer. -/
theorem orFail_of_fair {answer : Attempt ε (Except IoError α)} {failure : IoError → ε}
    (always : ∀ cause, fair (failure cause)) (h : answer.Attains (fun _ _ => True) fair t) :
    (Attempt.orFail answer failure).Attains (fun _ _ => True) fair t := by
  refine orFail (h.imp fun result u _ => ?_)
  cases result with
  | ok a => trivial
  | error cause => exact always cause

end Attains

end Attempt

end ReleaseBundle
