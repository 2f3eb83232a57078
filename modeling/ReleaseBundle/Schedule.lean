import ReleaseBundle.Program

/-!
# Schedules

Several programs may be played side by side, in any turns.  A **schedule** is a
list of numbers: each gives the program of that number its next request, and a
number whose program is done, or that no program has, gives nothing.  When the
schedule ends, the programs are played to their ends one after the other.  So
every list is a schedule, every order of the programs' requests is given by
some schedule, and the empty one plays the programs in sequence
(`interleave_nil`).
-/

namespace ReleaseBundle

/-- The order in which programs take turns. -/
abbrev Schedule := List Nat

/-- Rounds in which each of `count` programs has one turn. -/
def Schedule.rounds (rounds count : Nat) : Schedule :=
  (List.replicate rounds (List.range count)).flatten

namespace Program

variable {α : Type}

/-- The programs one after the other. -/
def inSequence : List (Program α) → Program (List α)
  | [] => done []
  | p :: programs => do
    let a ← p
    let results ← inSequence programs
    return a :: results

/-- The programs in the turns that a schedule gives them. -/
def interleave : Schedule → List (Program α) → Program (List α)
  | [], programs => inSequence programs
  | turn :: schedule, programs =>
    match programs[turn]? with
    | some (ask request next) =>
      ask request fun answer => interleave schedule (programs.set turn (next answer))
    | _ => interleave schedule programs

@[simp] theorem interleave_nil (programs : List (Program α)) :
    interleave [] programs = inSequence programs := rfl

end Program

end ReleaseBundle
