/-!
# Runs of characters

A table of characters is a list of **runs**: the code points from a first one to
a last one, counted on by a step.  Letters that alternate between capital and
small ones make long runs of step two.
-/

namespace ReleaseBundle.Text

/-- The code points from `first` to `last`, counted on by `step`. -/
structure Run where
  first : Nat
  last : Nat
  step : Nat
deriving DecidableEq, Repr

/-- Whether a character is one of a run. -/
def Run.has (run : Run) (c : Char) : Bool :=
  run.first ≤ c.toNat && c.toNat ≤ run.last && (c.toNat - run.first) % run.step == 0

/-- Whether a character is one of a table. -/
def anyHas (runs : List Run) (c : Char) : Bool := runs.any (·.has c)

end ReleaseBundle.Text
