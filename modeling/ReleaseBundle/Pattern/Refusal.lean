import ReleaseBundle.Pattern.Footprint
import ReleaseBundle.Pattern.Meaning

/-!
# Which texts write a pattern

A text writes a pattern (`Pattern.ofText`) unless it is refused: because it has a fault,
or because the pattern would take too much room.  The room is asked for only where there is
no fault.
-/

namespace ReleaseBundle.Pattern

/-- Why a text is refused. -/
inductive Refusal where
  | fault (fault : Fault)
  /-- The pattern takes too much room. -/
  | tooLarge
deriving DecidableEq, Repr

/-- What is said about a text that is refused. -/
def Refusal.message (refusal : Refusal) (text : String) : String :=
  match refusal with
  | .fault f => f.message text
  | .tooLarge => s!"Compiled regex exceeds size limit of {Tally.limit} bytes."

/-- The pattern that a text writes. -/
def ofText (text : String) : Except Refusal Pattern :=
  match written text with
  | .ok p => if fits p then .ok p else .error .tooLarge
  | .error fault => .error (.fault fault)

end ReleaseBundle.Pattern
