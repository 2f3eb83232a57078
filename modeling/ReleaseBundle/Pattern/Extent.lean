import ReleaseBundle.Pattern.Charset
import ReleaseBundle.Text.Interval

/-!
# The extent of a set

A set of characters may be put together in many ways, but its **extent** is one: the
list of the intervals that it covers, in order (`ordered_extent`).  The extent of a set that
is made without closures under case covers the characters that the set holds
(`covers_extent`).
-/

namespace ReleaseBundle.Charset

open Text Interval

/-- The folds of the letters that a list covers, where letters and folds are paired, and
all letters that have these folds. -/
def variantsOf (pairs : List (Nat × Nat)) (set : List Interval) : List Interval :=
  let folds := normalize (pairs.filterMap fun (letter, fold) =>
    if covers set letter || covers set fold then some (Interval.single fold) else Option.none)
  folds ++ pairs.filterMap fun (letter, fold) =>
    if covers folds fold then some (Interval.single letter) else Option.none

/-- The capital letters of ASCII, each with the small one. -/
def asciiPairs : List (Nat × Nat) :=
  (List.range 26).map fun n => ('A'.toNat + n, 'a'.toNat + n)

/-- Intervals that a set covers together, in no order. -/
def pieces : Charset → List Interval
  | none => []
  | range first last => between first.toNat last.toNat
  | listed runs => runs.flatMap ofRun
  | union a b => a.pieces ++ b.pieces
  | inter a b => Interval.inter a.pieces b.pieces
  | diff a b => Interval.diff a.pieces b.pieces
  | symmDiff a b => Interval.diff a.pieces b.pieces ++ Interval.diff b.pieces a.pieces
  | compl a => Interval.compl a.pieces
  | anyCase a =>
    let set := normalize a.pieces
    set ++ variantsOf foldPairs set
  | anyAsciiCase a =>
    let set := normalize a.pieces
    set ++ variantsOf asciiPairs set

/-- The intervals that a set covers. -/
def extent (a : Charset) : List Interval := normalize a.pieces

/-- An extent is in order. -/
theorem ordered_extent (a : Charset) : Ordered a.extent := ordered_normalize _

/-- A set that is put together without closures under case, and from tables that are counted on. -/
def IsDirect : Charset → Prop
  | none => True
  | range _ _ => True
  | listed runs => ∀ run ∈ runs, 0 < run.step
  | union a b => a.IsDirect ∧ b.IsDirect
  | inter a b => a.IsDirect ∧ b.IsDirect
  | diff a b => a.IsDirect ∧ b.IsDirect
  | symmDiff a b => a.IsDirect ∧ b.IsDirect
  | compl a => a.IsDirect
  | anyCase _ => False
  | anyAsciiCase _ => False

theorem covers_pieces {a : Charset} (direct : a.IsDirect) (c : Char) :
    covers a.pieces c.toNat = a.has c := by
  induction a with
  | none => rfl
  | range first last => exact covers_between _ _ c
  | listed runs =>
    rw [pieces, has, anyHas, covers, List.any_flatMap, Bool.eq_iff_iff, List.any_eq_true,
      List.any_eq_true]
    refine exists_congr fun run => and_congr_right fun mem => ?_
    rw [← covers_ofRun (direct run mem) c, covers]
  | union a b iha ihb => rw [pieces, has, covers_append, iha direct.1, ihb direct.2]
  | inter a b iha ihb => rw [pieces, has, covers_inter, iha direct.1, ihb direct.2]
  | diff a b iha ihb => rw [pieces, has, covers_diff, iha direct.1, ihb direct.2]
  | symmDiff a b iha ihb =>
    rw [pieces, has, covers_append, covers_diff, covers_diff, iha direct.1, ihb direct.2]
    cases a.has c <;> cases b.has c <;> rfl
  | compl a ih => rw [pieces, has, covers_compl, ih direct]
  | anyCase => exact direct.elim
  | anyAsciiCase => exact direct.elim

/-- **The extent of a set covers what the set holds.** -/
theorem covers_extent {a : Charset} (direct : a.IsDirect) (c : Char) :
    covers a.extent c.toNat = a.has c := by
  rw [extent, covers_normalize, covers_pieces direct]

end ReleaseBundle.Charset
