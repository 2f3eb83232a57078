import ReleaseBundle.Text.Interval

/-!
# Characters in octets

In UTF-8 a character is written in one to four octets.  What the characters of an
interval are written in is told by **sequences** of ranges of octets, one range for
each octet: every choice of octets from the ranges writes a character.  An interval is
cut so that this holds: where the number of octets changes, and where the front octets
change while those behind do not go through all their values.
-/

namespace ReleaseBundle.Text

/-- The octets from `first` to `last`. -/
structure OctetRange where
  first : UInt8
  last : UInt8
deriving DecidableEq, Repr

namespace Utf8

/-- The code points that are written in one, two, three and four octets. -/
def lengths : List Interval :=
  [⟨0, 0x7F⟩, ⟨0x80, 0x7FF⟩, ⟨0x800, 0xFFFF⟩, ⟨0x10000, 0x10FFFF⟩]

/-- How many code points share all their octets but the last one, the last two and the
last three. -/
def blocks : List Nat := [0x40, 0x1000, 0x40000]

/-- Cuts an interval where it enters and leaves the blocks of a size in their middle;
what goes through whole blocks is cut at the larger ones. -/
def cut : List Nat → Interval → List Interval
  | [], i => [i]
  | size :: larger, i =>
    if i.first / size = i.last / size then [i]
    else
      let start := (i.first + size - 1) / size * size
      let stop := (i.last + 1) / size * size
      let head := if i.first < start then [⟨i.first, start - 1⟩] else []
      let whole := if start < stop then cut larger ⟨start, stop - 1⟩ else []
      let tail := if stop ≤ i.last then [⟨stop, i.last⟩] else []
      head ++ whole ++ tail

/-- The ranges of octets from those of one character to those of another. -/
def octetsBetween (i : Interval) : List OctetRange :=
  List.zipWith OctetRange.mk (String.utf8EncodeChar (Char.ofNat i.first))
    (String.utf8EncodeChar (Char.ofNat i.last))

/-- The sequences of an interval of characters. -/
def sequences (i : Interval) : List (List OctetRange) :=
  lengths.flatMap fun length =>
    let part : Interval := ⟨max i.first length.first, min i.last length.last⟩
    if part.last < part.first then []
    else if length.first = 0 then [octetsBetween part]
    else (cut blocks part).map octetsBetween

/-- All characters that are written in three octets. -/
example : sequences ⟨0x800, 0xD7FF⟩ =
    [[⟨0xE0, 0xE0⟩, ⟨0xA0, 0xBF⟩, ⟨0x80, 0xBF⟩], [⟨0xE1, 0xEC⟩, ⟨0x80, 0xBF⟩, ⟨0x80, 0xBF⟩],
     [⟨0xED, 0xED⟩, ⟨0x80, 0x9F⟩, ⟨0x80, 0xBF⟩]] := by decide

end Utf8

end ReleaseBundle.Text
