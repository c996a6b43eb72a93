import SpanCapture.Text.Mark
import SpanCapture.Text.Unassigned

/-! Characters without a shape of their own: controls, format characters, blanks other than
the space, fillers, characters for private use, those that are none, and marks that attach
to the character in front of them. -/
namespace SpanCapture.Text

/-- The ranges of what shows nothing, ends included. -/
def blankRanges : List (Nat × Nat) :=
  [(0x7f, 0xa0), (0xad, 0xad), (0x600, 0x605), (0x61c, 0x61c), (0x6dd, 0x6dd), (0x70f, 0x70f),
    (0x890, 0x891), (0x8e2, 0x8e2), (0x115f, 0x1160), (0x1680, 0x1680), (0x180e, 0x180e),
    (0x2000, 0x200f), (0x2028, 0x202f), (0x205f, 0x2064), (0x2066, 0x206f), (0x3000, 0x3000),
    (0x3164, 0x3164), (0xe000, 0xf8ff), (0xfeff, 0xfeff), (0xffa0, 0xffa0), (0xfff9, 0xfffb),
    (0x110bd, 0x110bd), (0x110cd, 0x110cd), (0x13430, 0x1343f), (0x1bca0, 0x1bca3),
    (0x1d173, 0x1d17a), (0xe0001, 0xe0001), (0xe0020, 0xe007f), (0xf0000, 0xffffd),
    (0x100000, 0x10fffd)]

def inRanges (ranges : List (Nat × Nat)) (code : Nat) : Bool :=
  ranges.any fun range => range.1 ≤ code && code ≤ range.2

/-- Whether a character has no shape of its own. In the first 127 these are the controls. -/
def isShapeless (c : Char) : Bool :=
  if c.toNat < 127 then c.toNat < 32
  else inRanges blankRanges c.toNat || inRanges markRanges c.toNat ||
    inRanges unassignedRanges c.toNat

end SpanCapture.Text
