import CoherentCache.Text.CodeRange

/-!
# CoherentCache.Text.Invisible — characters that leave no mark of their own

Two sets of characters, as of Unicode 17: those of certain general categories (controls, format
characters, private use, and every separator but the space), and those that are to be left out where
they cannot be shown, letters that only fill a place among them.
-/

namespace CoherentCache.Text

/-- The code points of the categories `Cc`, `Cf`, `Co`, `Zl`, `Zp` and `Zs`, the space excepted, as
closed ranges. -/
def unseenRanges : List (Nat × Nat) :=
  [(0x0, 0x1f), (0x7f, 0xa0), (0xad, 0xad), (0x600, 0x605), (0x61c, 0x61c), (0x6dd, 0x6dd),
    (0x70f, 0x70f), (0x890, 0x891), (0x8e2, 0x8e2), (0x1680, 0x1680), (0x180e, 0x180e),
    (0x2000, 0x200f), (0x2028, 0x202f), (0x205f, 0x2064), (0x2066, 0x206f), (0x3000, 0x3000),
    (0xe000, 0xf8ff), (0xfeff, 0xfeff), (0xfff9, 0xfffb), (0x110bd, 0x110bd), (0x110cd, 0x110cd),
    (0x13430, 0x1343f), (0x1bca0, 0x1bca3), (0x1d173, 0x1d17a), (0xe0001, 0xe0001),
    (0xe0020, 0xe007f), (0xf0000, 0xffffd), (0x100000, 0x10fffd)]

/-- The code points with the property `Default_Ignorable_Code_Point`, as closed ranges. -/
def ignorableRanges : List (Nat × Nat) :=
  [(0xad, 0xad), (0x34f, 0x34f), (0x61c, 0x61c), (0x115f, 0x1160), (0x17b4, 0x17b5),
    (0x180b, 0x180f), (0x200b, 0x200f), (0x202a, 0x202e), (0x2060, 0x206f), (0x3164, 0x3164),
    (0xfe00, 0xfe0f), (0xfeff, 0xfeff), (0xffa0, 0xffa0), (0xfff0, 0xfff8), (0x1bca0, 0x1bca3),
    (0x1d173, 0x1d17a), (0xe0000, 0xe0fff)]

example : Ascending unseenRanges ∧ Ascending ignorableRanges := by decide

/-- The character leaves no mark of its own. -/
def isInvisible (c : Char) : Bool :=
  inRanges c.toNat unseenRanges || inRanges c.toNat ignorableRanges

end CoherentCache.Text
