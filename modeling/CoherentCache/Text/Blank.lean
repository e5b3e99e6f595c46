import CoherentCache.Text.CodeRange

/-!
# CoherentCache.Text.Blank — white space at the ends of a text

White space is every character with the Unicode property `White_Space`: 25 characters, among them
the no-break space and the ideographic space, but not the zero-width space.
-/

namespace CoherentCache.Text

/-- The code points with the property `White_Space`, as closed ranges. -/
def blankRanges : List (Nat × Nat) :=
  [(0x09, 0x0d), (0x20, 0x20), (0x85, 0x85), (0xa0, 0xa0), (0x1680, 0x1680), (0x2000, 0x200a),
    (0x2028, 0x2029), (0x202f, 0x202f), (0x205f, 0x205f), (0x3000, 0x3000)]

theorem blankRanges_ascending : Ascending blankRanges := by decide

/-- The character is white space. -/
def isBlank (c : Char) : Bool :=
  inRanges c.toNat blankRanges

/-- The characters without white space at either end. -/
def trimList (cs : List Char) : List Char :=
  ((cs.dropWhile isBlank).reverse.dropWhile isBlank).reverse

/-- The text without white space at either end. -/
def trim (s : String) : String :=
  String.ofList (trimList s.toList)

/-- The text is empty or all white space. -/
def isBlankText (s : String) : Bool :=
  (trim s).isEmpty

end CoherentCache.Text
