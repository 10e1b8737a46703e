import PagePress.Text.Ranges

/-!
# White space

The white space of Unicode together with the four separators from U+001C to U+001F.
-/

namespace PagePress.Text

def blankRanges : List (Nat × Nat) :=
  [(0x09, 0x0D), (0x1C, 0x20), (0x85, 0x85), (0xA0, 0xA0), (0x1680, 0x1680), (0x2000, 0x200A),
   (0x2028, 0x2029), (0x202F, 0x202F), (0x205F, 0x205F), (0x3000, 0x3000)]

def isBlank (c : Char) : Bool := inRanges blankRanges c.toNat

def dropBlanks (s : List Char) : List Char := s.dropWhile isBlank

def dropTrailingBlanks (s : List Char) : List Char := (dropBlanks s.reverse).reverse

def trimBlanks (s : List Char) : List Char := dropTrailingBlanks (dropBlanks s)

/-- Whether the character is white space other than the four separators. -/
def isSpacing (c : Char) : Bool := isBlank c && !('\x1c' ≤ c && c ≤ '\x1f')

/-- The text without white space at its two ends, where a separator stays. -/
def trimSpacing (s : List Char) : List Char :=
  ((s.dropWhile isSpacing).reverse.dropWhile isSpacing).reverse

end PagePress.Text
