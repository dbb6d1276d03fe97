/-!
White space as the Unicode property White_Space has it, and texts without it at their ends.
-/

namespace MavBridge.Text

/-- The code points of the property, as closed intervals. -/
def blankRanges : List (Nat × Nat) :=
  [(0x09, 0x0D), (0x20, 0x20), (0x85, 0x85), (0xA0, 0xA0), (0x1680, 0x1680), (0x2000, 0x200A),
    (0x2028, 0x2029), (0x202F, 0x202F), (0x205F, 0x205F), (0x3000, 0x3000)]

def isBlank (char : Char) : Bool :=
  blankRanges.any fun range => range.1 ≤ char.toNat && char.toNat ≤ range.2

/-- `text` without its trailing white space. -/
def trimEnd (text : List Char) : List Char := (text.reverse.dropWhile isBlank).reverse

/-- `text` without the white space around it. -/
def trim (text : List Char) : List Char := trimEnd (text.dropWhile isBlank)

end MavBridge.Text
