/-!
# Blank characters

The characters that may surround a value without being part of it: the spaces and line breaks
of Unicode, and the four separators U+001C to U+001F. `trim` removes them at both ends of a text.
-/

namespace FlowWarden.Text

/-- A space, a tab, a line break or a separator of any kind. -/
def isBlank (c : Char) : Bool :=
  let n := c.toNat
  (0x09 ≤ n && n ≤ 0x0d) || (0x1c ≤ n && n ≤ 0x20) || n == 0x85 || n == 0xa0 || n == 0x1680 ||
    (0x2000 ≤ n && n ≤ 0x200a) || n == 0x2028 || n == 0x2029 || n == 0x202f || n == 0x205f ||
    n == 0x3000

/-- A list of characters without the blanks at its ends. -/
def trimChars (cs : List Char) : List Char :=
  ((cs.dropWhile isBlank).reverse.dropWhile isBlank).reverse

/-- A text without the blanks at its ends. -/
def trim (s : String) : String :=
  String.ofList (trimChars s.toList)

/-- A text of blanks only, the empty text among them. -/
def isBlankText (s : String) : Bool :=
  s.toList.all isBlank

end FlowWarden.Text
