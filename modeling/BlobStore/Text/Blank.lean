import BlobStore.Text.Ranges

/-!
# Blank characters

The characters with the Unicode property `White_Space`, and texts without them at either end.
-/

namespace BlobStore.Text

def blank : Ranges :=
  [(0x09, 0x0d), (0x20, 0x20), (0x85, 0x85), (0xa0, 0xa0), (0x1680, 0x1680), (0x2000, 0x200a),
   (0x2028, 0x2029), (0x202f, 0x202f), (0x205f, 0x205f), (0x3000, 0x3000)]

def isBlank (c : Char) : Bool := blank.contains c

/-- The text without the characters of the class at its end. -/
def trimEnd (drop : Char → Bool) (text : List Char) : List Char :=
  (text.reverse.dropWhile drop).reverse

/-- The text without blanks at either end. -/
def trim (text : List Char) : List Char := trimEnd isBlank (text.dropWhile isBlank)

end BlobStore.Text
