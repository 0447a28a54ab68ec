/-!
# Blank characters

The characters that count as white space at the edges of a text, and the trimming of them.
-/

namespace RecordSchema.Text

/-- White space: the ASCII controls for layout and separation, the next-line and no-break
characters, and the space separators of all scripts. -/
def isBlank (c : Char) : Bool :=
  let code := c.toNat
  (9 ≤ code && code ≤ 13) || (28 ≤ code && code ≤ 32) || code == 133 || code == 160 ||
    code == 5760 || (8192 ≤ code && code ≤ 8202) || code == 8232 || code == 8233 ||
    code == 8239 || code == 8287 || code == 12288

/-- A list of characters without white space at its two ends. -/
def trim (text : List Char) : List Char :=
  ((text.dropWhile isBlank).reverse.dropWhile isBlank).reverse

/-- A text without white space at its two ends. -/
def strip (text : String) : String :=
  String.ofList (trim text.toList)

end RecordSchema.Text
