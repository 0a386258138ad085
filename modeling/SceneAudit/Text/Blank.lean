/-!
# Blank characters, trimming and indentation

Blank characters are those of the Unicode property `White_Space`.  The zero-width space and the byte order mark
are not among them, and neither are the ASCII separators `U+001C` to `U+001F`.

Indentation is counted in bytes of the UTF-8 form, so an ideographic space at the start of a line indents it by
three.
-/

namespace SceneAudit.Text

/-- The Unicode property `White_Space`. -/
def isBlank (c : Char) : Bool :=
  let n := c.toNat
  (0x09 ≤ n && n ≤ 0x0D) || n == 0x20 || n == 0x85 || n == 0xA0 || n == 0x1680 ||
    (0x2000 ≤ n && n ≤ 0x200A) || n == 0x2028 || n == 0x2029 || n == 0x202F || n == 0x205F || n == 0x3000

/-- The text without its leading blanks. -/
def trimStart (cs : List Char) : List Char :=
  cs.dropWhile isBlank

/-- The text without its trailing blanks. -/
def trimEnd (cs : List Char) : List Char :=
  (cs.reverse.dropWhile isBlank).reverse

/-- The text without its leading and trailing blanks. -/
def trim (cs : List Char) : List Char :=
  trimEnd (trimStart cs)

/-- A text of blanks only. -/
def allBlank (cs : List Char) : Bool :=
  cs.all isBlank

/-- The number of bytes that the leading blanks take. -/
def indentation (cs : List Char) : Nat :=
  (cs.takeWhile isBlank).foldl (fun width c => width + c.utf8Size) 0

end SceneAudit.Text
