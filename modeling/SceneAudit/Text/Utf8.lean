/-!
# Reading bytes as text

Bytes are text when they are well-formed UTF-8: shortest forms only, no surrogates, nothing above `U+10FFFF`.  When
they are not, the place to report is the start of the first sequence that does not decode.
-/

namespace SceneAudit.Text

/-- The first offset, from `start` on, at which no character decodes: the size when all of it does. -/
def validUpTo (bytes : ByteArray) (start : Nat) : Nat :=
  if _h : start < bytes.size then
    match bytes.utf8DecodeChar? start with
    | some c => validUpTo bytes (start + c.utf8Size)
    | none => start
  else
    start
termination_by bytes.size - start
decreasing_by
  have := c.utf8Size_pos
  omega

/-- The text that the bytes encode, or the offset of the first byte that starts no character. -/
def decode (bytes : ByteArray) : Except Nat String :=
  match String.fromUTF8? bytes with
  | some text => .ok text
  | none => .error (validUpTo bytes 0)

end SceneAudit.Text
