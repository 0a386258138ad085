/-!
# Tokens of C# sources

A source is a sequence of tokens with blanks, comments and some directives between them.  What is no token of the
language is kept as a stray token, so that the lexer never fails; no grammar rule accepts one.

The text of an interpolated string is no token.  Its quotes and the braces of its holes are brackets, so that the
expressions in the holes are read like all others.
-/

namespace SceneAudit.CSharp

/-- A stretch of a source, given by the positions of its first character and of the one after its last. -/
structure Span where
  start : Nat
  stop : Nat
deriving DecidableEq

inductive Bracket where
  | round
  | square
  | curly
  /-- The angle brackets of type arguments. -/
  | angle
  /-- The quotes of an interpolated string. -/
  | quoted
  /-- The braces of a hole in an interpolated string. -/
  | hole
  /-- The directives `#if` and `#endif`. -/
  | conditional
deriving DecidableEq

inductive TokenKind where
  /-- A name or a keyword. -/
  | word
  | number
  /-- A string or character without holes. -/
  | text
  /-- An operator or a separator. -/
  | mark
  | opening (bracket : Bracket)
  | closing (bracket : Bracket)
  /-- One of the directives `#elif` and `#else`. -/
  | branch
  /-- Characters that are no token. -/
  | stray
deriving DecidableEq

structure Token where
  kind : TokenKind
  text : String
  /-- The number of the line that the token starts on, counted from one. -/
  line : Nat
  /-- The position of the token's first character in the source. -/
  start : Nat
deriving DecidableEq

namespace Token

/-- The position after the token's last character. -/
def stop (token : Token) : Nat :=
  token.start + token.text.length

def span (token : Token) : Span :=
  ⟨token.start, token.stop⟩

/-- Whether the token is the given mark. -/
def isMark (token : Token) (text : String) : Bool :=
  token.kind = .mark && token.text = text

end Token

end SceneAudit.CSharp
