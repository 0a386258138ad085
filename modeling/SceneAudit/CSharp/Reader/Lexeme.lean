import SceneAudit.CSharp.Reader.Token
import SceneAudit.Text.Blank
import SceneAudit.Text.Identifier

/-!
# Lexemes

The rules for the single lexemes of C#: how many characters of a text belong to the name, number, string, comment or
operator that it starts with.
-/

namespace SceneAudit.CSharp

open Text

/-- How many characters at the start of a text satisfy a test. -/
def runLength (test : Char → Bool) (cs : List Char) : Nat :=
  (cs.takeWhile test).length

/-- Whether a text starts with a word. -/
def startsWith (word : String) (cs : List Char) : Bool :=
  word.toList.isPrefixOf cs

/-! ## Blanks and comments -/

/-- A blank, or the mark that may open a file. -/
def isSpace (c : Char) : Bool :=
  isBlank c || c = '\uFEFF'

/-- Whether a character does not end the line. -/
def isInLine (c : Char) : Bool :=
  c != '\n'

/-- How many characters there are up to and including the `*/` that closes a comment. -/
def commentLength? : List Char → Option Nat
  | '*' :: '/' :: _ => some 2
  | _ :: cs => (commentLength? cs).map (· + 1)
  | [] => none

/-! ## Names and numbers -/

/-- The length of the name or keyword at the start of a text, zero if there is none.  An `@` may stand before it. -/
def wordLength (cs : List Char) : Nat :=
  match cs with
  | '@' :: c :: rest => if isIdentifierStart c then 2 + runLength isIdentifierPart rest else 0
  | c :: rest => if isIdentifierStart c then 1 + runLength isIdentifierPart rest else 0
  | [] => 0

/-- A digit or an underscore between digits. -/
def isNumeralPart (c : Char) : Bool :=
  c.isDigit || c = '_'

def isHexDigit (c : Char) : Bool :=
  c.isDigit || ('a' ≤ c && c ≤ 'f') || ('A' ≤ c && c ≤ 'F')

/-- How many digits there are at the start of a text, with the underscores before and between them. -/
def digitsLength (isDigit : Char → Bool) (cs : List Char) : Nat :=
  ((cs.takeWhile fun c => isDigit c || c = '_').reverse.dropWhile (· = '_')).length

/-- The length of an exponent, zero if there is none. -/
def exponentLength (cs : List Char) : Nat :=
  match cs with
  | e :: sign :: d :: rest =>
    if e = 'e' || e = 'E' then
      if sign.isDigit then 2 + runLength isNumeralPart (d :: rest)
      else if (sign = '+' || sign = '-') && d.isDigit then 3 + runLength isNumeralPart rest
      else 0
    else
      0
  | [e, d] => if (e = 'e' || e = 'E') && d.isDigit then 2 else 0
  | _ => 0

/-- The length of the type letters after a number with a fraction or an exponent. -/
def realSuffixLength (cs : List Char) : Nat :=
  match cs with
  | c :: _ => if "fFdDmM".toList.contains c then 1 else 0
  | [] => 0

/-- The length of the type letters after a whole number. -/
def wholeSuffixLength (cs : List Char) : Nat :=
  runLength ("uUlL".toList.contains ·) cs

/-- The length of what follows the digits of a number's whole part. -/
def numberTailLength (cs : List Char) : Nat :=
  let fraction :=
    match cs with
    | '.' :: d :: rest => if d.isDigit then 2 + runLength isNumeralPart rest else 0
    | _ => 0
  let exponent := exponentLength (cs.drop fraction)
  let suffix := realSuffixLength (cs.drop (fraction + exponent))
  if fraction + exponent + suffix = 0 then wholeSuffixLength cs else fraction + exponent + suffix

/-- The length of the number at the start of a text, zero if there is none. -/
def numberLength (cs : List Char) : Nat :=
  match cs with
  | '0' :: x :: rest =>
    let digits :=
      if x = 'x' || x = 'X' then digitsLength isHexDigit rest
      else if x = 'b' || x = 'B' then digitsLength ("01".toList.contains ·) rest
      else 0
    if digits = 0 then decimal cs else 2 + digits + wholeSuffixLength (rest.drop digits)
  | _ => decimal cs
where
  decimal (cs : List Char) : Nat :=
    match cs with
    | c :: rest =>
      if c.isDigit then
        let digits := 1 + runLength isNumeralPart rest
        digits + numberTailLength (cs.drop digits)
      else if c = '.' && rest.head?.any Char.isDigit then
        numberTailLength cs
      else
        0
    | [] => 0

/-! ## Strings and characters -/

/-- How many characters there are up to and including the quote that closes a string on one line.  A backslash takes
the next character with it. -/
def stringLength? : List Char → Option Nat
  | '"' :: _ => some 1
  | '\\' :: c :: cs => if c = '\n' then none else (stringLength? cs).map (· + 2)
  | c :: cs => if c = '\n' then none else (stringLength? cs).map (· + 1)
  | [] => none

/-- How many characters there are up to and including the quote that closes a verbatim string.  A quote in the string
is written twice. -/
def verbatimLength? : List Char → Option Nat
  | '"' :: '"' :: cs => (verbatimLength? cs).map (· + 2)
  | '"' :: _ => some 1
  | _ :: cs => (verbatimLength? cs).map (· + 1)
  | [] => none

/-- How many characters there are up to and including the given number of quotes in a row. -/
def rawLength? (quotes : Nat) : List Char → Option Nat
  | [] => none
  | c :: cs =>
    if (c :: cs).take quotes = List.replicate quotes '"' then some quotes
    else (rawLength? quotes cs).map (· + 1)

/-- The length of the letters after a string that give its encoding. -/
def encodingLength (cs : List Char) : Nat :=
  match cs with
  | c :: '8' :: _ => if c = 'u' || c = 'U' then 2 else 0
  | _ => 0

/-- How many characters there are up to and including the quote that closes a character. -/
def characterLength? : List Char → Option Nat
  | '\\' :: _ :: cs =>
    let digits := runLength isHexDigit cs
    if (cs.drop digits).head? = some '\'' then some (digits + 3) else none
  | c :: '\'' :: _ => if c = '\'' || c = '\n' then none else some 2
  | _ => none

/-! ## Operators and separators -/

/-- The marks, each before those that it starts with.  There is no mark of two closing angle brackets, because they
may belong to two lists of type arguments. -/
def marks : List String :=
  ["<<=", "??=", "??", "?.", "=>", "==", "!=", "<=", "<<", ">=", "&&", "||", "++", "--", "+=", "-=", "*=", "/=", "%=",
    "&=", "|=", "^=", "->", "::", "..", ";", ",", ".", ":", "?", "=", "+", "-", "*", "/", "%", "&", "|", "^", "!",
    "~", "<", ">"]

/-- The length of the mark at the start of a text, zero if there is none.  A `?` before a fraction stands alone. -/
def markLength (cs : List Char) : Nat :=
  match cs with
  | '?' :: '.' :: c :: _ => if c.isDigit then 1 else 2
  | _ => ((marks.find? (startsWith · cs)).map String.length).getD 0

def openingBracket? : Char → Option Bracket
  | '(' => some .round
  | '[' => some .square
  | '{' => some .curly
  | _ => none

def closingBracket? : Char → Option Bracket
  | ')' => some .round
  | ']' => some .square
  | '}' => some .curly
  | _ => none

/-! ## Directives -/

/-- The directives that say nothing about the shape of the source. -/
def silentDirectives : List String :=
  ["region", "endregion", "pragma", "nullable", "line", "error", "warning", "define", "undef"]

/-- What the directive that fills the rest of a line is, after its `#`; none if it says nothing. -/
def directiveKind? (cs : List Char) : Option TokenKind :=
  let named := cs.dropWhile fun c => c = ' ' || c = '\t'
  let name := String.ofList (named.takeWhile isIdentifierPart)
  if name = "if" then some (.opening .conditional)
  else if name = "endif" then some (.closing .conditional)
  else if name = "elif" || name = "else" then some .branch
  else if silentDirectives.contains name then none
  else some .stray

end SceneAudit.CSharp
