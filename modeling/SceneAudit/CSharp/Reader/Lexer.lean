import SceneAudit.CSharp.Reader.Lexeme

/-!
# The lexer of C# sources

The lexer finds the next lexeme from the text ahead and from where it stands: outside of all interpolated strings, in
the text of one, or in a hole of one.  A hole may hold strings with holes of their own, so the places are stacked.
-/

namespace SceneAudit.CSharp

/-- How an interpolated string is written. -/
structure Interpolation where
  /-- Whether a backslash is an ordinary character and the string may run over lines. -/
  verbatim : Bool
  /-- The number of quotes that close the string. -/
  quotes : Nat
  /-- The number of braces that open and close a hole. -/
  braces : Nat
deriving DecidableEq

/-- A place within an interpolated string. -/
inductive Place where
  /-- In the text of the string. -/
  | text (interpolation : Interpolation)
  /-- In a hole, within so many brackets of the hole, with so many conditionals there whose colon is still to come. -/
  | hole (interpolation : Interpolation) (depth conditionals : Nat)
deriving DecidableEq

/-- The lexeme that a text starts with. -/
structure Lexeme where
  /-- The kind of the token; none for what lies between tokens. -/
  kind : Option TokenKind
  /-- How many characters belong to the lexeme. -/
  length : Nat
  /-- The places after the lexeme, the innermost first. -/
  places : List Place
deriving DecidableEq

namespace Lexeme

/-! ## Outside of strings -/

/-- A token up to an end that is looked for behind its opening characters; a stray one if the end is missing. -/
def upTo (kind : Option TokenKind) (places : List Place) (cs : List Char) (opening : Nat)
    (body : List Char → Option Nat) : Lexeme :=
  match body (cs.drop opening) with
  | some length => ⟨kind, opening + length, places⟩
  | none => ⟨some .stray, cs.length, places⟩

/-- A string together with the letters that give its encoding. -/
def withEncoding (lexeme : Lexeme) (cs : List Char) : Lexeme :=
  { lexeme with length := lexeme.length + encodingLength (cs.drop lexeme.length) }

/-- The interpolated string that starts after dollar signs and perhaps an `@`. -/
def interpolated (places : List Place) (dollars at' : Nat) (cs : List Char) : Lexeme :=
  let quotes := runLength (· = '"') (cs.drop (dollars + at'))
  if quotes ≥ 3 && at' = 0 then
    ⟨some (.opening .quoted), dollars + quotes, .text ⟨true, quotes, dollars⟩ :: places⟩
  else if quotes ≥ 1 && dollars = 1 then
    ⟨some (.opening .quoted), dollars + at' + 1, .text ⟨at' = 1, 1, 1⟩ :: places⟩
  else
    ⟨some .stray, 1, places⟩

/-- The string that starts with a quote. -/
def plainString (places : List Place) (cs : List Char) : Lexeme :=
  let quotes := runLength (· = '"') cs
  let lexeme :=
    if quotes ≥ 3 then upTo (some .text) places cs quotes (rawLength? quotes)
    else upTo (some .text) places cs 1 stringLength?
  lexeme.withEncoding cs

/-- A word, a number or a mark; a stray character if it is none of them. -/
def simple (places : List Place) (cs : List Char) : Lexeme :=
  if wordLength cs ≠ 0 then ⟨some .word, wordLength cs, places⟩
  else if numberLength cs ≠ 0 then ⟨some .number, numberLength cs, places⟩
  else if markLength cs ≠ 0 then ⟨some .mark, markLength cs, places⟩
  else ⟨some .stray, 1, places⟩

/-- The lexeme at the start of a text that stands neither in the text of a string nor closes a hole. -/
def outside (places : List Place) (cs : List Char) : Lexeme :=
  match cs with
  | '/' :: '/' :: _ => ⟨none, runLength isInLine cs, places⟩
  | '/' :: '*' :: _ => upTo none places cs 2 commentLength?
  | '#' :: rest => ⟨directiveKind? rest, runLength isInLine cs, places⟩
  | '"' :: _ => plainString places cs
  | '@' :: '"' :: _ => (upTo (some .text) places cs 2 verbatimLength?).withEncoding cs
  | '@' :: '$' :: rest => interpolated places (runLength (· = '$') ('$' :: rest)) 1 cs
  | '$' :: _ =>
    let dollars := runLength (· = '$') cs
    interpolated places dollars (if (cs.drop dollars).head? = some '@' then 1 else 0) cs
  | '\'' :: _ =>
    match characterLength? (cs.drop 1) with
    | some length => ⟨some .text, 1 + length, places⟩
    | none => ⟨some .stray, 1, places⟩
  | c :: _ =>
    if isSpace c then ⟨none, runLength isSpace cs, places⟩
    else
      match openingBracket? c, closingBracket? c with
      | some bracket, _ => ⟨some (.opening bracket), 1, places⟩
      | _, some bracket => ⟨some (.closing bracket), 1, places⟩
      | none, none => simple places cs
  | [] => ⟨none, 1, places⟩

/-! ## In the text of an interpolated string -/

/-- Whether a character of a string's text may open or close something. -/
def isSpecial (c : Char) : Bool :=
  c = '"' || c = '{' || c = '\\' || c = '\n'

/-- The lexeme at the start of a string's text. -/
def inText (interpolation : Interpolation) (places : List Place) (cs : List Char) : Lexeme :=
  let within := .text interpolation :: places
  match cs with
  | '"' :: rest =>
    let quotes := runLength (· = '"') cs
    if interpolation.quotes = 1 then
      if interpolation.verbatim && rest.head? = some '"' then ⟨none, 2, within⟩
      else ⟨some (.closing .quoted), 1 + encodingLength rest, places⟩
    else if quotes = interpolation.quotes then
      ⟨some (.closing .quoted), quotes, places⟩
    else
      ⟨none, 1, within⟩
  | '{' :: _ =>
    let braces := runLength (· = '{') cs
    if interpolation.quotes = 1 && braces ≥ 2 then
      ⟨none, 2, within⟩
    else if interpolation.braces < braces then
      ⟨none, 1, within⟩
    else if interpolation.braces = braces then
      ⟨some (.opening .hole), braces, .hole interpolation 0 0 :: within⟩
    else
      ⟨none, braces, within⟩
  | '\\' :: _ => ⟨none, if interpolation.verbatim then 1 else 2, within⟩
  | '\n' :: _ => if interpolation.verbatim then ⟨none, 1, within⟩ else ⟨some .stray, 1, places⟩
  | _ => ⟨none, runLength (fun c => !isSpecial c) cs, within⟩

/-! ## In a hole -/

/-- Whether a character may stand in the format of a hole. -/
def isFormatPart (c : Char) : Bool :=
  c != '}' && c != '"' && c != '\n'

/-- The places after a lexeme in a hole, which may open or close a bracket there. -/
def movedInHole (interpolation : Interpolation) (depth conditionals : Nat) (kind : Option TokenKind)
    (places : List Place) : List Place :=
  match kind with
  | some (.opening .quoted) =>
    match places with
    | inner :: rest => inner :: .hole interpolation depth conditionals :: rest
    | [] => [.hole interpolation depth conditionals]
  | some (.opening _) => .hole interpolation (depth + 1) conditionals :: places
  | some (.closing _) => .hole interpolation (depth - 1) conditionals :: places
  | _ => .hole interpolation depth conditionals :: places

/-- The lexeme at the start of a text in a hole.  A colon that no conditional waits for starts the format, which lasts
until the hole closes. -/
def inHole (interpolation : Interpolation) (depth conditionals : Nat) (places : List Place) (cs : List Char) :
    Lexeme :=
  let lexeme := outside places cs
  let usual := { lexeme with places := movedInHole interpolation depth conditionals lexeme.kind lexeme.places }
  if depth = 0 then
    match cs with
    | '}' :: _ =>
      if interpolation.braces ≤ runLength (· = '}') cs then
        ⟨some (.closing .hole), interpolation.braces, places⟩
      else
        ⟨some .stray, 1, .hole interpolation depth conditionals :: places⟩
    | ':' :: c :: _ =>
      if c = ':' then usual
      else if conditionals = 0 then
        ⟨none, runLength isFormatPart cs, .hole interpolation depth conditionals :: places⟩
      else
        { usual with places := .hole interpolation depth (conditionals - 1) :: places }
    | '?' :: c :: _ =>
      if c = '?' || c = '.' || c = '[' then usual
      else { usual with places := .hole interpolation depth (conditionals + 1) :: places }
    | _ => usual
  else
    usual

/-! ## Anywhere -/

/-- The lexeme at the start of a text. -/
def next (places : List Place) (cs : List Char) : Lexeme :=
  match places with
  | [] => outside [] cs
  | .text interpolation :: outer => inText interpolation outer cs
  | .hole interpolation depth conditionals :: outer => inHole interpolation depth conditionals outer cs

end Lexeme

/-- The tokens of a text of which the first characters are to be passed over, being part of the lexeme before. -/
def tokensFrom (places : List Place) (passed line start : Nat) : List Char → List Token
  | [] => []
  | c :: cs =>
    let nextLine := if c = '\n' then line + 1 else line
    match passed with
    | passed + 1 => tokensFrom places passed nextLine (start + 1) cs
    | 0 =>
      let lexeme := Lexeme.next places (c :: cs)
      match lexeme.kind with
      | none => tokensFrom lexeme.places (lexeme.length - 1) nextLine (start + 1) cs
      | some kind =>
        ⟨kind, String.ofList ((c :: cs).take lexeme.length), line, start⟩
          :: tokensFrom lexeme.places (lexeme.length - 1) nextLine (start + 1) cs

/-- The tokens of a source. -/
def tokens (source : String) : List Token :=
  tokensFrom [] 0 1 0 source.toList

end SceneAudit.CSharp
