/-!
# Keys and strings of TOML

Each reader takes a text and gives what it reads together with the rest of the text, or nothing if the text does not
start as the format demands.
-/

namespace SceneAudit.Toml

/-! ## Characters -/

/-- A blank within a line. -/
def isBlank (c : Char) : Bool :=
  c = ' ' || c = '\t'

/-- A control character other than the tabulator: none of them may stand in a line. -/
def isControl (c : Char) : Bool :=
  (c.val < 0x20 && c != '\t') || c.val = 0x7F

/-- The text without the blanks at its start. -/
def skipBlanks (cs : List Char) : List Char :=
  cs.dropWhile isBlank

/-- A character of a key that needs no quotes. -/
def isBareKeyPart (c : Char) : Bool :=
  c.isAlphanum || c = '_' || c = '-'

/-! ## Escapes -/

/-- The character that a letter after a backslash stands for. -/
def escaped? : Char → Option Char
  | 'b' => some '\x08'
  | 't' => some '\t'
  | 'n' => some '\n'
  | 'f' => some '\x0c'
  | 'r' => some '\r'
  | '"' => some '"'
  | '\\' => some '\\'
  | _ => none

/-- The value of a hexadecimal digit. -/
def hexValue? (c : Char) : Option Nat :=
  if c.isDigit then some (c.toNat - '0'.toNat)
  else if 'a' ≤ c && c ≤ 'f' then some (c.toNat - 'a'.toNat + 10)
  else if 'A' ≤ c && c ≤ 'F' then some (c.toNat - 'A'.toNat + 10)
  else none

/-- The character whose number the hexadecimal digits give. -/
def scalar? (digits : List Char) : Option Char := do
  let number ← digits.foldlM (fun number digit => return number * 16 + (← hexValue? digit)) 0
  if number.isValidChar then some (Char.ofNat number) else none

/-! ## Strings on one line -/

/-- Puts a character, if there is one, before what a reader has read. -/
def consRead (c : Option Char) (read : Option (List Char × List Char)) : Option (List Char × List Char) :=
  c.bind fun c => read.map fun (cs, rest) => (c :: cs, rest)

/-- Reads a string with escapes after its opening quote. -/
def basicBody : List Char → Option (List Char × List Char)
  | '"' :: rest => some ([], rest)
  | '\\' :: 'u' :: a :: b :: c :: d :: rest => consRead (scalar? [a, b, c, d]) (basicBody rest)
  | '\\' :: 'U' :: a :: b :: c :: d :: e :: f :: g :: h :: rest =>
    consRead (scalar? [a, b, c, d, e, f, g, h]) (basicBody rest)
  | '\\' :: c :: rest => consRead (escaped? c) (basicBody rest)
  | c :: rest => if isControl c then none else consRead c (basicBody rest)
  | [] => none

/-- Reads a string without escapes after its opening quote. -/
def literalBody : List Char → Option (List Char × List Char)
  | '\'' :: rest => some ([], rest)
  | c :: rest => if isControl c then none else consRead c (literalBody rest)
  | [] => none

/-! ## Strings over several lines -/

/-- Whether nothing but blanks comes before the end of the line. -/
def atLineEnd (cs : List Char) : Bool :=
  match skipBlanks cs with
  | '\n' :: _ | '\r' :: '\n' :: _ => true
  | _ => false

/-- Reads a string with escapes after its three opening quotes.  A backslash at the end of a line takes all blanks and
line ends after it away; up to two quotes may stand before the three that close the string. -/
def basicLines (trimming : Bool) : List Char → Option (List Char × List Char)
  | '"' :: '"' :: '"' :: '"' :: '"' :: rest => some (['"', '"'], rest)
  | '"' :: '"' :: '"' :: '"' :: rest => some (['"'], rest)
  | '"' :: '"' :: '"' :: rest => some ([], rest)
  | '\r' :: '\n' :: rest => if trimming then basicLines true rest else consRead '\n' (basicLines false rest)
  | '\n' :: rest => if trimming then basicLines true rest else consRead '\n' (basicLines false rest)
  | '\\' :: 'u' :: a :: b :: c :: d :: rest => consRead (scalar? [a, b, c, d]) (basicLines false rest)
  | '\\' :: 'U' :: a :: b :: c :: d :: e :: f :: g :: h :: rest =>
    consRead (scalar? [a, b, c, d, e, f, g, h]) (basicLines false rest)
  | '\\' :: c :: rest =>
    if atLineEnd (c :: rest) then basicLines true (c :: rest)
    else consRead (escaped? c) (basicLines false rest)
  | c :: rest =>
    if trimming && isBlank c then basicLines true rest
    else if isControl c then none
    else consRead c (basicLines false rest)
  | [] => none

/-- Reads a string without escapes after its three opening quotes. -/
def literalLines : List Char → Option (List Char × List Char)
  | '\'' :: '\'' :: '\'' :: '\'' :: '\'' :: rest => some (['\'', '\''], rest)
  | '\'' :: '\'' :: '\'' :: '\'' :: rest => some (['\''], rest)
  | '\'' :: '\'' :: '\'' :: rest => some ([], rest)
  | '\r' :: '\n' :: rest => consRead '\n' (literalLines rest)
  | '\n' :: rest => consRead '\n' (literalLines rest)
  | c :: rest => if isControl c then none else consRead c (literalLines rest)
  | [] => none

/-- A text without a line end at its start. -/
def skipLineEnd (cs : List Char) : List Char :=
  match cs with
  | '\n' :: rest | '\r' :: '\n' :: rest => rest
  | _ => cs

/-! ## Any string and any key -/

/-- Reads a string of any kind. -/
def string (cs : List Char) : Option (String × List Char) :=
  let read :=
    match cs with
    | '"' :: '"' :: '"' :: rest => basicLines false (skipLineEnd rest)
    | '\'' :: '\'' :: '\'' :: rest => literalLines (skipLineEnd rest)
    | '"' :: rest => basicBody rest
    | '\'' :: rest => literalBody rest
    | _ => none
  read.map fun (text, rest) => (String.ofList text, rest)

/-- Reads one part of a key. -/
def simpleKey (cs : List Char) : Option (String × List Char) :=
  match cs with
  | '"' :: rest => (basicBody rest).map fun (text, rest) => (String.ofList text, rest)
  | '\'' :: rest => (literalBody rest).map fun (text, rest) => (String.ofList text, rest)
  | _ =>
    let bare := cs.takeWhile isBareKeyPart
    if bare.isEmpty then none else some (String.ofList bare, cs.dropWhile isBareKeyPart)

/-- Reads a key of so many parts at most, with dots between them. -/
def keyWithin : Nat → List Char → Option (List String × List Char)
  | 0, _ => none
  | parts + 1, cs =>
    match simpleKey (skipBlanks cs) with
    | none => none
    | some (first, rest) =>
      match skipBlanks rest with
      | '.' :: rest => (keyWithin parts rest).map fun (more, rest) => (first :: more, rest)
      | rest => some ([first], rest)

/-- How many parts a key may have at most, and how many values with parts may lie within each other. -/
def deepest : Nat := 79

/-- Reads a key with the blanks around it. -/
def key (cs : List Char) : Option (List String × List Char) :=
  keyWithin deepest cs

end SceneAudit.Toml
