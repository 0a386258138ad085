import SceneAudit.Toml.Table

/-!
# Documents of TOML

A document is a sequence of lines: a key with its value, the header of a table, or nothing but a comment.  A value that
has parts may run over several lines if it stands in square brackets.
-/

namespace SceneAudit.Toml

/-! ## Between values -/

/-- The text without the blanks, line ends and comments at its start. -/
def skipLines (inComment : Bool) : List Char → Option (List Char)
  | [] => some []
  | '\n' :: rest => skipLines false rest
  | '\r' :: '\n' :: rest => skipLines false rest
  | c :: rest =>
    if inComment then if isControl c then none else skipLines true rest
    else if isBlank c then skipLines false rest
    else if c = '#' then skipLines true rest
    else some (c :: rest)

/-- The text after the end of a line on which only blanks and a comment may be left. -/
def endLine (cs : List Char) : Option (List Char) :=
  let rest := skipBlanks cs
  let rest := if rest.head? = some '#' then rest.dropWhile fun c => !isControl c else rest
  match rest with
  | [] => some []
  | '\n' :: rest | '\r' :: '\n' :: rest => some rest
  | _ => none

/-- The text after a character that must stand at its start. -/
def expect (c : Char) (cs : List Char) : Option (List Char) :=
  match cs with
  | d :: rest => if c = d then some rest else none
  | [] => none

/-- A key of several parts as the way to it and its last part. -/
def wayAndKey (parts : List String) : List String × String :=
  (parts.dropLast, parts.getLast?.getD "")

/-! ## Values -/

mutual

/-- Reads a value of limited length in which at most so many values with parts lie within each other. -/
def valueWithin : Nat → Nat → List Char → Option (Value × List Char)
  | 0, _, _ => none
  | limit + 1, depth, cs =>
    match cs, depth with
    | '[' :: _, 0 | '{' :: _, 0 => none
    | '[' :: rest, depth + 1 => (elementsWithin limit depth rest).map fun (elements, rest) => (.array elements, rest)
    | '{' :: rest, depth + 1 =>
      match skipBlanks rest with
      | '}' :: rest => some (.table .braces [], rest)
      | rest => (entriesWithin limit depth [] rest).map fun (entries, rest) => (.table .braces entries, rest)
    | '"' :: _, _ | '\'' :: _, _ => (string cs).map fun (text, rest) => (.text text, rest)
    | _, _ => (scalar cs).map fun (value, rest) => (.scalar value, rest)

/-- Reads the elements of an array up to its closing bracket. -/
def elementsWithin : Nat → Nat → List Char → Option (List Value × List Char)
  | 0, _, _ => none
  | limit + 1, depth, cs => do
    match ← skipLines false cs with
    | ']' :: rest => return ([], rest)
    | start =>
      let (first, rest) ← valueWithin limit depth start
      match ← skipLines false rest with
      | ',' :: rest =>
        let (more, rest) ← elementsWithin limit depth rest
        return (first :: more, rest)
      | ']' :: rest => return ([first], rest)
      | _ => failure

/-- Reads the entries of a table in braces, added to the given ones, up to its closing brace. -/
def entriesWithin : Nat → Nat → Entries → List Char → Option (Entries × List Char)
  | 0, _, _, _ => none
  | limit + 1, depth, entries, cs => do
    let (parts, rest) ← key cs
    let rest ← expect '=' rest
    let (value, rest) ← valueWithin limit depth (skipBlanks rest)
    let (way, last) := wayAndKey parts
    let entries ← entries.insert? way last value
    match skipBlanks rest with
    | ',' :: rest => entriesWithin limit depth entries rest
    | '}' :: rest => return (entries, rest)
    | _ => failure

end

/-- Reads a value. -/
def value (cs : List Char) : Option (Value × List Char) :=
  valueWithin (cs.length + 1) deepest cs

/-! ## Lines -/

/-- A document as far as it has been read. -/
structure Progress where
  root : Entries
  /-- The way to the table of the last header. -/
  current : List String

/-- Reads the header of a table after its first bracket. -/
def header (progress : Progress) (cs : List Char) : Option (Progress × List Char) := do
  match cs with
  | '[' :: rest =>
    let (parts, rest) ← key rest
    let rest ← expect ']' (← expect ']' rest)
    let (way, last) := wayAndKey parts
    return (⟨← progress.root.openElement? way last, parts⟩, rest)
  | _ =>
    let (parts, rest) ← key cs
    let rest ← expect ']' rest
    let (way, last) := wayAndKey parts
    return (⟨← progress.root.openTable? way last, parts⟩, rest)

/-- Reads a key and its value. -/
def keyValue (progress : Progress) (cs : List Char) : Option (Progress × List Char) := do
  let (parts, rest) ← key cs
  let (read, rest) ← value (skipBlanks (← expect '=' rest))
  let (way, last) := wayAndKey parts
  let root ← progress.root.update? .passed (fun _ entries => entries.insert? way last read) progress.current .header
  return ({ progress with root }, rest)

/-- Reads on in a document of so many lines at most. -/
def linesWithin : Nat → Progress → List Char → Option Entries
  | 0, _, _ => none
  | limit + 1, progress, cs => do
    match ← skipLines false cs with
    | [] => return progress.root
    | '[' :: rest =>
      let (progress, rest) ← header progress rest
      linesWithin limit progress (← endLine rest)
    | start =>
      let (progress, rest) ← keyValue progress start
      linesWithin limit progress (← endLine rest)

/-- The entries of a document; none if it is not well formed.  A mark of the byte order may stand before it. -/
def document? (text : String) : Option Entries :=
  let cs := text.toList
  let cs := if cs.head? = some '\uFEFF' then cs.tail else cs
  linesWithin (cs.length + 1) ⟨[], []⟩ cs

end SceneAudit.Toml
