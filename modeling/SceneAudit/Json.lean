/-!
# Writing JSON

Values are written over several lines with two blanks for each level; what has no parts stays on one line.
-/

namespace SceneAudit

inductive Json where
  | number (value : Nat)
  | text (value : String)
  | list (elements : List Json)
  | object (entries : List (String × Json))

namespace Json

/-! ## Texts -/

/-- The last four hexadecimal digits of a number. -/
def fourDigits (number : Nat) : List Char :=
  [number / 4096 % 16, number / 256 % 16, number / 16 % 16, number % 16].map Nat.digitChar

/-- How a character is written within quotes. -/
def escape (c : Char) : List Char :=
  match c with
  | '"' => ['\\', '"']
  | '\\' => ['\\', '\\']
  | '\x08' => ['\\', 'b']
  | '\x0c' => ['\\', 'f']
  | '\n' => ['\\', 'n']
  | '\r' => ['\\', 'r']
  | '\t' => ['\\', 't']
  | _ => if c.toNat < 0x20 then '\\' :: 'u' :: fourDigits c.toNat else [c]

/-- A text in quotes. -/
def quote (text : String) : String :=
  String.ofList ('"' :: text.toList.flatMap escape ++ ['"'])

/-! ## Values -/

/-- The blanks at the start of a line. -/
def indent (depth : Nat) : String :=
  String.ofList (List.replicate (2 * depth) ' ')

/-- Parts in brackets, one on each line. -/
def bracketed (opening closing : Char) (depth : Nat) (parts : List String) : String :=
  if parts.isEmpty then
    String.ofList [opening, closing]
  else
    String.singleton opening ++ "\n"
      ++ String.intercalate ",\n" (parts.map fun part => indent (depth + 1) ++ part)
      ++ "\n" ++ indent depth ++ String.singleton closing

mutual

/-- The text of a value that stands within so many brackets. -/
def prettyAt (depth : Nat) : Json → String
  | .number value => toString value
  | .text value => quote value
  | .list elements => bracketed '[' ']' depth (prettyElements (depth + 1) elements)
  | .object entries => bracketed '{' '}' depth (prettyEntries (depth + 1) entries)

/-- The texts of elements. -/
def prettyElements (depth : Nat) : List Json → List String
  | [] => []
  | element :: rest => element.prettyAt depth :: prettyElements depth rest

/-- The texts of entries. -/
def prettyEntries (depth : Nat) : List (String × Json) → List String
  | [] => []
  | (key, value) :: rest => (quote key ++ ": " ++ value.prettyAt depth) :: prettyEntries depth rest

end

/-- The text of a value. -/
def pretty (value : Json) : String :=
  value.prettyAt 0

end Json

end SceneAudit
