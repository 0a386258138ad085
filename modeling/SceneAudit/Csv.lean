/-!
# Comma-separated rows

A row is its fields with commas between them and a line feed at the end.  A field is quoted only if it has a comma, a
quote, a carriage return or a line feed in it; a quote inside a quoted field is written twice.
-/

namespace SceneAudit.Csv

/-- Whether a character makes its field be quoted. -/
def needsQuotes (c : Char) : Bool :=
  c == ',' || c == '"' || c == '\r' || c == '\n'

/-- A field's text with every quote doubled. -/
def doubleQuotes (field : List Char) : List Char :=
  field.flatMap fun c => if c = '"' then ['"', '"'] else [c]

/-- A field as it is written. -/
def encodeField (field : String) : List Char :=
  if field.toList.any needsQuotes then
    '"' :: doubleQuotes field.toList ++ ['"']
  else
    field.toList

/-- A row as it is written, with its line feed. -/
def encodeRow (fields : List String) : String :=
  String.ofList ([','].intercalate (fields.map encodeField) ++ ['\n'])

/-- The text of a list of rows. -/
def encode (rows : List (List String)) : String :=
  String.join (rows.map encodeRow)

end SceneAudit.Csv
