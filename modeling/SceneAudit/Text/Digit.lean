import SceneAudit.Text.Blank

/-!
# Decimal digits and signed numerals

Decimal digits are the characters of the Unicode general category `Nd`, in any script.  They come in runs of ten,
so a run is given by its first character.  A numeral is an optional minus sign and at least one decimal digit; its
text is kept as written, since identifiers are never compared by value.
-/

namespace SceneAudit.Text

/-- The first character of every run of ten decimal digits. -/
def digitRuns : List Nat :=
  [0x0030, 0x0660, 0x06F0, 0x07C0, 0x0966, 0x09E6, 0x0A66, 0x0AE6, 0x0B66, 0x0BE6, 0x0C66, 0x0CE6, 0x0D66,
   0x0DE6, 0x0E50, 0x0ED0, 0x0F20, 0x1040, 0x1090, 0x17E0, 0x1810, 0x1946, 0x19D0, 0x1A80, 0x1A90, 0x1B50,
   0x1BB0, 0x1C40, 0x1C50, 0xA620, 0xA8D0, 0xA900, 0xA9D0, 0xA9F0, 0xAA50, 0xABF0, 0xFF10, 0x104A0,
   0x10D30, 0x10D40, 0x11066, 0x110F0, 0x11136, 0x111D0, 0x112F0, 0x11450, 0x114D0, 0x11650, 0x116C0,
   0x116D0, 0x116DA, 0x11730, 0x118E0, 0x11950, 0x11BF0, 0x11C50, 0x11D50, 0x11DA0, 0x11F50, 0x16130,
   0x16A60, 0x16AC0, 0x16B50, 0x16D70, 0x1CCF0, 0x1D7CE, 0x1D7D8, 0x1D7E2, 0x1D7EC, 0x1D7F6, 0x1E140,
   0x1E2F0, 0x1E4F0, 0x1E5F1, 0x1E950, 0x1FBF0]

/-- The Unicode general category `Nd`. -/
def isDecimalDigit (c : Char) : Bool :=
  digitRuns.any fun first => first ≤ c.toNat && c.toNat < first + 10

/-- Every ASCII digit is a decimal digit. -/
theorem isDecimalDigit_of_isDigit {c : Char} (h : c.isDigit = true) : isDecimalDigit c = true := by
  simp only [Char.isDigit, Bool.and_eq_true, decide_eq_true_eq] at h
  have low : 48 ≤ c.toNat := UInt32.le_iff_toNat_le.mp h.1
  have high : c.toNat ≤ 57 := UInt32.le_iff_toNat_le.mp h.2
  simp only [isDecimalDigit, digitRuns, List.any_cons, Bool.or_eq_true, Bool.and_eq_true, decide_eq_true_eq]
  exact .inl ⟨low, by omega⟩

/-- The longest run of decimal digits at the start of a text and what follows it, unless there is no digit. -/
def digits? (cs : List Char) : Option (List Char × List Char) :=
  match cs.takeWhile isDecimalDigit with
  | [] => none
  | run => some (run, cs.dropWhile isDecimalDigit)

/-- The numeral at the start of a text and what follows it. -/
def numeral? (cs : List Char) : Option (List Char × List Char) :=
  match cs with
  | '-' :: rest => (digits? rest).map fun (run, after) => ('-' :: run, after)
  | _ => digits? cs

end SceneAudit.Text
