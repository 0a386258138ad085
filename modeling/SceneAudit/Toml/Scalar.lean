import SceneAudit.Toml.Text

/-!
# Numbers, truth values and points in time of TOML

Such a value is written in letters, digits and a few marks without blanks, so it is first cut off as a whole and then
looked at.
-/

namespace SceneAudit.Toml

/-- A value other than a string that has no parts. -/
inductive Scalar where
  | whole (value : Int)
  | real
  | boolean (value : Bool)
  | moment
deriving DecidableEq

/-! ## Numbers -/

/-- Whether digits have underscores only between them. -/
def areDigits (test : Char → Bool) : List Char → Bool
  | [] => false
  | [c] => test c
  | c :: '_' :: rest => test c && areDigits test rest
  | c :: rest => test c && areDigits test rest

/-- The number that digits of a base write. -/
def valueOf (base : Nat) (digits : List Char) : Nat :=
  digits.foldl (fun value digit => match hexValue? digit with | some n => value * base + n | none => value) 0

/-- The bounds of whole numbers. -/
def fits (value : Int) : Bool :=
  -Int.pow 2 63 ≤ value && value < Int.pow 2 63

/-- A whole number if it is within the bounds. -/
def bounded? (value : Int) : Option Scalar :=
  if fits value then some (.whole value) else none

/-- Whether the text is a decimal number without sign and without zeros at its start. -/
def isPlain (cs : List Char) : Bool :=
  areDigits Char.isDigit cs && (cs.head? ≠ some '0' || cs.length = 1)

/-- The text without its sign, and whether that is a minus. -/
def withoutSign (cs : List Char) : Bool × List Char :=
  match cs with
  | '-' :: rest => (true, rest)
  | '+' :: rest => (false, rest)
  | _ => (false, cs)

/-- The whole number that digits of a base write. -/
def wholeIn (base : Nat) (digits : List Char) : Option Scalar :=
  if areDigits (fun c => (hexValue? c).any (· < base)) digits then bounded? (valueOf base digits) else none

/-- The whole number that a text writes. -/
def whole? (cs : List Char) : Option Scalar :=
  match cs with
  | '0' :: 'x' :: digits => wholeIn 16 digits
  | '0' :: 'o' :: digits => wholeIn 8 digits
  | '0' :: 'b' :: digits => wholeIn 2 digits
  | _ =>
    let (negative, digits) := withoutSign cs
    if isPlain digits then bounded? (if negative then -(valueOf 10 digits) else valueOf 10 digits) else none

/-- The parts of a text before and after the first character that satisfies a test. -/
def cutAt (test : Char → Bool) (cs : List Char) : List Char × Option (List Char) :=
  match cs.dropWhile (!test ·) with
  | [] => (cs, none)
  | _ :: rest => (cs.takeWhile (!test ·), some rest)

/-- The least number that is nearer to 2^1024 than to the greatest double. -/
def doubleLimit : Nat := Nat.pow 2 1024 - Nat.pow 2 970

/-- Whether digits times a power of ten are too large for a double. -/
def isBeyondDoubles (digits : List Char) (exponent : Int) : Bool :=
  let significant := digits.dropWhile fun c => !(c.isDigit && c != '0')
  let magnitude := (significant.filter Char.isDigit).length + exponent
  if significant.isEmpty || magnitude < 309 then false
  else if magnitude > 309 then true
  else doubleLimit * Nat.pow 10 (-exponent).toNat ≤ valueOf 10 significant * Nat.pow 10 exponent.toNat

/-- The number that the digits of an exponent write, perhaps after a sign. -/
def exponentOf (cs : List Char) : Int :=
  let (negative, digits) := withoutSign cs
  if negative then -(valueOf 10 digits) else valueOf 10 digits

/-- Whether the text is a number with a fraction or an exponent, or one of the special numbers.  A number without a
minus must not be too large for a double. -/
def isReal (cs : List Char) : Bool :=
  let (negative, unsigned) := withoutSign cs
  let (mantissa, exponent) := cutAt (fun c => c = 'e' || c = 'E') unsigned
  let (integral, fraction) := cutAt (· = '.') mantissa
  let decimals := fraction.getD []
  unsigned = "inf".toList || unsigned = "nan".toList ||
    (isPlain integral && fraction.all (areDigits Char.isDigit)
      && exponent.all (fun digits => areDigits Char.isDigit (withoutSign digits).2)
      && (fraction.isSome || exponent.isSome)
      && (negative || !isBeyondDoubles (integral ++ decimals)
        (exponentOf (exponent.getD []) - (decimals.filter Char.isDigit).length)))

/-! ## Points in time -/

/-- The number that exactly so many digits write. -/
def fixed? (count : Nat) (cs : List Char) : Option Nat :=
  if cs.length = count && cs.all Char.isDigit then some (valueOf 10 cs) else none

/-- The number of days of a month. -/
def daysOf (year month : Nat) : Nat :=
  if month = 2 then
    if (year % 4 = 0 && year % 100 ≠ 0) || year % 400 = 0 then 29 else 28
  else if month = 4 || month = 6 || month = 9 || month = 11 then 30
  else 31

/-- Whether the text is a day. -/
def isDate (cs : List Char) : Bool :=
  match fixed? 4 (cs.take 4), (cs.drop 4).take 1, fixed? 2 ((cs.drop 5).take 2), (cs.drop 7).take 1,
    fixed? 2 (cs.drop 8) with
  | some year, ['-'], some month, ['-'], some day =>
    1 ≤ month && month ≤ 12 && 1 ≤ day && day ≤ daysOf year month
  | _, _, _, _, _ => false

/-- Whether the text is a time of day, perhaps with a fraction of a second. -/
def isTime (cs : List Char) : Bool :=
  let (clock, fraction) := cutAt (· = '.') cs
  match fixed? 2 (clock.take 2), (clock.drop 2).take 1, fixed? 2 ((clock.drop 3).take 2), (clock.drop 5).take 1,
    fixed? 2 (clock.drop 6) with
  | some hour, [':'], some minute, [':'], some second =>
    hour ≤ 23 && minute ≤ 59 && second ≤ 60 && fraction.all fun digits => !digits.isEmpty && digits.all Char.isDigit
  | _, _, _, _, _ => false

/-- Whether the text is the distance of a time zone. -/
def isOffset (cs : List Char) : Bool :=
  match fixed? 2 (cs.take 2), (cs.drop 2).take 1, fixed? 2 (cs.drop 3) with
  | some hour, [':'], some minute => hour ≤ 23 && minute ≤ 59
  | _, _, _ => false

/-- Whether the text is a time of day, perhaps with a time zone. -/
def isZonedTime (cs : List Char) : Bool :=
  match cs.reverse with
  | z :: clock =>
    if z = 'Z' || z = 'z' then isTime clock.reverse
    else
      match cutAt (fun c => c = '+' || c = '-') cs with
      | (clock, some offset) => isTime clock && isOffset offset
      | (clock, none) => isTime clock
  | [] => false

/-- Whether the text is a day, a time of day or both. -/
def isMoment (cs : List Char) : Bool :=
  if cs.length ≤ 10 then isDate cs || isTime cs
  else
    isTime cs || (isDate (cs.take 10) && ((cs.drop 10).head?.any fun c => c = 'T' || c = 't' || c = ' ')
      && isZonedTime (cs.drop 11))

/-! ## Any of them -/

/-- A character of a value without quotes. -/
def isScalarPart (c : Char) : Bool :=
  c.isAlphanum || c = '_' || c = '+' || c = '-' || c = '.' || c = ':'

/-- The value that a whole text writes. -/
def scalarOf? (cs : List Char) : Option Scalar :=
  if cs = "true".toList then some (.boolean true)
  else if cs = "false".toList then some (.boolean false)
  else if isMoment cs then some .moment
  else if isReal cs then some .real
  else whole? cs

/-- How many characters belong to the value: a day and a time may have a blank between them. -/
def scalarLength (cs : List Char) : Nat :=
  let first := (cs.takeWhile isScalarPart).length
  match cs.drop first with
  | ' ' :: rest =>
    if isDate (cs.take first) && rest.head?.any Char.isDigit then first + 1 + (rest.takeWhile isScalarPart).length
    else first
  | _ => first

/-- Reads a value without quotes or parts. -/
def scalar (cs : List Char) : Option (Scalar × List Char) :=
  let length := scalarLength cs
  (scalarOf? (cs.take length)).map fun value => (value, cs.drop length)

end SceneAudit.Toml
