import EventaApi.Source.CalendarFile

/-!
# CSV export

Every table is written by one function. A text a spreadsheet would run as a formula has an
apostrophe put before it and is quoted; a number never is.
-/
namespace EventaApi.Source

/-! ## Numbers -/

/-- A finite number: so many units, the first digit of which stands `point` places before the
decimal point. -/
structure FiniteNumber where
  negative : Bool := false
  significand : Nat
  point : Int
  deriving DecidableEq, Repr

/-- `String` of a number that is not negative, as `Number::toString` places its digits. -/
def unsignedText (significand : Nat) (point : Int) : List Char :=
  let digits := Nat.toDigits 10 significand
  let exponent := 'e' :: (if point < 1 then '-' else '+') :: Nat.toDigits 10 (point - 1).natAbs
  if significand = 0 then ['0']
  else if digits.length ≤ point ∧ point ≤ 21 then
    digits ++ List.replicate (point.toNat - digits.length) '0'
  else if 0 < point ∧ point ≤ 21 then
    digits.take point.toNat ++ '.' :: digits.drop point.toNat
  else if -6 < point ∧ point ≤ 0 then '0' :: '.' :: List.replicate point.natAbs '0' ++ digits
  else if digits.length = 1 then digits ++ exponent
  else digits.take 1 ++ '.' :: digits.drop 1 ++ exponent

/-- `String(value)`. A negative zero has no sign. -/
def numberText (value : FiniteNumber) : List Char :=
  if value.negative ∧ value.significand ≠ 0 then '-' :: unsignedText value.significand value.point
  else unsignedText value.significand value.point

example : numberText { negative := true, significand := 7, point := 3 } = ['-', '7', '0', '0'] ∧
    numberText { significand := 15, point := 1 } = ['1', '.', '5'] ∧
    numberText { significand := 1, point := -6 } = ['1', 'e', '-', '7'] := by decide +kernel

/-! ## Cells -/

inductive CsvValue where
  | text (value : String)
  | number (value : FiniteNumber)
  | null
  | undefined
  deriving DecidableEq, Repr

def UTF8_BOM : Char := Char.ofNat 0xFEFF

/-- Characters a spreadsheet treats as the start of a formula. -/
def FORMULA_LEADS : List Char := ['=', '+', '-', '@', '\t', '\r']

def APOSTROPHE : Char := Char.ofNat 0x27

def NEEDS_QUOTING : List Char := ['"', ',', '\n', '\r']

def cell : CsvValue → List Char
  | .null | .undefined => []
  | .number value => numberText value
  | .text value =>
    let neutralised := FORMULA_LEADS.any fun lead => [lead].isPrefixOf value.toList
    let safe := if neutralised then APOSTROPHE :: value.toList else value.toList
    if neutralised || safe.any NEEDS_QUOTING.contains then
      '"' :: replaceAll '"' ['"', '"'] safe ++ ['"']
    else safe

/-- Rows as RFC 4180 has them, behind a byte-order mark. -/
def toCsv (header : List String) (rows : List (List CsvValue)) : String :=
  let lines := [','].intercalate (header.map fun name => cell (.text name)) ::
    rows.map fun row => [','].intercalate (row.map cell)
  String.ofList (UTF8_BOM :: ['\n'].intercalate lines ++ ['\n'])

end EventaApi.Source
