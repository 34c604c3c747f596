import Mathlib.Algebra.Order.Round
import Mathlib.Data.Int.Log
import Mathlib.Data.Rat.Floor
import PypnmCmts.PyConvert

/-! Python's numbers: floats as the doubles they are, and what `int` and `float` make of a text. -/
namespace PyNumber

/-- The code points of a `str`, which may be lone surrogates. -/
abbrev PyStr := List ℕ

def codePoints (s : String) : PyStr := s.toList.map Char.toNat

inductive PyFloat
  | finite (value : ℚ)
  | posInf
  | negInf
  | nan
deriving DecidableEq

namespace PyFloat

def neg : PyFloat → PyFloat
  | finite value => finite (-value)
  | posInf => negInf
  | negInf => posInf
  | nan => nan

/-- `x <= now`, which no comparison with a NaN is. -/
def leRat : PyFloat → ℚ → Bool
  | finite value, now => value ≤ now
  | posInf, _ => false
  | negInf, _ => true
  | nan, _ => false

/-- Every time but NaN and the infinite one passes in the end. -/
theorem leRat_in_the_end (x : PyFloat) (hnan : x ≠ nan) (hinf : x ≠ posInf) :
    ∃ time : ℚ, ∀ now, time ≤ now → x.leRat now = true := by
  cases x with
  | finite value => exact ⟨value, fun now h => decide_eq_true h⟩
  | posInf => exact absurd rfl hinf
  | negInf => exact ⟨0, fun now _ => rfl⟩
  | nan => exact absurd rfl hnan

/-- `x - now`. -/
def subRat : PyFloat → ℚ → PyFloat
  | finite value, now => finite (value-now)
  | x, _ => x

/-- `x < 0`. -/
def isNegative : PyFloat → Bool
  | finite value => value < 0
  | negInf => true
  | _ => false

/-- The nearest integer, the even one of two. -/
def roundHalfEven (x : ℚ) : ℤ :=
  let low := ⌊x⌋
  if x-low < 1/2 then low
  else if 1/2 < x-low then low+1
  else if low%2 = 0 then low else low+1

/-- The exponent of the last place of a double around `x`. -/
def lastPlace (x : ℚ) : ℤ := max (Int.log 2 |x| - 52) (-1074)

/-- The nearest double, an infinity beyond the largest. -/
def ofRat (x : ℚ) : PyFloat :=
  let unit : ℚ := 2^lastPlace x
  let value := roundHalfEven (x/unit)*unit
  if 2^1024 ≤ value then posInf
  else if value ≤ -2^1024 then negInf
  else finite value

/-- `float(n)`, `none` where it raises an `OverflowError`. -/
def ofInt (n : ℤ) : Option PyFloat :=
  match ofRat n with
  | finite value => some (finite value)
  | _ => none

end PyFloat

def isDigit (c : Char) : Bool := '0' ≤ c ∧ c ≤ '9'

/-- The digit zero of each script. The other nine follow it. -/
def decimalZeros : List ℕ :=
  [0x30, 0x660, 0x6F0, 0x7C0, 0x966, 0x9E6, 0xA66, 0xAE6, 0xB66, 0xBE6, 0xC66, 0xCE6, 0xD66,
   0xDE6, 0xE50, 0xED0, 0xF20, 0x1040, 0x1090, 0x17E0, 0x1810, 0x1946, 0x19D0, 0x1A80, 0x1A90,
   0x1B50, 0x1BB0, 0x1C40, 0x1C50, 0xA620, 0xA8D0, 0xA900, 0xA9D0, 0xA9F0, 0xAA50, 0xABF0, 0xFF10,
   0x104A0, 0x10D30, 0x11066, 0x110F0, 0x11136, 0x111D0, 0x112F0, 0x11450, 0x114D0, 0x11650,
   0x116C0, 0x11730, 0x118E0, 0x11950, 0x11C50, 0x11D50, 0x11DA0, 0x16A60, 0x16AC0, 0x16B50,
   0x1D7CE, 0x1D7D8, 0x1D7E2, 0x1D7EC, 0x1D7F6, 0x1E140, 0x1E2F0, 0x1E950, 0x1FBF0]

/-- The text that is read as a number: other scripts' digits and spaces become ASCII ones, and
what is left is no part of any number. -/
def asciiOf (c : ℕ) : Char :=
  if c < 127 then Char.ofNat c
  else if PyText.isSpace (Char.ofNat c) then ' '
  else match decimalZeros.find? fun base => base ≤ c ∧ c < base+10 with
    | some base => Char.ofNat (c-base + '0'.toNat)
    | none => '?'

def numberText (s : PyStr) : List Char :=
  ((s.map asciiOf).dropWhile PyConvert.isAsciiSpace).rdropWhile PyConvert.isAsciiSpace

/-- `int(s)`, where at most `maxDigits` digits are converted and zero stands for no limit. -/
def intOfText (maxDigits : ℕ) (s : PyStr) : Option ℤ :=
  let text := numberText s
  if maxDigits ≠ 0 ∧ maxDigits < (text.filter isDigit).length then none
  else PyConvert.signed (fun cs => PyConvert.parseDigits 10 cs 0 false) text

/-- The value of a decimal number: its digits, and the power of ten of the last of them. -/
def decimalValue (digits : List Char) (exponent : ℤ) : ℚ :=
  (digits.foldl (fun n c => 10*n+(c.toNat - '0'.toNat)) 0 : ℕ)*(10 : ℚ)^exponent

/-- The exponent that a number may end with. -/
def scanExponent (cs : List Char) : ℤ × List Char :=
  match cs with
  | [] => (0, [])
  | e :: rest =>
    if e = 'e' ∨ e = 'E' then
      let (negative, digits) := match rest with
        | '-' :: digits => (true, digits)
        | '+' :: digits => (false, digits)
        | digits => (false, digits)
      let exponent := digits.takeWhile isDigit
      -- without digits there is no exponent, and the letter is left over
      if exponent = [] then (0, cs)
      else
        let value := (decimalValue exponent 0).num
        (if negative then -value else value, digits.dropWhile isDigit)
    else (0, cs)

/-- A number without a sign, up to the end of the text. -/
def unsignedFloat (cs : List Char) : Option PyFloat :=
  let lower := cs.map Char.toLower
  if lower = "nan".toList then some .nan
  else if lower = "inf".toList ∨ lower = "infinity".toList then some .posInf
  else
    let whole := cs.takeWhile isDigit
    let (fraction, rest) := match cs.dropWhile isDigit with
      | '.' :: rest => (rest.takeWhile isDigit, rest.dropWhile isDigit)
      | rest => ([], rest)
    let (exponent, rest) := scanExponent rest
    if (whole = [] ∧ fraction = []) ∨ rest ≠ [] then none
    else some (.ofRat (decimalValue (whole ++ fraction) (exponent-fraction.length)))

/-- Single underscores may stand between digits. -/
def dropUnderscores (afterDigit : Bool) : List Char → Option (List Char)
  | [] => some []
  | c :: cs =>
    if c = '_' then
      if afterDigit ∧ (cs.head?.any isDigit) then dropUnderscores false cs else none
    else (dropUnderscores (isDigit c) cs).map (c :: ·)

/-- `float(s)`. -/
def floatOfText (s : PyStr) : Option PyFloat :=
  (dropUnderscores false (numberText s)).bind fun
    | '-' :: cs => (unsignedFloat cs).map PyFloat.neg
    | '+' :: cs => unsignedFloat cs
    | cs => unsignedFloat cs

example : floatOfText (codePoints " -1_2.5e-1 ") = some (.finite (-5/4)) := by decide +kernel

end PyNumber
