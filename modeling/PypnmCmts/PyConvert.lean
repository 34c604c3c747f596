import PypnmCmts.PyText

/-! Conversions of Python's built-in types that the decoders of the SNMP tables use: `int` of a
text, `bytes.fromhex`, `re.findall` of digits and the decoding of UTF-8 with replacement. Digits
are the ASCII ones, and a text with more than the 4300 of them that `int` converts is not treated
apart. -/
namespace PyConvert

def digitValue (c : Char) : Option ℕ :=
  if '0' ≤ c ∧ c ≤ '9' then some (c.toNat - '0'.toNat)
  else if 'a' ≤ c ∧ c ≤ 'z' then some (c.toNat - 'a'.toNat+10)
  else if 'A' ≤ c ∧ c ≤ 'Z' then some (c.toNat - 'A'.toNat+10)
  else none

def digitOf (base : ℕ) (c : Char) : Option ℕ := (digitValue c).filter fun d => d < base

/-- Digits, with single underscores between them. -/
def parseDigits (base : ℕ) : List Char → ℕ → Bool → Option ℕ
  | [], value, afterDigit => if afterDigit then some value else none
  | c :: cs, value, afterDigit =>
    if c = '_' then if afterDigit then parseDigits base cs value false else none
    else match digitOf base c with
      | none => none
      | some digit => parseDigits base cs (value*base+digit) true

def signed (parse : List Char → Option ℕ) : List Char → Option ℤ
  | '+' :: cs => (parse cs).map fun n => (n : ℤ)
  | '-' :: cs => (parse cs).map fun n => -(n : ℤ)
  | cs => (parse cs).map fun n => (n : ℤ)

/-- `int(text)`. -/
def parseInt (text : String) : Option ℤ :=
  signed (fun cs => parseDigits 10 cs 0 false) (PyText.strip text).toList

/-- The digits of `int(text, 0)`: a prefix names the base, and a decimal number other than zero
does not begin with a zero. -/
def parsePrefixed : List Char → Option ℕ
  | '0' :: p :: cs =>
    let digits (base : ℕ) := if cs = [] then none else parseDigits base cs 0 true
    if p = 'x' ∨ p = 'X' then digits 16
    else if p = 'o' ∨ p = 'O' then digits 8
    else if p = 'b' ∨ p = 'B' then digits 2
    else (parseDigits 10 ('0' :: p :: cs) 0 false).filter fun n => n = 0
  | cs => parseDigits 10 cs 0 false

/-- `int(text, 0)`. -/
def parseIntBase0 (text : String) : Option ℤ := signed parsePrefixed (PyText.strip text).toList

/-- The spaces that the parsers of numbers and of octets skip. -/
def isAsciiSpace (c : Char) : Bool := c = ' ' || (9 ≤ c.toNat && c.toNat ≤ 13)

/-- `bytes.fromhex(text)`: two digits an octet, with spaces between the octets at will. -/
def fromHex : List Char → Option (List ℕ)
  | [] => some []
  | [c] => if isAsciiSpace c then some [] else none
  | c :: d :: cs =>
    if isAsciiSpace c then fromHex (d :: cs)
    else match digitOf 16 c, digitOf 16 d with
      | some high, some low => (fromHex cs).map fun octets => (high*16+low) :: octets
      | _, _ => none

/-- `re.findall(r"\d+", text)` as numbers. The number in the making is passed along. -/
def findNumbers : List Char → Option ℕ → List ℕ
  | [], pending => pending.toList
  | c :: cs, pending =>
    match digitOf 10 c with
    | some digit => findNumbers cs (some (pending.getD 0*10+digit))
    | none => pending.toList ++ findNumbers cs none

def replacementChar : Char := Char.ofNat 0xFFFD

/-- The octets of a sequence that may follow its first octet: how many, the bounds of the first
of them, and the bits that the first octet brings. -/
def utf8Lead (octet : ℕ) : Option (ℕ × ℕ × ℕ × ℕ) :=
  if octet < 0x80 then some (0, 0x80, 0xBF, octet)
  else if octet < 0xC2 then none
  else if octet < 0xE0 then some (1, 0x80, 0xBF, octet-0xC0)
  else if octet = 0xE0 then some (2, 0xA0, 0xBF, 0)
  else if octet = 0xED then some (2, 0x80, 0x9F, 0xD)
  else if octet < 0xF0 then some (2, 0x80, 0xBF, octet-0xE0)
  else if octet = 0xF0 then some (3, 0x90, 0xBF, 0)
  else if octet < 0xF4 then some (3, 0x80, 0xBF, octet-0xF0)
  else if octet = 0xF4 then some (3, 0x80, 0x8F, 4)
  else none

/-- The continuation of a sequence: the code point, or the octet at which it breaks off. -/
def utf8Tail : ℕ → ℕ → ℕ → ℕ → List ℕ → Char × List ℕ
  | 0, _, _, code, rest => (Char.ofNat code, rest)
  | _+1, _, _, _, [] => (replacementChar, [])
  | more+1, low, high, code, octet :: rest =>
    if low ≤ octet ∧ octet ≤ high then utf8Tail more 0x80 0xBF (code*64+(octet-0x80)) rest
    else (replacementChar, octet :: rest)

/-- The first character of a text of octets, and the octets behind it. -/
def utf8Step (octet : ℕ) (rest : List ℕ) : Char × List ℕ :=
  match utf8Lead octet with
  | none => (replacementChar, rest)
  | some (more, low, high, code) => utf8Tail more low high code rest

/-- Each step takes an octet at least, so the number of octets bounds the number of steps. -/
def decodeSteps : ℕ → List ℕ → List Char
  | 0, _ => []
  | _+1, [] => []
  | n+1, octet :: rest =>
    let step := utf8Step octet rest
    step.1 :: decodeSteps n step.2

/-- `bytes(octets).decode("utf-8", errors="replace")`. -/
def decodeUtf8 (octets : List ℕ) : String := String.ofList (decodeSteps octets.length octets)

example : decodeUtf8 [0x4E, 0xC3, 0xB6, 0xFF, 0xE2, 0x82] = "Nö\uFFFD\uFFFD" := by decide +kernel

example : (parseInt " -1_024 ", parseIntBase0 "0x1f", parseIntBase0 "010") =
    (some (-1024), some 31, none) := by decide +kernel

end PyConvert
