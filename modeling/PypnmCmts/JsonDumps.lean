import PypnmCmts.PyJson

/-! Python's `json.dumps`, and that `json.loads` makes the same value of its text again. -/
namespace PyJson
open PyNumber

/-- How a text is laid out, and `float.__repr__`. -/
structure JsonStyle where
  indent : Option ℕ
  floatRepr : ℚ → PyStr

def hexChar (d : ℕ) : ℕ := if d < 10 then '0'.toNat+d else 'a'.toNat+(d-10)

/-- A UTF-16 unit as an escape. -/
def unitText (unit : ℕ) : PyStr :=
  ['\\'.toNat, 'u'.toNat, hexChar (unit/0x1000), hexChar (unit/0x100%0x10),
    hexChar (unit/0x10%0x10),
    hexChar (unit%0x10)]

/-- The UTF-16 units of a character. A lone surrogate is one of its own. -/
def utf16 (c : ℕ) : List ℕ :=
  if c < 0x10000 then [c] else [0xD800+(c-0x10000)/0x400, 0xDC00+(c-0x10000)%0x400]

def escapeChar (c : ℕ) : PyStr :=
  if c = '"'.toNat then ['\\'.toNat, '"'.toNat]
  else if c = '\\'.toNat then ['\\'.toNat, '\\'.toNat]
  else if c = 10 then ['\\'.toNat, 'n'.toNat]
  else if c = 13 then ['\\'.toNat, 'r'.toNat]
  else if c = 9 then ['\\'.toNat, 't'.toNat]
  else if c = 12 then ['\\'.toNat, 'f'.toNat]
  else if c = 8 then ['\\'.toNat, 'b'.toNat]
  else if 0x20 ≤ c ∧ c ≤ 0x7E then [c]
  else (utf16 c).flatMap unitText

/-- `py_encode_basestring_ascii`. -/
def quoted (s : PyStr) : PyStr := '"'.toNat :: (s.flatMap escapeChar ++ ['"'.toNat])

/-- `int.__repr__`. -/
def intText (n : ℤ) : PyStr :=
  (if n < 0 then ['-'.toNat] else []) ++ (Nat.toDigits 10 n.natAbs).map Char.toNat

namespace JsonStyle
variable (style : JsonStyle)

def newline (level : ℕ) : PyStr :=
  match style.indent with
  | none => []
  | some width => 10 :: List.replicate (width*level) 0x20

/-- With an indent the separator has no blank of its own. -/
def separator (level : ℕ) : PyStr :=
  match style.indent with
  | none => [','.toNat, 0x20]
  | some _ => ','.toNat :: style.newline level

def floatText : PyFloat → PyStr
  | .finite x => style.floatRepr x
  | .nan => codePoints "NaN"
  | .posInf => codePoints "Infinity"
  | .negInf => codePoints "-Infinity"

mutual

/-- A value that begins on a line of the given level. -/
def dumpsAt (level : ℕ) : Json → PyStr
  | .null => codePoints "null"
  | .bool b => codePoints (if b then "true" else "false")
  | .int n => intText n
  | .float x => style.floatText x
  | .str s => quoted s
  | .array items =>
    if items.isEmpty then codePoints "[]"
    else '['.toNat :: (dumpsItems (level+1) (style.newline (level+1)) items ++
      style.newline level ++ [']'.toNat])
  | .object members =>
    if members.isEmpty then codePoints "\x7b\x7d"
    else '{'.toNat :: (dumpsMembers (level+1) (style.newline (level+1)) members ++
      style.newline level ++ ['}'.toNat])

def dumpsItems (level : ℕ) (before : PyStr) : List Json → PyStr
  | [] => []
  | item :: items =>
    before ++ dumpsAt level item ++ dumpsItems level (style.separator level) items

def dumpsMembers (level : ℕ) (before : PyStr) : List (PyStr × Json) → PyStr
  | [] => []
  | (key, value) :: members =>
    before ++ quoted key ++ [':'.toNat, 0x20] ++ dumpsAt level value ++
      dumpsMembers level (style.separator level) members

end

/-- The text that `json.dumps` makes of a value where it returns. -/
def dumpsText (value : Json) : PyStr := style.dumpsAt 0 value

end JsonStyle

mutual

/-- How many calls stand in each other while `json.dumps` writes a value with an indent: a generator
for each array and each object, and a function for the text of a float. -/
def callsOf : Json → ℕ
  | .null => 0
  | .bool _ => 0
  | .int _ => 0
  | .float _ => 1
  | .str _ => 0
  | .array items => callsOfItems items+1
  | .object members => callsOfMembers members+1

def callsOfItems : List Json → ℕ
  | [] => 0
  | item :: items => max (callsOf item) (callsOfItems items)

def callsOfMembers : List (PyStr × Json) → ℕ
  | [] => 0
  | (_, value) :: members => max (callsOf value) (callsOfMembers members)

end

/-- `json.dumps(value, indent=indent)` with so many calls left, for a value whose integers are of no
more digits than the interpreter converts. -/
def JsonStyle.dumps (style : JsonStyle) (callsLeft : ℕ) (value : Json) : Except Raised PyStr :=
  if callsLeft < callsOf value then .error .recursion
  else .ok (style.dumpsText value)

example : JsonStyle.dumps ⟨some 2, fun _ => []⟩ 2
    (.object [([97], .array [.int (-1), .str [233, 0x1F600]]), ([], .array [])]) =
    .ok (codePoints
      "\x7b\n  \"a\": [\n    -1,\n    \"\\u00e9\\ud83d\\ude00\"\n  ],\n  \"\": []\n\x7d") := by
  decide +kernel

/-- A list in a list takes two calls. -/
example (style : JsonStyle) : style.dumps 1 (.array [.array []]) = .error .recursion := rfl

def isLow (d : ℕ) : Bool := 0xDC00 ≤ d ∧ d ≤ 0xDFFF

/-- A `str` as Python has it, where no two surrogates stand like the halves of a pair. -/
def Text : PyStr → Prop
  | [] => True
  | c :: s => c ≤ 0x10FFFF ∧
      ¬((0xD800 ≤ c ∧ c ≤ 0xDBFF) ∧ s.head?.any isLow = true) ∧ Text s

/-- No character is a surrogate. -/
theorem text_codePoints (s : String) : Text (codePoints s) := by
  rw [codePoints]
  induction s.toList with
  | nil => trivial
  | cons c cs ih =>
    have hvalid : c.toNat < 0xD800 ∨ (0xDFFF < c.toNat ∧ c.toNat < 0x110000) := c.valid
    refine ⟨by omega, ?_, ih⟩
    intro h
    have hhigh := h.1
    omega

section Strings

theorem hexDigit_hexChar {d : ℕ} (h : d < 16) : hexDigit (hexChar d) = some d := by
  revert d
  decide

theorem hexUnit_hexChar {unit : ℕ} (h : unit < 0x10000) :
    hexUnit (hexChar (unit/0x1000)) (hexChar (unit/0x100%0x10)) (hexChar (unit/0x10%0x10))
      (hexChar (unit%0x10)) = some unit := by
  have ha := hexDigit_hexChar (show unit/0x1000 < 16 by omega)
  have hb := hexDigit_hexChar (show unit/0x100%0x10 < 16 by omega)
  have hc := hexDigit_hexChar (show unit/0x10%0x10 < 16 by omega)
  have hd := hexDigit_hexChar (show unit%0x10 < 16 by omega)
  have hvalue : ((unit/0x1000*16+unit/0x100%0x10)*16+unit/0x10%0x10)*16+unit%0x10 = unit := by
    omega
  simp only [hexUnit, ha, hb, hc, hd, Option.bind_eq_bind, Option.bind_some, Option.pure_def,
    hvalue]

/-- The scanner with some units in front of what it finds. -/
def inFront (units : List ℕ) (found : Option (PyStr × PyStr)) : Option (PyStr × PyStr) :=
  found.map fun p => (units ++ p.1, p.2)

theorem scanUnits_unitText {unit : ℕ} (h : unit < 0x10000) (rest : PyStr) :
    scanUnits (unitText unit ++ rest) = inFront [unit] (scanUnits rest) := by
  have hunit := hexUnit_hexChar h
  cases hrest : scanUnits rest with
  | none => simp [unitText, scanUnits, hunit, hrest, inFront]
  | some found => simp [unitText, scanUnits, hunit, hrest, inFront]

theorem scanUnits_utf16 {c : ℕ} (h : c ≤ 0x10FFFF) (rest : PyStr) :
    scanUnits ((utf16 c).flatMap unitText ++ rest) = inFront (utf16 c) (scanUnits rest) := by
  rw [utf16]
  split
  · next hlow =>
    simpa using scanUnits_unitText hlow rest
  · have hhigh := scanUnits_unitText (show 0xD800+(c-0x10000)/0x400 < 0x10000 by omega)
      (unitText (0xDC00+(c-0x10000)%0x400) ++ rest)
    have hlow := scanUnits_unitText (show 0xDC00+(c-0x10000)%0x400 < 0x10000 by omega) rest
    rw [hlow] at hhigh
    simp only [List.flatMap_cons, List.flatMap_nil, List.append_nil, List.append_assoc, hhigh]
    cases scanUnits rest <;> rfl

theorem scanUnits_plain {c : ℕ} (hquote : c ≠ '"'.toNat) (hback : c ≠ '\\'.toNat)
    (hcontrol : ¬c ≤ 0x1F) (rest : PyStr) :
      scanUnits (c :: rest) = inFront [c] (scanUnits rest) := by
  rw [scanUnits.eq_def]
  simp only [if_neg hquote, if_neg hback, if_neg hcontrol]
  cases scanUnits rest <;> rfl

theorem scanUnits_backslash {e unit : ℕ} (hu : e ≠ 'u'.toNat) (he : escaped e = some unit)
    (rest : PyStr) : scanUnits ('\\'.toNat :: e :: rest) = inFront [unit] (scanUnits rest) := by
  have hquote : '\\'.toNat ≠ '"'.toNat := by decide
  rw [scanUnits.eq_def]
  simp only [if_neg hquote, if_true, if_neg hu, he]
  cases scanUnits rest <;> rfl

theorem scanUnits_escapeChar {c : ℕ} (h : c ≤ 0x10FFFF) (rest : PyStr) :
    scanUnits (escapeChar c ++ rest) = inFront (utf16 c) (scanUnits rest) := by
  have hshort (e : ℕ) (hu : e ≠ 'u'.toNat) (he : escaped e = some c) (hc : c < 0x10000) :
      scanUnits (['\\'.toNat, e] ++ rest) = inFront (utf16 c) (scanUnits rest) := by
    have hutf : utf16 c = [c] := if_pos hc
    rw [hutf]
    exact scanUnits_backslash hu he rest
  rw [escapeChar]
  split_ifs with hquote hback hnewline hreturn htab hfeed hbell hplain
  · exact hshort _ (by decide) (by rw [hquote]; rfl) (by rw [hquote]; decide)
  · exact hshort _ (by decide) (by rw [hback]; rfl) (by rw [hback]; decide)
  · exact hshort _ (by decide) (by rw [hnewline]; rfl) (by omega)
  · exact hshort _ (by decide) (by rw [hreturn]; rfl) (by omega)
  · exact hshort _ (by decide) (by rw [htab]; rfl) (by omega)
  · exact hshort _ (by decide) (by rw [hfeed]; rfl) (by omega)
  · exact hshort _ (by decide) (by rw [hbell]; rfl) (by omega)
  · have hutf : utf16 c = [c] := if_pos (by omega)
    have hcontrol : ¬c ≤ 0x1F := by omega
    rw [hutf]
    exact scanUnits_plain hquote hback hcontrol rest
  · exact scanUnits_utf16 h rest

theorem scanUnits_escape {s : PyStr} (h : Text s) (rest : PyStr) :
    scanUnits (s.flatMap escapeChar ++ '"'.toNat :: rest) = some (s.flatMap utf16, rest) := by
  induction s with
  | nil =>
    rw [List.flatMap_nil, List.nil_append, scanUnits.eq_def]
    simp only [if_true]
    rfl
  | cons c s ih =>
    rw [List.flatMap_cons, List.append_assoc, scanUnits_escapeChar h.1, ih h.2.2]
    rfl

/-- A half of a pair is the first unit of a character only where it is the character. -/
theorem head_utf16 {s : PyStr} (hs : Text s) :
    (s.flatMap utf16).head?.any isLow = s.head?.any isLow := by
  cases s with
  | nil => rfl
  | cons c s =>
    have hc : c ≤ 0x10FFFF := hs.1
    rw [List.flatMap_cons, utf16]
    split
    · rfl
    · have hhigh : isLow (0xD800+(c-0x10000)/0x400) = false := by
        rw [isLow, decide_eq_false_iff_not]
        omega
      have hlow : isLow c = false := by
        rw [isLow, decide_eq_false_iff_not]
        omega
      rw [List.cons_append, List.head?_cons, List.head?_cons, Option.any_some, Option.any_some,
        hhigh, hlow]

theorem joinSurrogates_cons {c : ℕ} {units : List ℕ}
    (h : ¬((0xD800 ≤ c ∧ c ≤ 0xDBFF) ∧ units.head?.any isLow = true)) :
    joinSurrogates (c :: units) = c :: joinSurrogates units := by
  cases units with
  | nil => rfl
  | cons d units =>
    rw [joinSurrogates, if_neg]
    intro hpair
    exact h ⟨hpair.1, by simpa [isLow] using hpair.2⟩

theorem joinSurrogates_utf16 {s : PyStr} (h : Text s) : joinSurrogates (s.flatMap utf16) = s := by
  induction s with
  | nil => rfl
  | cons c s ih =>
    obtain ⟨hc, hpair, hs⟩ := h
    rw [List.flatMap_cons, utf16]
    split
    · rw [List.singleton_append, joinSurrogates_cons, ih hs]
      rw [head_utf16 hs]
      exact hpair
    · next hhigh =>
      have hvalue : 0x10000+(0xD800+(c-0x10000)/0x400-0xD800)*0x400+
          (0xDC00+(c-0x10000)%0x400-0xDC00) = c := by omega
      rw [List.cons_append, List.cons_append, List.nil_append, joinSurrogates, if_pos (by omega),
        hvalue, ih hs]

theorem scanString_quoted {s : PyStr} (h : Text s) (rest : PyStr) :
    scanString (s.flatMap escapeChar ++ '"'.toNat :: rest) = .ok (s, rest) := by
  rw [scanString, scanUnits_escape h]
  simp only [joinSurrogates_utf16 h]

end Strings

/-- What may stand behind a value. -/
def Ends (rest : PyStr) : Prop :=
  ∀ c ∈ rest.head?, c = ','.toNat ∨ c = ']'.toNat ∨ c = '}'.toNat ∨ isSpace c = true

def Digits (text : PyStr) : Prop := text ≠ [] ∧ ∀ c ∈ text, isDigit c = true

/-- The digits of a number before the point. -/
def Whole (text : PyStr) : Prop :=
  text = ['0'.toNat] ∨ (Digits text ∧ ∀ c ∈ text.head?, c ≠ '0'.toNat)

/-- A text such as `float.__repr__` writes: with a point or an exponent, and the value behind it. -/
def FloatText (text : PyStr) (x : ℚ) : Prop :=
  (∃ sign whole fraction exponent, text = sign ++ whole ++ fraction ++ exponent ∧
    (sign = [] ∨ sign = ['-'.toNat]) ∧ Whole whole ∧
    (fraction = [] ∨ ∃ digits, Digits digits ∧ fraction = '.'.toNat :: digits) ∧
    (exponent = [] ∨ ∃ s digits, (s = '+'.toNat ∨ s = '-'.toNat) ∧ Digits digits ∧
      exponent = 'e'.toNat :: s :: digits) ∧
    ¬(fraction = [] ∧ exponent = [])) ∧
  floatOfText text = some (.finite x)

section Numbers

/-- No digit comes next. -/
def Stops (rest : PyStr) : Prop := ∀ c ∈ rest.head?, isDigit c = false

theorem takeWhile_digits {digits rest : PyStr} (h : ∀ c ∈ digits, isDigit c = true)
    (hrest : Stops rest) :
    (digits ++ rest).takeWhile isDigit = digits ∧ (digits ++ rest).dropWhile isDigit = rest := by
  have htake : rest.takeWhile isDigit = [] ∧ rest.dropWhile isDigit = rest := by
    cases rest with
    | nil => exact ⟨rfl, rfl⟩
    | cons c rest =>
      have hc : isDigit c = false := hrest c rfl
      simp [hc]
  rw [List.takeWhile_append_of_pos h, List.dropWhile_append_of_pos h, htake.1, htake.2,
    List.append_nil]
  exact ⟨rfl, rfl⟩

theorem Ends.not_digit {rest : PyStr} (h : Ends rest) : Stops rest := by
  intro c hc
  rcases h c hc with rfl | rfl | rfl | hspace
  · rfl
  · rfl
  · rfl
  · simp only [isSpace, Bool.or_eq_true, decide_eq_true_eq] at hspace
    rcases hspace with ((rfl | rfl) | rfl) | rfl <;> rfl

theorem Ends.head_ne {rest : PyStr} (h : Ends rest) {c : ℕ} (hc : c ∈ rest.head?) :
    c ≠ '.'.toNat ∧ c ≠ 'e'.toNat ∧ c ≠ 'E'.toNat := by
  rcases h c hc with rfl | rfl | rfl | hspace
  · decide
  · decide
  · decide
  · simp only [isSpace, Bool.or_eq_true, decide_eq_true_eq] at hspace
    rcases hspace with ((rfl | rfl) | rfl) | rfl <;> decide

theorem scanWhole_whole {whole rest : PyStr} (h : Whole whole) (hrest : Stops rest) :
    scanWhole (whole ++ rest) = some (whole, rest) := by
  rcases h with rfl | ⟨⟨hne, hdigits⟩, hzero⟩
  · rfl
  · obtain ⟨htake, hdrop⟩ := takeWhile_digits hdigits hrest
    cases whole with
    | nil => exact absurd rfl hne
    | cons c whole =>
      have hc : c ≠ '0'.toNat := hzero c rfl
      have hdigit : isDigit c = true := hdigits c List.mem_cons_self
      rw [List.cons_append] at htake hdrop ⊢
      rw [scanWhole, if_neg hc, if_pos hdigit, htake, hdrop]

theorem scanDigits_digits {digits rest : PyStr} (h : Digits digits) (hrest : Stops rest)
    (lead : PyStr) : scanDigits lead (digits ++ rest) = (lead ++ digits, rest) := by
  obtain ⟨htake, hdrop⟩ := takeWhile_digits h.2 hrest
  rw [scanDigits, htake, if_neg h.1, hdrop]

theorem scanFraction_none {rest : PyStr} (h : ∀ c ∈ rest.head?, c ≠ '.'.toNat) :
    scanFraction rest = ([], rest) := by
  cases rest with
  | nil => rfl
  | cons c rest =>
    rw [scanFraction, if_neg (h c rfl)]

theorem scanExponent_none {rest : PyStr} (h : ∀ c ∈ rest.head?, c ≠ 'e'.toNat ∧ c ≠ 'E'.toNat) :
    scanExponent rest = ([], rest) := by
  cases rest with
  | nil => rfl
  | cons c rest =>
    obtain ⟨he, hE⟩ := h c rfl
    rw [scanExponent.eq_def]
    simp only [if_neg (not_or_intro he hE)]

/-- The four parts of a number, and where each of them ends. -/
theorem scan_parts {sign whole fraction exponent rest : PyStr}
    (hsign : sign = [] ∨ sign = ['-'.toNat]) (hwhole : Whole whole)
    (hfraction : fraction = [] ∨ ∃ digits, Digits digits ∧ fraction = '.'.toNat :: digits)
    (hexponent : exponent = [] ∨ ∃ s digits, (s = '+'.toNat ∨ s = '-'.toNat) ∧ Digits digits ∧
      exponent = 'e'.toNat :: s :: digits) (hrest : Ends rest) :
    scanSign (sign ++ (whole ++ (fraction ++ (exponent ++ rest)))) =
      (sign, whole ++ (fraction ++ (exponent ++ rest))) ∧
    scanWhole (whole ++ (fraction ++ (exponent ++ rest))) =
      some (whole, fraction ++ (exponent ++ rest)) ∧
    scanFraction (fraction ++ (exponent ++ rest)) = (fraction, exponent ++ rest) ∧
    scanExponent (exponent ++ rest) = (exponent, rest) := by
  have hstop : Stops rest := hrest.not_digit
  have hpoint : ∀ c ∈ (exponent ++ rest).head?, c ≠ '.'.toNat ∧ isDigit c = false := by
    intro c hc
    rcases hexponent with rfl | ⟨s, digits, -, -, rfl⟩
    · exact ⟨(hrest.head_ne hc).1, hstop c hc⟩
    · obtain rfl := Option.some.inj hc
      exact ⟨by decide, rfl⟩
  have hbehind : Stops (fraction ++ (exponent ++ rest)) := by
    intro c hc
    rcases hfraction with rfl | ⟨digits, -, rfl⟩
    · exact (hpoint c hc).2
    · obtain rfl := Option.some.inj hc
      rfl
  refine ⟨?_, scanWhole_whole hwhole hbehind, ?_, ?_⟩
  · rcases hsign with rfl | rfl
    · -- a digit is no sign
      obtain ⟨c, more, rfl, hc⟩ : ∃ c more, whole = c :: more ∧ c ≠ '-'.toNat := by
        rcases hwhole with rfl | ⟨⟨hne, hdigits⟩, -⟩
        · exact ⟨_, _, rfl, by decide⟩
        · cases whole with
          | nil => exact absurd rfl hne
          | cons c more =>
            refine ⟨c, more, rfl, ?_⟩
            rintro rfl
            have hdigit := hdigits '-'.toNat List.mem_cons_self
            revert hdigit
            decide
      rw [List.nil_append, List.cons_append, scanSign, if_neg hc]
    · rfl
  · rcases hfraction with rfl | ⟨digits, hdigits, rfl⟩
    · exact scanFraction_none fun c hc => (hpoint c hc).1
    · rw [List.cons_append, scanFraction, if_pos rfl,
        scanDigits_digits hdigits fun c hc => (hpoint c hc).2]
      rfl
  · rcases hexponent with rfl | ⟨s, digits, hs, hdigits, rfl⟩
    · exact scanExponent_none fun c hc => (hrest.head_ne hc).2
    · rw [List.cons_append, List.cons_append, scanExponent.eq_def]
      simp only [true_or, if_true, if_pos hs]
      rw [scanDigits_digits hdigits hstop]
      rfl

theorem scanNumber_float (limits : Limits) {text rest : PyStr} {x : ℚ} (h : FloatText text x)
    (hrest : Ends rest) : scanNumber limits (text ++ rest) = .ok (.float (.finite x), rest) := by
  obtain ⟨⟨sign, whole, fraction, exponent, rfl, hsign, hwhole, hfraction, hexponent,
      hne⟩, hvalue⟩ := h
  obtain ⟨h1, h2, h3, h4⟩ := scan_parts hsign hwhole hfraction hexponent hrest
  simp only [List.append_assoc] at hvalue ⊢
  simp only [scanNumber, h1, h2, h3, h4, if_neg hne, List.append_assoc, hvalue]

theorem scanNumber_whole (limits : Limits) {sign whole rest : PyStr} {n : ℤ}
    (hsign : sign = [] ∨ sign = ['-'.toNat]) (hwhole : Whole whole) (hrest : Ends rest)
    (hvalue : intOfText limits.maxStrDigits (sign ++ whole) = some n) :
    scanNumber limits (sign ++ whole ++ rest) = .ok (.int n, rest) := by
  obtain ⟨h1, h2, h3, h4⟩ := scan_parts hsign hwhole (Or.inl rfl) (Or.inl rfl) hrest
  simp only [List.nil_append] at h1 h2 h3 h4
  rw [List.append_assoc, scanNumber]
  simp only [h1, h2, h3, h4, and_self, if_true, hvalue]

end Numbers

section Integers

theorem asciiOf_toNat {c : Char} (h : c.toNat < 127) : asciiOf c.toNat = c := by
  rw [asciiOf, if_pos h, Char.ofNat_toNat]

/-- A text without spaces is left as it is. -/
theorem numberText_chars {cs : List Char} (hascii : ∀ c ∈ cs, c.toNat < 127)
    (hspace : ∀ c ∈ cs, PyConvert.isAsciiSpace c = false) :
      numberText (cs.map Char.toNat) = cs := by
  have hmap : (cs.map Char.toNat).map asciiOf = cs := by
    rw [List.map_map]
    exact (List.map_congr_left fun c hc => asciiOf_toNat (hascii c hc)).trans (List.map_id cs)
  have hfront : cs.dropWhile PyConvert.isAsciiSpace = cs := by
    rw [List.dropWhile_eq_self_iff]
    intro hlen
    simp [hspace _ (List.getElem_mem hlen)]
  rw [numberText, hmap, hfront, List.rdropWhile_eq_self_iff]
  intro hne
  simp [hspace _ (List.getLast_mem hne)]

theorem digit_bounds {c : Char} (h : c.isDigit = true) : 48 ≤ c.toNat ∧ c.toNat ≤ 57 := by
  simp only [Char.isDigit, Bool.and_eq_true, decide_eq_true_eq, ge_iff_le] at h
  exact ⟨h.1, h.2⟩

theorem digitOf_digit {c : Char} (h : c.isDigit = true) :
    PyConvert.digitOf 10 c = some (c.toNat - '0'.toNat) := by
  have hb := digit_bounds h
  have hvalue : PyConvert.digitValue c = some (c.toNat - '0'.toNat) := if_pos hb
  rw [PyConvert.digitOf, hvalue, Option.filter_some, if_pos]
  have hzero : '0'.toNat = 48 := rfl
  simp only [decide_eq_true_eq]
  omega

theorem parseDigits_digits {cs : List Char} (h : ∀ c ∈ cs, c.isDigit = true) (value : ℕ)
    (after : Bool) (hne : after = true ∨ cs ≠ []) :
    PyConvert.parseDigits 10 cs value after = some (Nat.ofDigitChars 10 cs value) := by
  induction cs generalizing value after with
  | nil =>
    rw [hne.resolve_right (fun h => h rfl), PyConvert.parseDigits, Nat.ofDigitChars_nil, if_pos rfl]
  | cons c cs ih =>
    have hc := h c List.mem_cons_self
    have hunder : c ≠ '_' := by
      rintro rfl
      revert hc
      decide
    rw [PyConvert.parseDigits, if_neg hunder, digitOf_digit hc, Nat.ofDigitChars_cons,
      Nat.mul_comm 10]
    exact ih (fun d hd => h d (List.mem_cons_of_mem c hd)) _ true (Or.inl rfl)

theorem isDigit_toDigits {n : ℕ} {c : Char} (h : c ∈ Nat.toDigits 10 n) : c.isDigit = true :=
  Nat.isDigit_of_mem_toDigits (by decide) (by decide) h

/-- A positive number does not begin with a zero. -/
theorem head_toDigits {n : ℕ} (h : 0 < n) : ∀ c ∈ (Nat.toDigits 10 n).head?, c ≠ '0' := by
  induction n using Nat.strongRecOn with
  | ind n ih =>
    intro c hc
    rw [Nat.toDigits_eq_if (by decide)] at hc
    split at hc
    · next hlt =>
      obtain rfl := Option.some.inj hc
      have hdigit : ∀ m < 10, 0 < m → Nat.digitChar m ≠ '0' := by decide
      exact hdigit n hlt h
    · have hne : Nat.toDigits 10 (n/10) ≠ [] := Nat.toDigits_ne_nil
      rw [List.head?_append_of_ne_nil _ hne] at hc
      exact ih (n/10) (by omega) (by omega) c hc

theorem whole_toDigits (n : ℕ) : Whole ((Nat.toDigits 10 n).map Char.toNat) := by
  rcases Nat.eq_zero_or_pos n with rfl | hpos
  · exact Or.inl rfl
  · refine Or.inr ⟨⟨?_, ?_⟩, ?_⟩
    · simp
    · intro c hc
      obtain ⟨d, hd, rfl⟩ := List.mem_map.mp hc
      exact decide_eq_true (digit_bounds (isDigit_toDigits hd))
    · intro c hc
      rw [List.head?_map] at hc
      obtain ⟨d, hd, rfl⟩ := Option.map_eq_some_iff.mp hc
      intro heq
      exact head_toDigits hpos d hd (Char.ext (UInt32.toNat_inj.mp heq))

theorem signed_of_digits {cs : List Char} (h : ∀ c ∈ cs, c.isDigit = true)
    (parse : List Char → Option ℕ) :
      PyConvert.signed parse cs = (parse cs).map fun n => (n : ℤ) := by
  have hsign (c : Char) (hc : c ∈ cs) : c ≠ '+' ∧ c ≠ '-' := by
    have hb := digit_bounds (h c hc)
    constructor
    · rintro rfl
      revert hb
      decide
    · rintro rfl
      revert hb
      decide
  cases cs with
  | nil => rfl
  | cons c cs =>
    obtain ⟨hplus, hminus⟩ := hsign c List.mem_cons_self
    rw [PyConvert.signed.eq_def]
    split
    · next heq => exact absurd (List.cons.inj heq).1 hplus
    · next heq => exact absurd (List.cons.inj heq).1 hminus
    · rfl

/-- The interpreter writes and converts as many digits as it is set to. -/
def Convertible (limits : Limits) (n : ℤ) : Prop :=
  limits.maxStrDigits = 0 ∨ (Nat.toDigits 10 n.natAbs).length ≤ limits.maxStrDigits

theorem intOfText_intText {limits : Limits} {n : ℤ} (h : Convertible limits n) :
    intOfText limits.maxStrDigits (intText n) = some n := by
  obtain ⟨digits, hdef⟩ : ∃ digits, digits = Nat.toDigits 10 n.natAbs := ⟨_, rfl⟩
  have hdigit (c : Char) (hc : c ∈ digits) : c.isDigit = true := isDigit_toDigits (hdef ▸ hc)
  have hplain (c : Char) (hc : c ∈ digits) : c.toNat < 127 ∧ PyConvert.isAsciiSpace c = false ∧
      PyNumber.isDigit c = true := by
    have hb := digit_bounds (hdigit c hc)
    refine ⟨by omega, ?_, decide_eq_true hb⟩
    have hblank : c ≠ ' ' := by
      rintro rfl
      revert hb
      decide
    simp only [PyConvert.isAsciiSpace, hblank, decide_false, Bool.false_or, Bool.and_eq_false_iff,
      decide_eq_false_iff_not]
    omega
  have hparse : PyConvert.parseDigits 10 digits 0 false = some n.natAbs := by
    have hne : digits ≠ [] := hdef ▸ Nat.toDigits_ne_nil
    rw [parseDigits_digits hdigit 0 false (Or.inr hne), hdef, Nat.ofDigitChars_ten_toDigits]
  have hcount : digits.filter PyNumber.isDigit = digits :=
    List.filter_eq_self.mpr fun c hc => (hplain c hc).2.2
  rw [Convertible, ← hdef] at h
  rw [intText, ← hdef]
  by_cases hneg : n < 0
  · have htext : numberText (['-'.toNat] ++ digits.map Char.toNat) = '-' :: digits := by
      have hall : ∀ c ∈ '-' :: digits, c.toNat < 127 ∧ PyConvert.isAsciiSpace c = false := by
        intro c hc
        rcases List.mem_cons.mp hc with rfl | hc
        · decide
        · exact ⟨(hplain c hc).1, (hplain c hc).2.1⟩
      exact numberText_chars (fun c hc => (hall c hc).1) fun c hc => (hall c hc).2
    have hfilter : ('-' :: digits).filter PyNumber.isDigit = digits := by
      rw [List.filter_cons_of_neg (by decide), hcount]
    rw [if_pos hneg, intOfText, htext, hfilter, if_neg (by omega)]
    have habs : -(n.natAbs : ℤ) = n := by omega
    rw [PyConvert.signed, hparse]
    exact congrArg some habs
  · have htext : numberText ([] ++ digits.map Char.toNat) = digits :=
      numberText_chars (fun c hc => (hplain c hc).1) fun c hc => (hplain c hc).2.1
    have habs : (n.natAbs : ℤ) = n := by omega
    rw [if_neg hneg, intOfText, htext, hcount, if_neg (by omega), signed_of_digits hdigit, hparse]
    exact congrArg some habs

end Integers

section Values
variable (limits : Limits) (style : JsonStyle)

mutual

/-- A value whose text can be read back, with containers at most so deep. -/
def Writable (depth : ℕ) : Json → Prop
  | .null => True
  | .bool _ => True
  | .int n => Convertible limits n
  | .float (.finite x) => FloatText (style.floatRepr x) x
  | .float _ => True
  | .str s => Text s
  | .array items => 0 < depth ∧ WritableItems (depth-1) items
  | .object members => 0 < depth ∧ WritableMembers (depth-1) members

def WritableItems (depth : ℕ) : List Json → Prop
  | [] => True
  | item :: items => Writable depth item ∧ WritableItems depth items

def WritableMembers (depth : ℕ) : List (PyStr × Json) → Prop
  | [] => True
  | (key, value) :: members => Text key ∧ Writable depth value ∧ WritableMembers depth members

end

variable {limits style}

/-- How a number begins. -/
def Numeric (text : PyStr) : Prop :=
  ∃ c rest, isDigit c = true ∧ (text = c :: rest ∨ text = '-'.toNat :: c :: rest)

theorem Whole.numeric {sign whole : PyStr} (hsign : sign = [] ∨ sign = ['-'.toNat])
    (h : Whole whole) (rest : PyStr) : Numeric (sign ++ (whole ++ rest)) := by
  obtain ⟨c, more, rfl, hc⟩ : ∃ c more, whole = c :: more ∧ isDigit c = true := by
    rcases h with rfl | ⟨⟨hne, hdigits⟩, -⟩
    · exact ⟨_, _, rfl, rfl⟩
    · cases whole with
      | nil => exact absurd rfl hne
      | cons c more => exact ⟨c, more, rfl, hdigits c List.mem_cons_self⟩
  rcases hsign with rfl | rfl
  · exact ⟨c, more ++ rest, hc, Or.inl rfl⟩
  · exact ⟨c, more ++ rest, hc, Or.inr rfl⟩

/-- No constant begins with a digit, and none with a sign and a digit. -/
theorem constant_head {entry : String × Json} (h : entry ∈ constants) :
    ∃ w ws, 57 < w ∧ (codePoints entry.1 = w :: ws ∨
      codePoints entry.1 = '-'.toNat :: w :: ws) := by
  simp only [constants, List.mem_cons, List.not_mem_nil, or_false] at h
  rcases h with rfl | rfl | rfl | rfl | rfl | rfl
  · exact ⟨_, _, by decide, Or.inl rfl⟩
  · exact ⟨_, _, by decide, Or.inl rfl⟩
  · exact ⟨_, _, by decide, Or.inl rfl⟩
  · exact ⟨_, _, by decide, Or.inl rfl⟩
  · exact ⟨_, _, by decide, Or.inl rfl⟩
  · exact ⟨_, _, by decide, Or.inr rfl⟩

theorem scanConstant_numeric {text : PyStr} (h : Numeric text) : scanConstant text = none := by
  obtain ⟨c, rest, hc, htext⟩ := h
  have hb : 48 ≤ c ∧ c ≤ 57 := of_decide_eq_true hc
  rw [scanConstant, List.findSome?_eq_none_iff]
  intro entry hentry
  obtain ⟨w, ws, hw, hword⟩ := constant_head hentry
  have hne : (w == c) = false := beq_false_of_ne (by omega)
  have hsign : ('-'.toNat == c) = false := by
    rw [beq_eq_false_iff_ne]
    rintro rfl
    revert hb
    decide
  have hsign' : (w == '-'.toNat) = false := by
    rw [beq_eq_false_iff_ne]
    rintro rfl
    revert hw
    decide
  have hprefix : (codePoints entry.1).isPrefixOf text = false := by
    rcases htext with rfl | rfl <;> rcases hword with hword | hword <;>
      rw [hword] <;> simp only [List.isPrefixOf_cons_cons, hne, hsign, hsign', Bool.false_and,
        Bool.and_false]
  simp [dropText, hprefix]

theorem scanOnce_numeric {text : PyStr} (h : Numeric text) (calls depth : ℕ) :
    scanOnce limits (calls+1) depth text = scanNumber limits text := by
  have hconstant := scanConstant_numeric h
  obtain ⟨c, rest, hc, htext⟩ := h
  have hb : 48 ≤ c ∧ c ≤ 57 := of_decide_eq_true hc
  obtain ⟨first, more, rfl, hquote, hopen⟩ : ∃ first more, text = first :: more ∧
      first ≠ '"'.toNat ∧ ¬(first = '['.toNat ∨ first = '{'.toNat) := by
    rcases htext with rfl | rfl
    · refine ⟨c, rest, rfl, ?_, ?_⟩
      · rintro rfl
        revert hb
        decide
      · rintro (rfl | rfl) <;> revert hb <;> decide
    · exact ⟨_, _, rfl, by decide, by decide⟩
  rw [scanOnce.eq_def]
  simp only [if_neg hquote, if_neg hopen, hconstant]

theorem scanOnce_constant {word : String} {value : Json} (rest : PyStr) (calls depth : ℕ)
    (h : (word, value) ∈ constants) :
    scanOnce limits (calls+1) depth (codePoints word ++ rest) = .ok (value, rest) := by
  simp only [constants, List.mem_cons, Prod.mk.injEq, List.not_mem_nil, or_false] at h
  rcases h with ⟨rfl, rfl⟩ | ⟨rfl, rfl⟩ | ⟨rfl, rfl⟩ | ⟨rfl, rfl⟩ | ⟨rfl, rfl⟩ | ⟨rfl, rfl⟩ <;> rfl

def Blank (text : PyStr) : Prop := ∀ c ∈ text, isSpace c = true

theorem skipSpace_append {blank : PyStr} (h : Blank blank) (text : PyStr) :
    skipSpace (blank ++ text) = skipSpace text :=
  List.dropWhile_append_of_pos h

theorem blank_newline (level : ℕ) : Blank (style.newline level) := by
  intro c hc
  rw [JsonStyle.newline] at hc
  split at hc
  · cases hc
  · rcases List.mem_cons.mp hc with rfl | hc
    · rfl
    · obtain rfl := (List.mem_replicate.mp hc).2
      rfl

theorem exists_blank_separator (style : JsonStyle) (level : ℕ) :
    ∃ blank, style.separator level = ','.toNat :: blank ∧ Blank blank := by
  rw [JsonStyle.separator]
  split
  · refine ⟨[0x20], rfl, ?_⟩
    intro c hc
    obtain rfl := List.mem_singleton.mp hc
    rfl
  · exact ⟨_, rfl, blank_newline level⟩

/-- A value, or a member, begins here. -/
def Opens (text : PyStr) : Prop :=
  ∃ c rest, text = c :: rest ∧ isSpace c = false ∧ c ≠ ']'.toNat ∧ c ≠ 0xFEFF

theorem Opens.skipSpace {text : PyStr} (h : Opens text) : skipSpace text = text := by
  obtain ⟨c, rest, rfl, hc, -⟩ := h
  simp [PyJson.skipSpace, hc]

theorem Opens.head_ne_bracket {text : PyStr} (h : Opens text) : text.head? ≠ some ']'.toNat := by
  obtain ⟨c, rest, rfl, -, hc, -⟩ := h
  exact fun hsome => hc (Option.some.inj hsome)

theorem Opens.head_ne_mark {text : PyStr} (h : Opens text) : text.head? ≠ some 0xFEFF := by
  obtain ⟨c, rest, rfl, -, -, hc⟩ := h
  exact fun hsome => hc (Option.some.inj hsome)

theorem Numeric.opens {text : PyStr} (h : Numeric text) : Opens text := by
  obtain ⟨c, rest, hc, htext⟩ := h
  have hb : 48 ≤ c ∧ c ≤ 57 := of_decide_eq_true hc
  rcases htext with rfl | rfl
  · refine ⟨c, rest, rfl, ?_, ?_, ?_⟩
    · simp only [isSpace, Bool.or_eq_false_iff, decide_eq_false_iff_not]
      omega
    · rintro rfl
      revert hb
      decide
    · omega
  · exact ⟨_, _, rfl, by decide, by decide, by decide⟩

theorem numeric_intText (n : ℤ) (rest : PyStr) : Numeric (intText n ++ rest) := by
  rw [intText, List.append_assoc]
  apply Whole.numeric _ (whole_toDigits _)
  split
  · exact Or.inr rfl
  · exact Or.inl rfl

theorem numeric_floatText {text : PyStr} {x : ℚ} (h : FloatText text x) (rest : PyStr) :
    Numeric (text ++ rest) := by
  obtain ⟨⟨sign, whole, fraction, exponent, rfl, hsign, hwhole, -⟩, -⟩ := h
  simp only [List.append_assoc]
  exact hwhole.numeric hsign _

theorem opens_codePoints {word : String} {value : Json} (h : (word, value) ∈ constants)
    (rest : PyStr) : Opens (codePoints word ++ rest) := by
  simp only [constants, List.mem_cons, Prod.mk.injEq, List.not_mem_nil, or_false] at h
  rcases h with ⟨rfl, rfl⟩ | ⟨rfl, rfl⟩ | ⟨rfl, rfl⟩ | ⟨rfl, rfl⟩ | ⟨rfl, rfl⟩ | ⟨rfl, rfl⟩ <;>
    exact ⟨_, _, rfl, by decide, by decide, by decide⟩

theorem opens_dumpsAt {depth : ℕ} {value : Json} (h : Writable limits style depth value) (level : ℕ)
    (rest : PyStr) : Opens (style.dumpsAt level value ++ rest) := by
  have hmem (entry : String × Json) (i : ℕ) (hi : constants[i]? = some entry) : entry ∈ constants :=
    List.mem_of_getElem? hi
  cases value with
  | null => exact opens_codePoints (hmem _ 0 rfl) rest
  | bool b =>
    cases b
    · exact opens_codePoints (hmem _ 2 rfl) rest
    · exact opens_codePoints (hmem _ 1 rfl) rest
  | int n => exact (numeric_intText n rest).opens
  | float x =>
    cases x with
    | finite x => exact (numeric_floatText h rest).opens
    | nan => exact opens_codePoints (hmem _ 3 rfl) rest
    | posInf => exact opens_codePoints (hmem _ 4 rfl) rest
    | negInf => exact opens_codePoints (hmem _ 5 rfl) rest
  | str s => exact ⟨_, _, rfl, by decide, by decide, by decide⟩
  | array items =>
    rw [JsonStyle.dumpsAt]
    split <;> exact ⟨_, _, rfl, by decide, by decide, by decide⟩
  | object members =>
    rw [JsonStyle.dumpsAt]
    split <;> exact ⟨_, _, rfl, by decide, by decide, by decide⟩

theorem ends_of_blank {blank rest : PyStr} (h : Blank blank) (hrest : Ends rest) :
    Ends (blank ++ rest) := by
  cases blank with
  | nil => exact hrest
  | cons c blank =>
    intro d hd
    obtain rfl := Option.some.inj hd
    exact Or.inr (Or.inr (Or.inr (h _ List.mem_cons_self)))

theorem ends_bracket (rest : PyStr) : Ends (']'.toNat :: rest) := by
  intro c hc
  obtain rfl := Option.some.inj hc
  exact Or.inr (Or.inl rfl)

theorem ends_brace (rest : PyStr) : Ends ('}'.toNat :: rest) := by
  intro c hc
  obtain rfl := Option.some.inj hc
  exact Or.inr (Or.inr (Or.inl rfl))

theorem ends_separator (level : ℕ) (rest : PyStr) : Ends (style.separator level ++ rest) := by
  obtain ⟨blank, hsep, -⟩ := exists_blank_separator style level
  rw [hsep]
  intro c hc
  obtain rfl := Option.some.inj hc
  exact Or.inl rfl

theorem ends_items {level : ℕ} {items : List Json} {rest : PyStr} (h : Ends rest) :
    Ends (style.dumpsItems level (style.separator level) items ++ rest) := by
  cases items with
  | nil => exact h
  | cons item items =>
    rw [JsonStyle.dumpsItems, List.append_assoc, List.append_assoc]
    exact ends_separator level _

theorem ends_members {level : ℕ} {members : List (PyStr × Json)} {rest : PyStr} (h : Ends rest) :
    Ends (style.dumpsMembers level (style.separator level) members ++ rest) := by
  cases members with
  | nil => exact h
  | cons member members =>
    obtain ⟨key, value⟩ := member
    simp only [JsonStyle.dumpsMembers, List.append_assoc]
    exact ends_separator level _

theorem exists_skip_separator (style : JsonStyle) (level : ℕ) : ∃ blank, Blank blank ∧
    ∀ text, skipSpace (style.separator level ++ text) = ','.toNat :: (blank ++ text) := by
  obtain ⟨blank, hsep, hblank⟩ := exists_blank_separator style level
  refine ⟨blank, hblank, ?_⟩
  intro text
  rw [hsep]
  rfl

theorem skip_close {close rest : PyStr} {c : ℕ} (hclose : Blank close) (hc : isSpace c = false) :
    skipSpace (close ++ c :: rest) = c :: rest := by
  rw [skipSpace_append hclose]
  simp [skipSpace, hc]

variable (limits style)

/-- The scanner takes the text of a value for it, and leaves what stands behind. -/
def ReadsValues (calls : ℕ) : Prop := ∀ value depth level rest,
  Writable limits style depth value → sizeOf value ≤ calls → Ends rest →
  scanOnce limits calls depth (style.dumpsAt level value ++ rest) = .ok (value, rest)

def ReadsItems (calls : ℕ) : Prop := ∀ item items depth level close rest,
  WritableItems limits style depth (item :: items) → sizeOf (item :: items) ≤ calls → Blank close →
  scanItems limits calls depth (style.dumpsAt level item ++
    (style.dumpsItems level (style.separator level) items ++ (close ++ ']'.toNat :: rest))) =
    .ok (item :: items, rest)

def ReadsMembers (calls : ℕ) : Prop := ∀ key value members depth level close rest,
  WritableMembers limits style depth ((key, value) :: members) →
  sizeOf ((key, value) :: members) ≤ calls → Blank close →
  scanMembers limits calls depth (quoted key ++ ([':'.toNat, 0x20] ++ (style.dumpsAt level value ++
    (style.dumpsMembers level (style.separator level) members ++
      (close ++ '}'.toNat :: rest))))) = .ok ((key, value) :: members, rest)

variable {limits style}

theorem readsValues_array {calls : ℕ} (hi : ReadsItems limits style calls) (item : Json)
    (items : List Json) {depth level : ℕ} {rest : PyStr}
    (h : WritableItems limits style depth (item :: items))
    (hcalls : sizeOf (item :: items) ≤ calls) :
    scanOnce limits (calls+1) (depth+1) (style.dumpsAt level (.array (item :: items)) ++ rest) =
      .ok (.array (item :: items), rest) := by
  have hopens := opens_dumpsAt h.1 (level+1)
    (style.dumpsItems (level+1) (style.separator (level+1)) items ++
      (style.newline level ++ ']'.toNat :: rest))
  have hscan := hi item items depth (level+1) (style.newline level) rest h hcalls
    (blank_newline level)
  have hbracket : '['.toNat ≠ '"'.toNat := by decide
  rw [JsonStyle.dumpsAt, List.isEmpty_cons, if_neg (by simp), List.cons_append,
    JsonStyle.dumpsItems, scanOnce.eq_def]
  simp only [List.append_assoc, List.singleton_append, if_neg hbracket, true_or, if_true,
    skipSpace_append (blank_newline (level+1)), hopens.skipSpace, if_neg hopens.head_ne_bracket,
    hscan]

theorem readsValues_object {calls : ℕ} (hm : ReadsMembers limits style calls) (key : PyStr)
    (value : Json) (members : List (PyStr × Json)) {depth level : ℕ} {rest : PyStr}
    (h : WritableMembers limits style depth ((key, value) :: members))
    (hcalls : sizeOf ((key, value) :: members) ≤ calls) :
    scanOnce limits (calls+1) (depth+1)
      (style.dumpsAt level (.object ((key, value) :: members)) ++ rest) =
      .ok (.object ((key, value) :: members), rest) := by
  have hscan := hm key value members depth (level+1) (style.newline level) rest h hcalls
    (blank_newline level)
  have hbrace : '{'.toNat ≠ '"'.toNat ∧ '{'.toNat ≠ '['.toNat := by decide
  have hopens (text : PyStr) : skipSpace (quoted key ++ text) = quoted key ++ text := rfl
  have hhead (text : PyStr) : ¬(quoted key ++ text).head? = some '}'.toNat := by
    intro hsome
    cases Option.some.inj hsome
  rw [JsonStyle.dumpsAt, List.isEmpty_cons, if_neg (by simp), List.cons_append,
    JsonStyle.dumpsMembers, scanOnce.eq_def]
  simp only [List.append_assoc, List.singleton_append, if_neg hbrace.1, if_neg hbrace.2, or_true,
    if_true, skipSpace_append (blank_newline (level+1)), hopens, if_neg (hhead _), hscan]

theorem readsValues_succ {calls : ℕ} (hi : ReadsItems limits style calls)
    (hm : ReadsMembers limits style calls) : ReadsValues limits style (calls+1) := by
  intro value depth level rest h hcalls hrest
  have hconstant (entry : String × Json) (i : ℕ) (hentry : constants[i]? = some entry) :
      scanOnce limits (calls+1) depth (codePoints entry.1 ++ rest) = .ok (entry.2, rest) :=
    scanOnce_constant rest calls depth (List.mem_of_getElem? hentry)
  cases value with
  | null => exact hconstant _ 0 rfl
  | bool b =>
    cases b
    · exact hconstant _ 2 rfl
    · exact hconstant _ 1 rfl
  | int n =>
    rw [JsonStyle.dumpsAt, scanOnce_numeric (numeric_intText n rest)]
    refine scanNumber_whole limits ?_ (whole_toDigits _) hrest (intOfText_intText h)
    split
    · exact Or.inr rfl
    · exact Or.inl rfl
  | float x =>
    cases x with
    | finite x =>
      rw [JsonStyle.dumpsAt, JsonStyle.floatText, scanOnce_numeric (numeric_floatText h rest)]
      exact scanNumber_float limits h hrest
    | nan => exact hconstant _ 3 rfl
    | posInf => exact hconstant _ 4 rfl
    | negInf => exact hconstant _ 5 rfl
  | str s =>
    rw [JsonStyle.dumpsAt, quoted, List.cons_append, List.append_assoc, scanOnce.eq_def]
    simp only [if_true, List.singleton_append, scanString_quoted h]
  | array items =>
    obtain ⟨hdepth, hitems⟩ := h
    obtain ⟨depth, rfl⟩ := Nat.exists_eq_add_of_lt hdepth
    rw [Nat.zero_add, Nat.add_sub_cancel] at hitems
    rw [Nat.zero_add]
    cases items with
    | nil =>
      rw [JsonStyle.dumpsAt, scanOnce.eq_def]
      rfl
    | cons item items =>
      have hsize : sizeOf (Json.array (item :: items)) = 1+sizeOf (item :: items) := by simp
      exact readsValues_array hi item items hitems (by omega)
  | object members =>
    obtain ⟨hdepth, hmembers⟩ := h
    obtain ⟨depth, rfl⟩ := Nat.exists_eq_add_of_lt hdepth
    rw [Nat.zero_add, Nat.add_sub_cancel] at hmembers
    rw [Nat.zero_add]
    cases members with
    | nil =>
      rw [JsonStyle.dumpsAt, scanOnce.eq_def]
      rfl
    | cons member members =>
      have hsize : sizeOf (Json.object (member :: members)) =
          1+sizeOf (member :: members) := by simp
      obtain ⟨key, value⟩ := member
      exact readsValues_object hm key value members hmembers (by omega)

theorem readsItems_succ {calls : ℕ} (hv : ReadsValues limits style calls)
    (hi : ReadsItems limits style calls) : ReadsItems limits style (calls+1) := by
  intro item items depth level close rest h hcalls hclose
  obtain ⟨hitem, hitems⟩ := h
  have hsize : sizeOf (item :: items) = 1+sizeOf item+sizeOf items := rfl
  have hends : Ends (style.dumpsItems level (style.separator level) items ++
      (close ++ ']'.toNat :: rest)) := ends_items (ends_of_blank hclose (ends_bracket rest))
  rw [scanItems, hv item depth level _ hitem (by omega) hends]
  cases items with
  | nil =>
    have hskip : skipSpace (close ++ ']'.toNat :: rest) = ']'.toNat :: rest := skip_close hclose rfl
    simp only [JsonStyle.dumpsItems, List.nil_append, hskip, if_true]
  | cons next items =>
    obtain ⟨blank, hblank, hskip⟩ := exists_skip_separator style level
    have hopens := opens_dumpsAt hitems.1 level
      (style.dumpsItems level (style.separator level) items ++ (close ++ ']'.toNat :: rest))
    have hmore := hi next items depth level close rest hitems (by omega) hclose
    have hno : ','.toNat ≠ ']'.toNat := by decide
    rw [JsonStyle.dumpsItems]
    simp only [List.append_assoc, hskip, if_neg hno, if_true]
    rw [skipSpace_append hblank, hopens.skipSpace, hmore]

theorem readsMembers_succ {calls : ℕ} (hv : ReadsValues limits style calls)
    (hm : ReadsMembers limits style calls) : ReadsMembers limits style (calls+1) := by
  intro key value members depth level close rest h hcalls hclose
  obtain ⟨hkey, hvalue, hmembers⟩ := h
  have hsize : sizeOf ((key, value) :: members) =
      1+(1+sizeOf key+sizeOf value)+sizeOf members := rfl
  have hends : Ends (style.dumpsMembers level (style.separator level) members ++
      (close ++ '}'.toNat :: rest)) := ends_members (ends_of_blank hclose (ends_brace rest))
  have hopens := opens_dumpsAt hvalue level
    (style.dumpsMembers level (style.separator level) members ++ (close ++ '}'.toNat :: rest))
  have hcolon (text : PyStr) : skipSpace ([':'.toNat, 0x20] ++ text) =
      ':'.toNat :: 0x20 :: text := rfl
  have hblank (text : PyStr) : skipSpace (0x20 :: text) = skipSpace text := rfl
  rw [quoted, List.cons_append, List.append_assoc, List.singleton_append, scanMembers]
  simp only [ne_eq, not_true, if_false, scanString_quoted hkey, hcolon, hblank, hopens.skipSpace]
  rw [hv value depth level _ hvalue (by omega) hends]
  cases members with
  | nil =>
    have hskip : skipSpace (close ++ '}'.toNat :: rest) = '}'.toNat :: rest := skip_close hclose rfl
    simp only [JsonStyle.dumpsMembers, List.nil_append, hskip, if_true]
  | cons member members =>
    obtain ⟨next, nextValue⟩ := member
    obtain ⟨blank, hblank, hskip⟩ := exists_skip_separator style level
    have hmore := hm next nextValue members depth level close rest hmembers (by omega) hclose
    have hno : ','.toNat ≠ '}'.toNat := by decide
    have hquote (text : PyStr) : skipSpace (quoted next ++ text) = quoted next ++ text := rfl
    rw [JsonStyle.dumpsMembers]
    simp only [List.append_assoc, hskip, if_neg hno, if_true]
    rw [skipSpace_append hblank, hquote, hmore]

variable (limits style)

theorem reads_scan (calls : ℕ) : ReadsValues limits style calls ∧ ReadsItems limits style calls ∧
    ReadsMembers limits style calls := by
  induction calls with
  | zero =>
    refine ⟨?_, ?_, ?_⟩
    · intro value depth level rest h hcalls
      cases value <;> simp at hcalls
    · intro item items depth level close rest h hcalls
      simp at hcalls
    · intro key value members depth level close rest h hcalls
      simp at hcalls
  | succ calls ih =>
    exact ⟨readsValues_succ ih.2.1 ih.2.2, readsItems_succ ih.1 ih.2.1,
      readsMembers_succ ih.1 ih.2.2⟩

/-- What is dumped is loaded again, whatever blanks or line ends stand behind it. -/
theorem loads_dumps {value : Json} (h : Writable limits style (limits.recursionLeft+1) value)
    {behind : PyStr} (hbehind : Blank behind) :
    loads limits (style.dumpsText value ++ behind) = .ok value := by
  have hopens : Opens (style.dumpsText value ++ behind) := opens_dumpsAt h 0 behind
  have hends : Ends behind := by
    have hnil : Ends [] := fun c hc => by cases hc
    simpa using ends_of_blank hbehind hnil
  have hscan : scanOnce limits (callsFor (style.dumpsText value ++ behind)) (limits.recursionLeft+1)
      (style.dumpsText value ++ behind) = .ok (value, behind) := by
    rw [← scanOnce_callsFor limits
      (max (callsFor (style.dumpsText value ++ behind)) (sizeOf value)) _ _
      (le_max_left _ _)]
    exact (reads_scan limits style _).1 value _ 0 behind h (le_max_right _ _) hends
  have hrest : skipSpace behind = [] := List.dropWhile_eq_nil_iff.mpr hbehind
  rw [loads, if_neg hopens.head_ne_mark]
  simp only [hopens.skipSpace, hscan, hrest, if_true]

end Values

/-- `str.encode("utf-8")` of a text that is ASCII. -/
def asciiOctets (text : PyStr) : List UInt8 := text.map UInt8.ofNat

def Ascii (text : PyStr) : Prop := ∀ c ∈ text, c < 0x80

section Octets
variable {limits : Limits} {style : JsonStyle}

theorem readText_ascii {text : PyStr} (h : Ascii text) :
    readText (asciiOctets text) = .ok text := by
  have hdecode : decodeFrom none (asciiOctets text) = some text := by
    induction text with
    | nil => rfl
    | cons c text ih =>
      have hc : c < 0x80 := h c List.mem_cons_self
      have hoctet : (UInt8.ofNat c).toNat = c := by
        rw [UInt8.toNat_ofNat']
        omega
      have hlead : PyConvert.utf8Lead c = some (0, 0x80, 0xBF, c) := if_pos hc
      have hrest := ih fun d hd => h d (List.mem_cons_of_mem c hd)
      rw [asciiOctets] at hrest
      simp only [asciiOctets, List.map_cons, decodeFrom, hoctet, hlead, hrest, Option.map_some]
  rw [readText, hdecode]

theorem ascii_append {s t : PyStr} (hs : Ascii s) (ht : Ascii t) : Ascii (s ++ t) := by
  intro c hc
  rcases List.mem_append.mp hc with hc | hc
  · exact hs c hc
  · exact ht c hc

theorem ascii_cons {c : ℕ} {t : PyStr} (hc : c < 0x80) (ht : Ascii t) : Ascii (c :: t) := by
  intro d hd
  rcases List.mem_cons.mp hd with rfl | hd
  · exact hc
  · exact ht d hd

theorem ascii_blank {blank : PyStr} (h : Blank blank) : Ascii blank := by
  intro c hc
  have hspace := h c hc
  simp only [isSpace, Bool.or_eq_true, decide_eq_true_eq] at hspace
  omega

theorem ascii_digits {digits : PyStr} (h : ∀ c ∈ digits, isDigit c = true) : Ascii digits := by
  intro c hc
  have hb : 48 ≤ c ∧ c ≤ 57 := of_decide_eq_true (h c hc)
  omega

theorem ascii_unitText {unit : ℕ} (h : unit < 0x10000) : Ascii (unitText unit) := by
  have hhex : ∀ d < 16, hexChar d < 0x80 := by decide
  intro c hc
  simp only [unitText, List.mem_cons, List.not_mem_nil, or_false] at hc
  rcases hc with rfl | rfl | rfl | rfl | rfl | rfl
  · decide
  · decide
  · exact hhex _ (by omega)
  · exact hhex _ (by omega)
  · exact hhex _ (by omega)
  · exact hhex _ (by omega)

theorem ascii_escapeChar {c : ℕ} (h : c ≤ 0x10FFFF) : Ascii (escapeChar c) := by
  have hpair (e : ℕ) (he : e < 0x80) : Ascii ['\\'.toNat, e] :=
    ascii_cons (by decide) (ascii_cons he fun d hd => by cases hd)
  rw [escapeChar]
  split_ifs
  · exact hpair _ (by decide)
  · exact hpair _ (by decide)
  · exact hpair _ (by decide)
  · exact hpair _ (by decide)
  · exact hpair _ (by decide)
  · exact hpair _ (by decide)
  · exact hpair _ (by decide)
  · exact ascii_cons (by omega) fun d hd => by cases hd
  · intro d hd
    obtain ⟨unit, hunit, hd⟩ := List.mem_flatMap.mp hd
    refine ascii_unitText ?_ d hd
    rw [utf16] at hunit
    split at hunit
    · obtain rfl := List.mem_singleton.mp hunit
      assumption
    · simp only [List.mem_cons, List.not_mem_nil, or_false] at hunit
      omega

theorem ascii_quoted {s : PyStr} (h : Text s) : Ascii (quoted s) := by
  refine ascii_cons (by decide) (ascii_append ?_ (ascii_cons (by decide) fun d hd => by cases hd))
  induction s with
  | nil => exact fun c hc => by cases hc
  | cons c s ih => exact ascii_append (ascii_escapeChar h.1) (ih h.2.2)

theorem ascii_whole {whole : PyStr} (h : Whole whole) : Ascii whole := by
  rcases h with rfl | ⟨⟨-, hdigits⟩, -⟩
  · exact ascii_cons (by decide) fun d hd => by cases hd
  · exact ascii_digits hdigits

theorem ascii_sign {sign : PyStr} (h : sign = [] ∨ sign = ['-'.toNat]) : Ascii sign := by
  rcases h with rfl | rfl
  · exact fun d hd => by cases hd
  · exact ascii_cons (by decide) fun d hd => by cases hd

theorem ascii_floatText {text : PyStr} {x : ℚ} (h : FloatText text x) : Ascii text := by
  obtain ⟨⟨sign, whole, fraction, exponent, rfl, hsign, hwhole, hfraction, hexponent, -⟩, -⟩ := h
  refine ascii_append (ascii_append (ascii_append (ascii_sign hsign) (ascii_whole hwhole)) ?_) ?_
  · rcases hfraction with rfl | ⟨digits, hdigits, rfl⟩
    · exact fun d hd => by cases hd
    · exact ascii_cons (by decide) (ascii_digits hdigits.2)
  · rcases hexponent with rfl | ⟨s, digits, hs, hdigits, rfl⟩
    · exact fun d hd => by cases hd
    · refine ascii_cons (by decide) (ascii_cons ?_ (ascii_digits hdigits.2))
      rcases hs with rfl | rfl <;> decide

theorem ascii_separator (style : JsonStyle) (level : ℕ) : Ascii (style.separator level) := by
  obtain ⟨blank, hsep, hblank⟩ := exists_blank_separator style level
  rw [hsep]
  exact ascii_cons (by decide) (ascii_blank hblank)

variable (limits style)

theorem ascii_dumps (size : ℕ) :
    (∀ value depth level, sizeOf value ≤ size → Writable limits style depth value →
      Ascii (style.dumpsAt level value)) ∧
    (∀ items depth level before, sizeOf items ≤ size → WritableItems limits style depth items →
      Ascii before → Ascii (style.dumpsItems level before items)) ∧
    (∀ members depth level before, sizeOf members ≤ size →
      WritableMembers limits style depth members → Ascii before →
      Ascii (style.dumpsMembers level before members)) := by
  have hword (entry : String × Json) (i : ℕ) (hi : constants[i]? = some entry) :
      Ascii (codePoints entry.1) := by
    have hall : ∀ word ∈ constants.map Prod.fst, ∀ c ∈ codePoints word, c < 0x80 := by decide
    exact hall entry.1 (List.mem_map_of_mem (List.mem_of_getElem? hi))
  induction size with
  | zero =>
    refine ⟨?_, ?_, ?_⟩
    · intro value depth level h
      cases value <;> simp at h
    · intro items depth level before h
      cases items <;> simp at h
    · intro members depth level before h
      cases members <;> simp at h
  | succ size ih =>
    obtain ⟨ihValue, ihItems, ihMembers⟩ := ih
    refine ⟨?_, ?_, ?_⟩
    · intro value depth level hsize h
      have hnewline (l : ℕ) : Ascii (style.newline l) := ascii_blank (blank_newline l)
      have hnil : Ascii [] := fun c hc => by cases hc
      cases value with
      | null => exact hword _ 0 rfl
      | bool b =>
        cases b
        · exact hword _ 2 rfl
        · exact hword _ 1 rfl
      | int n =>
        refine ascii_append (ascii_sign ?_) (ascii_whole (whole_toDigits _))
        split
        · exact Or.inr rfl
        · exact Or.inl rfl
      | float x =>
        cases x with
        | finite x => exact ascii_floatText h
        | nan => exact hword _ 3 rfl
        | posInf => exact hword _ 4 rfl
        | negInf => exact hword _ 5 rfl
      | str s => exact ascii_quoted h
      | array items =>
        have hitems : sizeOf (Json.array items) = 1+sizeOf items := by simp
        have hinner := ihItems items (depth-1) (level+1) (style.newline (level+1)) (by omega) h.2
          (hnewline _)
        rw [JsonStyle.dumpsAt]
        split
        · exact ascii_cons (by decide) (ascii_cons (by decide) hnil)
        · exact ascii_cons (by decide)
            (ascii_append (ascii_append hinner (hnewline _)) (ascii_cons (by decide) hnil))
      | object members =>
        have hmembers : sizeOf (Json.object members) = 1+sizeOf members := by simp
        have hinner := ihMembers members (depth-1) (level+1) (style.newline (level+1))
          (by omega) h.2
          (hnewline _)
        rw [JsonStyle.dumpsAt]
        split
        · exact ascii_cons (by decide) (ascii_cons (by decide) hnil)
        · exact ascii_cons (by decide)
            (ascii_append (ascii_append hinner (hnewline _)) (ascii_cons (by decide) hnil))
    · intro items depth level before hsize h hbefore
      cases items with
      | nil => exact fun c hc => by cases hc
      | cons item items =>
        have hitems : sizeOf (item :: items) = 1+sizeOf item+sizeOf items := rfl
        exact ascii_append (ascii_append hbefore (ihValue item depth level (by omega) h.1))
          (ihItems items depth level _ (by omega) h.2 (ascii_separator style level))
    · intro members depth level before hsize h hbefore
      cases members with
      | nil => exact fun c hc => by cases hc
      | cons member members =>
        obtain ⟨key, value⟩ := member
        have hmembers : sizeOf ((key, value) :: members) =
            1+(1+sizeOf key+sizeOf value)+sizeOf members := rfl
        have hcolon : Ascii [':'.toNat, 0x20] :=
          ascii_cons (by decide) (ascii_cons (by decide) fun c hc => by cases hc)
        exact ascii_append (ascii_append
          (ascii_append (ascii_append hbefore (ascii_quoted h.1)) hcolon)
          (ihValue value depth level (by omega) h.2.1))
          (ihMembers members depth level _ (by omega) h.2.2 (ascii_separator style level))

variable {limits style}

/-- A value that is dumped to a file is loaded from it, down to the octets. -/
theorem loads_octets {value : Json} (h : Writable limits style (limits.recursionLeft+1) value)
    {behind : PyStr} (hbehind : Blank behind) :
    ∃ text, readText (asciiOctets (style.dumpsText value ++ behind)) = .ok text ∧
      loads limits text = .ok value := by
  have hascii : Ascii (style.dumpsText value ++ behind) :=
    ascii_append ((ascii_dumps limits style _).1 value _ 0 le_rfl h) (ascii_blank hbehind)
  exact ⟨_, readText_ascii hascii, loads_dumps limits style h hbehind⟩

end Octets

end PyJson
