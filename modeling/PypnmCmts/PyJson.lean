import PypnmCmts.PyNumber

/-! Python's `json.loads` on a file of UTF-8, with the three kinds of exception that it may end
in, and what `str`, `int` and `float` make of a decoded value. -/
namespace PyJson
open PyNumber

/-- The members of an object are in the order of the text, where a key may occur again. -/
inductive Json
  | null
  | bool (b : Bool)
  | int (n : ℤ)
  | float (x : PyFloat)
  | str (s : PyStr)
  | array (items : List Json)
  | object (members : List (PyStr × Json))

/-- What the interpreter is set to: the digits that `int` converts at most, where zero is no
limit, and how many containers may stand in one another below the outermost one. -/
structure Limits where
  maxStrDigits : ℕ
  recursionLeft : ℕ
deriving DecidableEq

/-- `unicodeDecode`, `intDigits` and `conversion` are plain `ValueError`s, of which
`jsonDecode` is a subclass. -/
inductive Raised
  | unicodeDecode
  | jsonDecode
  | intDigits
  | recursion
  | typeError
  | conversion
  | overflow
deriving DecidableEq

/-- `bytes.decode("utf-8")`. In the middle of a character the first argument holds how many
octets it lacks, the bounds of the next one and the bits so far. -/
def decodeFrom : Option (ℕ × ℕ × ℕ × ℕ) → List UInt8 → Option PyStr
  | none, [] => some []
  | some _, [] => none
  | none, octet :: octets =>
    match PyConvert.utf8Lead octet.toNat with
    | none => none
    | some (0, _, _, code) => (decodeFrom none octets).map (code :: ·)
    | some (more+1, low, high, code) => decodeFrom (some (more, low, high, code)) octets
  | some (more, low, high, code), octet :: octets =>
    if low ≤ octet.toNat ∧ octet.toNat ≤ high then
      let code := code*64+(octet.toNat-0x80)
      match more with
      | 0 => (decodeFrom none octets).map (code :: ·)
      | more+1 => decodeFrom (some (more, 0x80, 0xBF, code)) octets
    else none

/-- `path.read_text(encoding="utf-8")`. Line ends are left as they are: the scanner skips every
kind of them between the tokens, and refuses every kind within a string. -/
def readText (octets : List UInt8) : Except Raised PyStr :=
  match decodeFrom none octets with
  | some text => .ok text
  | none => .error .unicodeDecode

def isSpace (c : ℕ) : Bool := c = 0x20 || c = 0x09 || c = 0x0A || c = 0x0D

def skipSpace (text : PyStr) : PyStr := text.dropWhile isSpace

def isDigit (c : ℕ) : Bool := '0'.toNat ≤ c ∧ c ≤ '9'.toNat

def hexDigit (c : ℕ) : Option ℕ :=
  if isDigit c then some (c - '0'.toNat)
  else if 'a'.toNat ≤ c ∧ c ≤ 'f'.toNat then some (c - 'a'.toNat+10)
  else if 'A'.toNat ≤ c ∧ c ≤ 'F'.toNat then some (c - 'A'.toNat+10)
  else none

def hexUnit (a b c d : ℕ) : Option ℕ := do
  let a ← hexDigit a
  let b ← hexDigit b
  let c ← hexDigit c
  let d ← hexDigit d
  return ((a*16+b)*16+c)*16+d

/-- What a backslash and one character stand for, `u` apart. -/
def escaped (c : ℕ) : Option ℕ :=
  if c = '"'.toNat ∨ c = '\\'.toNat ∨ c = '/'.toNat then some c
  else if c = 'b'.toNat then some 8
  else if c = 'f'.toNat then some 12
  else if c = 'n'.toNat then some 10
  else if c = 'r'.toNat then some 13
  else if c = 't'.toNat then some 9
  else none

/-- The inside of a string up to its closing quote, and the text behind it. -/
def scanUnits : PyStr → Option (PyStr × PyStr)
  | [] => none
  | c :: rest =>
    if c = '"'.toNat then some ([], rest)
    else if c = '\\'.toNat then
      match rest with
      | [] => none
      | e :: rest =>
        if e = 'u'.toNat then
          match rest with
          | h :: i :: j :: k :: rest =>
            match hexUnit h i j k, scanUnits rest with
            | some unit, some (units, rest) => some (unit :: units, rest)
            | _, _ => none
          | _ => none
        else
          match escaped e, scanUnits rest with
          | some unit, some (units, rest) => some (unit :: units, rest)
          | _, _ => none
    -- no control character may stand in a string
    else if c ≤ 0x1F then none
    else
      match scanUnits rest with
      | some (units, rest) => some (c :: units, rest)
      | none => none

/-- The two halves of a surrogate pair are one character. No half comes from the text itself,
which was UTF-8. -/
def joinSurrogates : PyStr → PyStr
  | high :: low :: units =>
    if (0xD800 ≤ high ∧ high ≤ 0xDBFF) ∧ (0xDC00 ≤ low ∧ low ≤ 0xDFFF) then
      (0x10000+(high-0xD800)*0x400+(low-0xDC00)) :: joinSurrogates units
    else high :: joinSurrogates (low :: units)
  | units => units

/-- `scanstring`, behind the opening quote. -/
def scanString (text : PyStr) : Except Raised (PyStr × PyStr) :=
  match scanUnits text with
  | some (units, rest) => .ok (joinSurrogates units, rest)
  | none => .error .jsonDecode

/-- The fraction or the exponent of a number: the characters of `lead`, and digits behind them. -/
def scanDigits (lead text : PyStr) : PyStr × PyStr :=
  if text.takeWhile isDigit = [] then ([], lead ++ text)
  else (lead ++ text.takeWhile isDigit, text.dropWhile isDigit)

def scanFraction : PyStr → PyStr × PyStr
  | c :: rest => if c = '.'.toNat then scanDigits [c] rest else ([], c :: rest)
  | [] => ([], [])

def scanExponent : PyStr → PyStr × PyStr
  | e :: rest =>
    if e = 'e'.toNat ∨ e = 'E'.toNat then
      match rest with
      | sign :: digits =>
        if sign = '+'.toNat ∨ sign = '-'.toNat then scanDigits [e, sign] digits
        else scanDigits [e] rest
      | [] => ([], [e])
    else ([], e :: rest)
  | [] => ([], [])

/-- The digits before the point, which do not begin with a zero unless it is the only one. -/
def scanWhole : PyStr → Option (PyStr × PyStr)
  | [] => none
  | c :: rest =>
    if c = '0'.toNat then some ([c], rest)
    else if isDigit c then some ((c :: rest).takeWhile isDigit, (c :: rest).dropWhile isDigit)
    else none

def scanSign : PyStr → PyStr × PyStr
  | c :: rest => if c = '-'.toNat then ([c], rest) else ([], c :: rest)
  | [] => ([], [])

/-- `_match_number`. -/
def scanNumber (limits : Limits) (text : PyStr) : Except Raised (Json × PyStr) :=
  let sign := (scanSign text).1
  match scanWhole (scanSign text).2 with
  | none => .error .jsonDecode
  | some (whole, behind) =>
    let fraction := scanFraction behind
    let exponent := scanExponent fraction.2
    if fraction.1 = [] ∧ exponent.1 = [] then
      match intOfText limits.maxStrDigits (sign ++ whole) with
      | some n => .ok (.int n, exponent.2)
      | none => .error .intDigits
    else
      match floatOfText (sign ++ whole ++ fraction.1 ++ exponent.1) with
      | some x => .ok (.float x, exponent.2)
      | none => .error .conversion

def dropText (word : String) (text : PyStr) : Option PyStr :=
  if (codePoints word).isPrefixOf text then some (text.drop word.length) else none

/-- The values that are written as a word, three of which are no JSON. -/
def constants : List (String × Json) :=
  [("null", .null), ("true", .bool true), ("false", .bool false), ("NaN", .float .nan),
   ("Infinity", .float .posInf), ("-Infinity", .float .negInf)]

def scanConstant (text : PyStr) : Option (Json × PyStr) :=
  constants.findSome? fun (word, value) => (dropText word text).map fun rest => (value, rest)

mutual

/-- `scan_once`: the value at the beginning of the text. The first argument counts the calls,
and `depth` those containers that may still be entered. -/
def scanOnce (limits : Limits) : ℕ → ℕ → PyStr → Except Raised (Json × PyStr)
  | 0, _, _ => .error .jsonDecode
  | _+1, _, [] => .error .jsonDecode
  | calls+1, depth, c :: rest =>
    if c = '"'.toNat then
      match scanString rest with
      | .ok (s, rest) => .ok (.str s, rest)
      | .error e => .error e
    else if c = '['.toNat ∨ c = '{'.toNat then
      match depth with
      | 0 => .error .recursion
      | depth+1 =>
        if c = '['.toNat then
          if (skipSpace rest).head? = some ']'.toNat then .ok (.array [], (skipSpace rest).tail)
          else
            match scanItems limits calls depth (skipSpace rest) with
            | .ok (items, rest) => .ok (.array items, rest)
            | .error e => .error e
        else
          if (skipSpace rest).head? = some '}'.toNat then .ok (.object [], (skipSpace rest).tail)
          else
            match scanMembers limits calls depth (skipSpace rest) with
            | .ok (members, rest) => .ok (.object members, rest)
            | .error e => .error e
    else
      match scanConstant (c :: rest) with
      | some found => .ok found
      | none => scanNumber limits (c :: rest)

/-- The values of an array up to its closing bracket. -/
def scanItems (limits : Limits) : ℕ → ℕ → PyStr → Except Raised (List Json × PyStr)
  | 0, _, _ => .error .jsonDecode
  | calls+1, depth, text =>
    match scanOnce limits calls depth text with
    | .error e => .error e
    | .ok (value, rest) =>
      match skipSpace rest with
      | [] => .error .jsonDecode
      | c :: rest =>
        if c = ']'.toNat then .ok ([value], rest)
        else if c = ','.toNat then
          match scanItems limits calls depth (skipSpace rest) with
          | .ok (items, rest) => .ok (value :: items, rest)
          | .error e => .error e
        else .error .jsonDecode

/-- The members of an object up to its closing brace. -/
def scanMembers (limits : Limits) : ℕ → ℕ → PyStr → Except Raised (List (PyStr × Json) × PyStr)
  | 0, _, _ => .error .jsonDecode
  | _+1, _, [] => .error .jsonDecode
  | calls+1, depth, quote :: text =>
    if quote ≠ '"'.toNat then .error .jsonDecode
    else
      match scanString text with
      | .error e => .error e
      | .ok (key, rest) =>
        match skipSpace rest with
        | [] => .error .jsonDecode
        | colon :: rest =>
          if colon ≠ ':'.toNat then .error .jsonDecode
          else
            match scanOnce limits calls depth (skipSpace rest) with
            | .error e => .error e
            | .ok (value, rest) =>
              match skipSpace rest with
              | [] => .error .jsonDecode
              | c :: rest =>
                if c = '}'.toNat then .ok ([(key, value)], rest)
                else if c = ','.toNat then
                  match scanMembers limits calls depth (skipSpace rest) with
                  | .ok (members, rest) => .ok ((key, value) :: members, rest)
                  | .error e => .error e
                else .error .jsonDecode

end

/-- The number of calls that a text can cost at most. -/
def callsFor (text : PyStr) : ℕ := 2*text.length+1

/-- `json.loads(text)`. -/
def loads (limits : Limits) (text : PyStr) : Except Raised Json :=
  -- a byte order mark is refused
  if text.head? = some 0xFEFF then .error .jsonDecode
  else
    let text := skipSpace text
    match scanOnce limits (callsFor text) (limits.recursionLeft+1) text with
    | .error e => .error e
    | .ok (value, rest) => if skipSpace rest = [] then .ok value else .error .jsonDecode

example : loads ⟨4300, 1⟩ (codePoints "\x7b\"a\": [1, \"\\u00e9\"]\x7d") matches
    .ok (.object [([97], .array [.int 1, .str [233]])]) := by decide +kernel

theorem length_skipSpace (text : PyStr) : (skipSpace text).length ≤ text.length :=
  List.length_dropWhile_le _ _

theorem length_scanUnits (text units rest : PyStr) (h : scanUnits text = some (units, rest)) :
    rest.length ≤ text.length := by
  fun_induction scanUnits text generalizing units rest
  all_goals try cases h
  case case2 => simp
  case case4 ih =>
    have hl := ih _ _ (by assumption)
    simp only [List.length_cons]
    omega
  case case7 ih =>
    have hl := ih _ _ (by assumption)
    simp only [List.length_cons]
    omega
  case case10 ih =>
    have hl := ih _ _ (by assumption)
    simp only [List.length_cons]
    omega

theorem length_scanString (text s rest : PyStr) (h : scanString text = .ok (s, rest)) :
    rest.length ≤ text.length := by
  simp only [scanString] at h
  split at h
  · obtain ⟨rfl, rfl⟩ := Prod.mk.inj (Except.ok.inj h)
    apply length_scanUnits _ _ _
    assumption
  · cases h

theorem length_scanDigits (lead text : PyStr) :
    (scanDigits lead text).2.length ≤ lead.length+text.length := by
  have h := List.length_dropWhile_le isDigit text
  simp only [scanDigits]
  split
  · rw [List.length_append]
  · dsimp only
    omega

theorem length_scanFraction (text : PyStr) : (scanFraction text).2.length ≤ text.length := by
  fun_cases scanFraction text
  case case1 rest =>
    have h := length_scanDigits ['.'.toNat] rest
    simp only [List.length_cons, List.length_nil] at h ⊢
    omega
  all_goals exact le_rfl

theorem length_scanExponent (text : PyStr) : (scanExponent text).2.length ≤ text.length := by
  fun_cases scanExponent text
  case case1 e _ sign digits _ =>
    have h := length_scanDigits [e, sign] digits
    simp only [List.length_cons, List.length_nil] at h ⊢
    omega
  case case2 e _ sign digits _ =>
    have h := length_scanDigits [e] (sign :: digits)
    simp only [List.length_cons, List.length_nil] at h ⊢
    omega
  all_goals exact le_rfl

theorem length_scanWhole (text whole rest : PyStr) (h : scanWhole text = some (whole, rest)) :
    rest.length ≤ text.length := by
  have hd := List.length_dropWhile_le isDigit text
  fun_cases scanWhole text <;> grind [scanWhole]

theorem length_scanSign (text : PyStr) : (scanSign text).2.length ≤ text.length := by
  fun_cases scanSign text
  case case1 => exact Nat.le_succ _
  all_goals exact le_rfl

theorem length_scanNumber (limits : Limits) (text rest : PyStr) (value : Json)
    (h : scanNumber limits text = .ok (value, rest)) : rest.length ≤ text.length := by
  have hs := length_scanSign text
  simp only [scanNumber] at h
  split at h
  · cases h
  · rename_i whole behind hw
    have hl := length_scanWhole _ _ _ hw
    have hf := length_scanFraction behind
    have he := length_scanExponent (scanFraction behind).2
    have hrest : (scanExponent (scanFraction behind).2).2 = rest := by
      split_ifs at h
      · split at h <;> simp_all
      · split at h <;> simp_all
    rw [← hrest]
    omega

theorem length_scanConstant (text rest : PyStr) (value : Json)
    (h : scanConstant text = some (value, rest)) : rest.length ≤ text.length := by
  obtain ⟨entry, -, h⟩ := List.exists_of_findSome?_eq_some h
  simp only [dropText] at h
  split at h
  · obtain ⟨rfl, rfl⟩ := Prod.mk.inj (Option.some.inj h)
    rw [List.length_drop]
    omega
  · cases h

/-- What a scanner leaves is no longer than the text it was given. -/
def Shrinks {α : Type} (scan : ℕ → PyStr → Except Raised (α × PyStr)) : Prop :=
  ∀ depth text value rest, scan depth text = .ok (value, rest) → rest.length ≤ text.length

theorem shrinks_once (limits : Limits) (calls : ℕ) (hi : Shrinks (scanItems limits calls))
    (hm : Shrinks (scanMembers limits calls)) : Shrinks (scanOnce limits (calls+1)) := by
  intro depth text value rest h
  rcases text with _ | ⟨c, text⟩
  · simp only [scanOnce, reduceCtorEq] at h
  · have hskip := length_skipSpace text
    have hs := length_scanString text
    have hc := length_scanConstant (c :: text)
    have hn := length_scanNumber limits (c :: text)
    have hl : (c :: text).length = text.length+1 := rfl
    have ht := List.length_tail (l := skipSpace text)
    simp only [scanOnce] at h
    grind [Shrinks]

theorem shrinks_items (limits : Limits) (calls : ℕ) (ho : Shrinks (scanOnce limits calls))
    (hi : Shrinks (scanItems limits calls)) : Shrinks (scanItems limits (calls+1)) := by
  intro depth text value rest h
  simp only [scanItems] at h
  have := length_skipSpace
  grind [Shrinks]

theorem shrinks_members (limits : Limits) (calls : ℕ) (ho : Shrinks (scanOnce limits calls))
    (hm : Shrinks (scanMembers limits calls)) : Shrinks (scanMembers limits (calls+1)) := by
  intro depth text value rest h
  rcases text with _ | ⟨quote, text⟩
  · simp only [scanMembers, reduceCtorEq] at h
  · simp only [scanMembers] at h
    split_ifs at h
    split at h
    · cases h
    rename_i key behind hkey
    have hk := length_scanString _ _ _ hkey
    have hc := length_skipSpace behind
    split at h
    · cases h
    rename_i colon behind hcolon
    have hv := length_skipSpace behind
    rw [hcolon, List.length_cons] at hc
    split_ifs at h
    split at h
    · cases h
    rename_i member behind hmember
    have ho' := ho _ _ _ _ hmember
    have hd := length_skipSpace behind
    grind [Shrinks, length_skipSpace]

theorem shrinks_scan (limits : Limits) (calls : ℕ) : Shrinks (scanOnce limits calls) ∧
    Shrinks (scanItems limits calls) ∧ Shrinks (scanMembers limits calls) := by
  induction calls with
  | zero => exact ⟨by simp [Shrinks, scanOnce], by simp [Shrinks, scanItems],
      by simp [Shrinks, scanMembers]⟩
  | succ calls ih =>
    exact ⟨shrinks_once limits calls ih.2.1 ih.2.2, shrinks_items limits calls ih.1 ih.2.1,
      shrinks_members limits calls ih.1 ih.2.2⟩

/-- Two scanners do the same on every text that is no longer than `len`. -/
def AgreeTo {α : Type} (len : ℕ) (scan scan' : ℕ → PyStr → Except Raised (α × PyStr)) : Prop :=
  ∀ depth text, text.length ≤ len → scan depth text = scan' depth text

theorem agree_once (limits : Limits) (len calls calls' : ℕ)
    (hi : AgreeTo len (scanItems limits calls) (scanItems limits calls'))
    (hm : AgreeTo len (scanMembers limits calls) (scanMembers limits calls')) :
    AgreeTo (len+1) (scanOnce limits (calls+1)) (scanOnce limits (calls'+1)) := by
  intro depth text hlen
  rcases text with _ | ⟨c, text⟩
  · simp only [scanOnce]
  · have hskip := length_skipSpace text
    have hl : (skipSpace text).length ≤ len := by
      rw [List.length_cons] at hlen
      omega
    rcases depth with _ | depth
    · simp only [scanOnce]
    · simp only [scanOnce, hi depth _ hl, hm depth _ hl]

theorem agree_items (limits : Limits) (len calls calls' : ℕ)
    (ho : AgreeTo len (scanOnce limits calls) (scanOnce limits calls'))
    (hi : AgreeTo (len-1) (scanItems limits calls) (scanItems limits calls')) :
    AgreeTo len (scanItems limits (calls+1)) (scanItems limits (calls'+1)) := by
  intro depth text hlen
  simp only [scanItems, ho depth text hlen]
  split
  · rfl
  · rename_i value rest hv
    have hr := (shrinks_scan limits calls').1 _ _ _ _ hv
    have hskip := length_skipSpace rest
    split
    · rfl
    · rename_i c behind hc
      have hb := length_skipSpace behind
      rw [hc, List.length_cons] at hskip
      rw [hi depth (skipSpace behind) (by omega)]

theorem agree_members (limits : Limits) (len calls calls' : ℕ)
    (ho : AgreeTo len (scanOnce limits calls) (scanOnce limits calls'))
    (hm : AgreeTo (len-1) (scanMembers limits calls) (scanMembers limits calls')) :
    AgreeTo len (scanMembers limits (calls+1)) (scanMembers limits (calls'+1)) := by
  intro depth text hlen
  rcases text with _ | ⟨quote, text⟩
  · simp only [scanMembers]
  · rw [List.length_cons] at hlen
    simp only [scanMembers]
    split_ifs
    · rfl
    split
    · rfl
    rename_i key behind hkey
    have hk := length_scanString _ _ _ hkey
    have hskip := length_skipSpace behind
    split
    · rfl
    rename_i colon behind hcolon
    have hb := length_skipSpace behind
    rw [hcolon, List.length_cons] at hskip
    rw [ho depth (skipSpace behind) (by omega)]
    split_ifs
    · rfl
    split
    · rfl
    rename_i value rest hv
    have hr := (shrinks_scan limits calls').1 _ _ _ _ hv
    have hskip' := length_skipSpace rest
    split
    · rfl
    rename_i c behind hc
    have hb := length_skipSpace behind
    rw [hc, List.length_cons] at hskip'
    rw [hm depth (skipSpace behind) (by omega)]

theorem scan_nil (limits : Limits) (calls depth : ℕ) :
    scanOnce limits calls depth [] = .error .jsonDecode ∧
      scanItems limits calls depth [] = .error .jsonDecode ∧
      scanMembers limits calls depth [] = .error .jsonDecode := by
  have ho (calls : ℕ) : scanOnce limits calls depth [] = .error .jsonDecode := by
    cases calls <;> rfl
  refine ⟨ho calls, ?_, ?_⟩
  · cases calls with
    | zero => rfl
    | succ calls => simp only [scanItems, ho calls]
  · cases calls <;> rfl

/-- A text costs no more calls than twice its length and one: what the scanners do does not
change when they may make more. -/
theorem agree_scan (limits : Limits) (len : ℕ) : ∀ calls calls' : ℕ,
    (2*len+1 ≤ calls → 2*len+1 ≤ calls' →
      AgreeTo len (scanOnce limits calls) (scanOnce limits calls')) ∧
    (2*len+2 ≤ calls → 2*len+2 ≤ calls' →
      AgreeTo len (scanItems limits calls) (scanItems limits calls') ∧
      AgreeTo len (scanMembers limits calls) (scanMembers limits calls')) := by
  induction len with
  | zero =>
    have hnil : ∀ text : PyStr, text.length ≤ 0 → text = [] := fun text h =>
      List.eq_nil_of_length_eq_zero (Nat.le_zero.mp h)
    intro calls calls'
    refine ⟨fun _ _ depth text hlen => ?_, fun _ _ =>
      ⟨fun depth text hlen => ?_, fun depth text hlen => ?_⟩⟩
    all_goals
      obtain rfl := hnil text hlen
      simp only [scan_nil]
  | succ len ih =>
    have honce (calls calls' : ℕ) (hc : 2*(len+1)+1 ≤ calls) (hc' : 2*(len+1)+1 ≤ calls') :
        AgreeTo (len+1) (scanOnce limits calls) (scanOnce limits calls') := by
      obtain ⟨n, rfl⟩ := Nat.exists_eq_add_of_le' (show 1 ≤ calls by omega)
      obtain ⟨m, rfl⟩ := Nat.exists_eq_add_of_le' (show 1 ≤ calls' by omega)
      obtain ⟨hi, hm⟩ := (ih n m).2 (by omega) (by omega)
      exact agree_once limits len n m hi hm
    intro calls calls'
    refine ⟨honce calls calls', ?_⟩
    intro hc hc'
    obtain ⟨n, rfl⟩ := Nat.exists_eq_add_of_le' (show 1 ≤ calls by omega)
    obtain ⟨m, rfl⟩ := Nat.exists_eq_add_of_le' (show 1 ≤ calls' by omega)
    have ho := honce n m (by omega) (by omega)
    obtain ⟨hi, hm⟩ := (ih n m).2 (by omega) (by omega)
    exact ⟨agree_items limits (len+1) n m ho hi, agree_members limits (len+1) n m ho hm⟩

theorem scanOnce_callsFor (limits : Limits) (calls depth : ℕ) (text : PyStr)
    (h : callsFor text ≤ calls) :
    scanOnce limits calls depth text = scanOnce limits (callsFor text) depth text :=
  (agree_scan limits text.length calls (callsFor text)).1 h le_rfl depth text le_rfl

namespace Json

/-- `members.get(key, missing)`. The last member of a key is the one that counts. -/
def get (members : List (PyStr × Json)) (key : String) (missing : Json) : Json :=
  (members.reverse.lookup (codePoints key)).getD missing

/-- `str(value)`, where `textOf` writes floats, arrays and objects. -/
def toStr (textOf : Json → PyStr) : Json → PyStr
  | .null => codePoints "None"
  | .bool b => codePoints (if b then "True" else "False")
  | .int n => codePoints (toString n)
  | .str s => s
  | value => textOf value

/-- `int(value)`. -/
def toInt (limits : Limits) : Json → Except Raised ℤ
  | .bool b => .ok (if b then 1 else 0)
  | .int n => .ok n
  | .float (.finite value) => .ok (value.num.tdiv value.den)
  | .float .nan => .error .conversion
  | .float _ => .error .overflow
  | .str s =>
    match intOfText limits.maxStrDigits s with
    | some n => .ok n
    | none => .error .conversion
  | _ => .error .typeError

/-- `float(value)`. -/
def toFloat : Json → Except Raised PyFloat
  | .bool b => .ok (.finite (if b then 1 else 0))
  | .int n =>
    match PyFloat.ofInt n with
    | some x => .ok x
    | none => .error .overflow
  | .float x => .ok x
  | .str s =>
    match floatOfText s with
    | some x => .ok x
    | none => .error .conversion
  | _ => .error .typeError

end Json

end PyJson
