import PypnmCmts.PyConvert
import Mathlib.Data.List.Basic

/-! What the decoders of `PyConvert` make of a text that was written by the encoder: octets of
UTF-8 and octets in hexadecimal. -/
namespace PyConvert

/-- `text.encode("utf-8")`. -/
def utf8Octets (text : String) : List ℕ :=
  text.toList.flatMap fun c => (String.utf8EncodeChar c).map UInt8.toNat

theorem utf8Tail_cons {more low high code octet : ℕ} {rest : List ℕ}
    (h : low ≤ octet ∧ octet ≤ high) :
    utf8Tail (more+1) low high code (octet :: rest) =
      utf8Tail more 0x80 0xBF (code*64+(octet-0x80)) rest := by
  rw [utf8Tail, if_pos h]

theorem toNat_ofNat_of_lt {n : ℕ} (h : n < 256) : (UInt8.ofNat n).toNat = n := by
  rw [UInt8.toNat_ofNat']
  omega

/-- The octets of the code point `n`, where it is one of a character. -/
def encodeCode (n : ℕ) : List ℕ :=
  if n ≤ 0x7F then [n]
  else if n ≤ 0x7FF then [n/64+0xC0, n%64+0x80]
  else if n ≤ 0xFFFF then [n/4096+0xE0, n/64%64+0x80, n%64+0x80]
  else [n/262144+0xF0, n/4096%64+0x80, n/64%64+0x80, n%64+0x80]

theorem map_utf8EncodeChar (c : Char) :
    (String.utf8EncodeChar c).map UInt8.toNat = encodeCode c.val.toNat := by
  have hvalid : c.val.toNat < 0xD800 ∨ 0xDFFF < c.val.toNat ∧ c.val.toNat < 0x110000 := c.valid
  unfold String.utf8EncodeChar encodeCode
  dsimp only
  generalize c.val.toNat = n at hvalid ⊢
  split
  · rw [List.map_cons, List.map_nil, toNat_ofNat_of_lt (by omega)]
  split
  · rw [List.map_cons, List.map_cons, List.map_nil, toNat_ofNat_of_lt (by omega),
      toNat_ofNat_of_lt (by omega), Nat.mod_eq_of_lt (by omega : n/64 < 0x20)]
  split
  · rw [List.map_cons, List.map_cons, List.map_cons, List.map_nil, toNat_ofNat_of_lt (by omega),
      toNat_ofNat_of_lt (by omega), toNat_ofNat_of_lt (by omega),
      Nat.mod_eq_of_lt (by omega : n/4096 < 0x10)]
  · rw [List.map_cons, List.map_cons, List.map_cons, List.map_cons, List.map_nil,
      toNat_ofNat_of_lt (by omega), toNat_ofNat_of_lt (by omega), toNat_ofNat_of_lt (by omega),
      toNat_ofNat_of_lt (by omega), Nat.mod_eq_of_lt (by omega : n/262144 < 0x08)]

/-- What the first octet of a code point says of the octets behind it. -/
theorem utf8Lead_two {n : ℕ} (h : 0x7F < n) (h' : n ≤ 0x7FF) :
    utf8Lead (n/64+0xC0) = some (1, 0x80, 0xBF, n/64) := by
  unfold utf8Lead
  rw [if_neg (by omega), if_neg (by omega), if_pos (by omega), Nat.add_sub_cancel]

theorem utf8Lead_three {n : ℕ} (h : 0x7FF < n) (h' : n ≤ 0xFFFF)
    (hvalid : n < 0xD800 ∨ 0xDFFF < n) :
    ∃ low high, utf8Lead (n/4096+0xE0) = some (2, low, high, n/4096) ∧
      low ≤ n/64%64+0x80 ∧ n/64%64+0x80 ≤ high := by
  unfold utf8Lead
  rw [if_neg (by omega), if_neg (by omega), if_neg (by omega)]
  by_cases hfirst : n/4096 = 0
  · refine ⟨0xA0, 0xBF, ?_, by omega, by omega⟩
    rw [hfirst]
    rfl
  by_cases hsurrogates : n/4096 = 0xD
  · refine ⟨0x80, 0x9F, ?_, by omega, by omega⟩
    rw [hsurrogates]
    rfl
  · refine ⟨0x80, 0xBF, ?_, by omega, by omega⟩
    rw [if_neg (by omega), if_neg (by omega), if_pos (by omega), Nat.add_sub_cancel]

theorem utf8Lead_four {n : ℕ} (h : 0xFFFF < n) (h' : n < 0x110000) :
    ∃ low high, utf8Lead (n/262144+0xF0) = some (3, low, high, n/262144) ∧
      low ≤ n/4096%64+0x80 ∧ n/4096%64+0x80 ≤ high := by
  unfold utf8Lead
  rw [if_neg (by omega), if_neg (by omega), if_neg (by omega), if_neg (by omega),
    if_neg (by omega), if_neg (by omega)]
  by_cases hfirst : n/262144 = 0
  · refine ⟨0x90, 0xBF, ?_, by omega, by omega⟩
    rw [hfirst]
    rfl
  by_cases hlast : n/262144 = 4
  · refine ⟨0x80, 0x8F, ?_, by omega, by omega⟩
    rw [hlast]
    rfl
  · refine ⟨0x80, 0xBF, ?_, by omega, by omega⟩
    rw [if_neg (by omega), if_pos (by omega), Nat.add_sub_cancel]

/-- The first step takes the octets of the first code point and no more. -/
theorem utf8Step_encodeCode {n : ℕ} (hvalid : n < 0xD800 ∨ 0xDFFF < n ∧ n < 0x110000)
    (rest : List ℕ) :
    ∃ octet octets, encodeCode n = octet :: octets ∧
      utf8Step octet (octets ++ rest) = (Char.ofNat n, rest) := by
  unfold encodeCode
  split
  next hone =>
    refine ⟨n, [], rfl, ?_⟩
    rw [utf8Step, utf8Lead, if_pos (by omega)]
    rfl
  split
  next htwo =>
    refine ⟨_, _, rfl, ?_⟩
    have hcode : n/64*64+(n%64+0x80-0x80) = n := by omega
    rw [utf8Step, utf8Lead_two (by omega) htwo]
    dsimp only
    rw [List.cons_append, utf8Tail_cons ⟨by omega, by omega⟩, hcode]
    rfl
  split
  next hthree =>
    refine ⟨_, _, rfl, ?_⟩
    obtain ⟨low, high, hlead, hlow, hhigh⟩ := utf8Lead_three (by omega) hthree (by omega)
    have hcode : (n/4096*64+(n/64%64+0x80-0x80))*64+(n%64+0x80-0x80) = n := by omega
    rw [utf8Step, hlead]
    dsimp only
    rw [List.cons_append, utf8Tail_cons ⟨hlow, hhigh⟩, List.cons_append,
      utf8Tail_cons ⟨by omega, by omega⟩, hcode]
    rfl
  next hfour =>
    refine ⟨_, _, rfl, ?_⟩
    obtain ⟨low, high, hlead, hlow, hhigh⟩ := utf8Lead_four (n := n) (by omega) (by omega)
    have hcode : ((n/262144*64+(n/4096%64+0x80-0x80))*64+(n/64%64+0x80-0x80))*64+
        (n%64+0x80-0x80) = n := by omega
    rw [utf8Step, hlead]
    dsimp only
    rw [List.cons_append, utf8Tail_cons ⟨hlow, hhigh⟩, List.cons_append,
      utf8Tail_cons ⟨by omega, by omega⟩, List.cons_append, utf8Tail_cons ⟨by omega, by omega⟩,
      hcode]
    rfl

theorem utf8Octets_ofList (cs : List Char) :
    utf8Octets (String.ofList cs) = cs.flatMap fun c => encodeCode c.val.toNat := by
  unfold utf8Octets
  rw [String.toList_ofList]
  simp only [map_utf8EncodeChar]

theorem utf8Octets_eq (text : String) :
    utf8Octets text = text.toList.flatMap fun c => encodeCode c.val.toNat := by
  have hoctets := utf8Octets_ofList text.toList
  rwa [String.ofList_toList] at hoctets

/-- A decoder that takes the encoding of a character for this character, wherever it stands, takes
the encoding of a text for this text. -/
theorem decoder_encode {decode : ℕ → List ℕ → List Char} (hnil : ∀ n, decode n [] = [])
    (hcons : ∀ n (c : Char) octet octets rest, encodeCode c.val.toNat = octet :: octets →
      utf8Step octet (octets ++ rest) = (Char.ofNat c.val.toNat, rest) →
      decode (n+1) (octet :: (octets ++ rest)) = c :: decode n rest)
    (cs : List Char) {n : ℕ}
    (hn : (cs.flatMap fun c => encodeCode c.val.toNat).length ≤ n) :
    decode n (cs.flatMap fun c => encodeCode c.val.toNat) = cs := by
  induction cs generalizing n with
  | nil => exact hnil n
  | cons c cs ih =>
    obtain ⟨octet, octets, hcode, hstep⟩ := utf8Step_encodeCode c.valid
      (cs.flatMap fun c => encodeCode c.val.toNat)
    rw [List.flatMap_cons, hcode, List.cons_append, List.length_cons, List.length_append] at hn
    rw [List.flatMap_cons, hcode, List.cons_append]
    cases n with
    | zero => omega
    | succ n => rw [hcons n c octet octets _ hcode hstep, ih (by omega)]

theorem decodeSteps_encode (cs : List Char) {n : ℕ}
    (hn : (cs.flatMap fun c => encodeCode c.val.toNat).length ≤ n) :
    decodeSteps n (cs.flatMap fun c => encodeCode c.val.toNat) = cs := by
  refine decoder_encode (fun n => by cases n <;> rfl) ?_ cs hn
  intro n c octet octets rest _ hstep
  rw [decodeSteps, hstep]
  exact congrArg (· :: decodeSteps n rest) (Char.ofNat_toNat c)

/-- Decoding undoes encoding. -/
theorem decodeUtf8_utf8Octets (text : String) : decodeUtf8 (utf8Octets text) = text := by
  rw [decodeUtf8, utf8Octets_eq, decodeSteps_encode text.toList le_rfl, String.ofList_toList]

/-- The characters of a text, without what cannot be decoded. A step that comes to a replacement
character has failed, unless the octets are those of that character. -/
def ignoreSteps : ℕ → List ℕ → List Char
  | 0, _ => []
  | _+1, [] => []
  | n+1, octet :: rest =>
    let step := utf8Step octet rest
    let taken := (octet :: rest).take ((octet :: rest).length-step.2.length)
    if step.1 = replacementChar ∧ taken ≠ [0xEF, 0xBF, 0xBD] then ignoreSteps n step.2
    else step.1 :: ignoreSteps n step.2

/-- `bytes(octets).decode("utf-8", errors="ignore")`. -/
def decodeUtf8Ignore (octets : List ℕ) : String :=
  String.ofList (ignoreSteps octets.length octets)

example : decodeUtf8Ignore [0x4E, 0xC3, 0xB6, 0xFF, 0xEF, 0xBF, 0xBD, 0xE2, 0x82] = "Nö\uFFFD" := by
  decide +kernel

theorem ignoreSteps_encode (cs : List Char) {n : ℕ}
    (hn : (cs.flatMap fun c => encodeCode c.val.toNat).length ≤ n) :
    ignoreSteps n (cs.flatMap fun c => encodeCode c.val.toNat) = cs := by
  refine decoder_encode (fun n => by cases n <;> rfl) ?_ cs hn
  intro n c octet octets rest hcode hstep
  have hc : Char.ofNat c.val.toNat = c := Char.ofNat_toNat c
  have htaken : (octet :: (octets ++ rest)).take
      ((octet :: (octets ++ rest)).length-rest.length) = octet :: octets := by
    rw [← List.cons_append]
    apply List.take_left'
    rw [List.length_append]
    omega
  -- a replacement character in the text is one that has been encoded
  have hkept : ¬ (Char.ofNat c.val.toNat = replacementChar ∧
      octet :: octets ≠ [0xEF, 0xBF, 0xBD]) := by
    intro ⟨hreplacement, hoctets⟩
    rw [hc] at hreplacement
    rw [← hcode, hreplacement] at hoctets
    exact hoctets (by decide)
  rw [ignoreSteps, hstep]
  dsimp only
  rw [htaken, if_neg hkept, hc]

/-- Nothing of a text that has been encoded is left out. -/
theorem decodeUtf8Ignore_utf8Octets (text : String) :
    decodeUtf8Ignore (utf8Octets text) = text := by
  rw [decodeUtf8Ignore, utf8Octets_eq, ignoreSteps_encode text.toList le_rfl, String.ofList_toList]

/-- The octet zero stands for the character zero only. -/
theorem zero_mem_utf8Octets {text : String} (h : 0 ∈ utf8Octets text) :
    Char.ofNat 0 ∈ text.toList := by
  rw [utf8Octets_eq] at h
  obtain ⟨c, hc, hzero⟩ := List.mem_flatMap.mp h
  have hcode : c.val.toNat = 0 := by
    unfold encodeCode at hzero
    split at hzero
    · exact (List.mem_singleton.mp hzero).symm
    split at hzero
    · simp only [List.mem_cons, List.not_mem_nil, or_false] at hzero
      omega
    split at hzero
    · simp only [List.mem_cons, List.not_mem_nil, or_false] at hzero
      omega
    · simp only [List.mem_cons, List.not_mem_nil, or_false] at hzero
      omega
  have hback : Char.ofNat c.val.toNat = c := Char.ofNat_toNat c
  rw [hcode] at hback
  rwa [hback]

theorem le_of_mem_utf8Octets {text : String} {octet : ℕ} (h : octet ∈ utf8Octets text) :
    octet ≤ 255 := by
  obtain ⟨c, -, hc⟩ := List.mem_flatMap.mp h
  obtain ⟨byte, -, rfl⟩ := List.mem_map.mp hc
  have hbyte := byte.toNat_lt
  omega

theorem utf8Octets_eq_nil {text : String} : utf8Octets text = [] ↔ text = "" := by
  constructor
  · intro h
    have hback := decodeUtf8_utf8Octets text
    rw [h] at hback
    exact hback.symm
  · intro h
    rw [h]
    rfl

/-- An octet as two hexadecimal digits. -/
def hexOctet (octet : ℕ) : List Char := [Nat.digitChar (octet/16), Nat.digitChar (octet%16)]

theorem length_hexOctets (octets : List ℕ) :
    (octets.flatMap hexOctet).length = 2*octets.length := by
  induction octets with
  | nil => rfl
  | cons octet octets ih =>
    have hlength : (hexOctet octet).length = 2 := rfl
    rw [List.flatMap_cons, List.length_append, hlength, ih, List.length_cons]
    omega

theorem digitOf_digitChar {d : ℕ} (h : d < 16) :
    digitOf 16 (Nat.digitChar d) = some d ∧ isAsciiSpace (Nat.digitChar d) = false := by
  have hall : ∀ d < 16, digitOf 16 (Nat.digitChar d) = some d ∧
      isAsciiSpace (Nat.digitChar d) = false := by decide
  exact hall d h

/-- Reading in hexadecimal undoes writing. -/
theorem fromHex_hexOctets {octets : List ℕ} (h : ∀ octet ∈ octets, octet ≤ 255) :
    fromHex (octets.flatMap hexOctet) = some octets := by
  induction octets with
  | nil => rfl
  | cons octet octets ih =>
    have hoctet := h octet List.mem_cons_self
    obtain ⟨hhigh, hspace⟩ := digitOf_digitChar (by omega : octet/16 < 16)
    obtain ⟨hlow, -⟩ := digitOf_digitChar (by omega : octet%16 < 16)
    have hvalue : octet/16*16+octet%16 = octet := by omega
    rw [List.flatMap_cons, hexOctet, List.cons_append, List.cons_append, List.nil_append, fromHex,
      hspace, if_neg Bool.false_ne_true, hhigh, hlow]
    dsimp only
    rw [ih fun o ho => h o (List.mem_cons_of_mem _ ho), hvalue]
    rfl

/-- Each octet takes two digits at least. -/
theorem length_fromHex {text : List Char} {octets : List ℕ} (h : fromHex text = some octets) :
    2*octets.length ≤ text.length := by
  fun_induction fromHex text generalizing octets with
  | case1 => cases h; rfl
  | case2 c hspace => cases h; exact Nat.zero_le _
  | case3 c hspace => cases h
  | case4 c d cs hspace ih =>
    have hlength := ih h
    rw [List.length_cons]
    omega
  | case5 c d cs hspace high low hhigh hlow ih =>
    obtain ⟨tail, htail, rfl⟩ := Option.map_eq_some_iff.mp h
    have hlength := ih htail
    rw [List.length_cons, List.length_cons, List.length_cons]
    omega
  | case6 => cases h

/-- Each number takes a digit and what parts it from the next one. -/
theorem length_findNumbers (text : List Char) (pending : Option ℕ) :
    2*(findNumbers text pending).length ≤ text.length+1+pending.toList.length := by
  induction text generalizing pending with
  | nil =>
    cases pending with
    | none => exact Nat.zero_le _
    | some n => exact le_rfl
  | cons c cs ih =>
    rw [findNumbers, List.length_cons]
    split
    next digit hdigit =>
      have hlength := ih (some (pending.getD 0*10+digit))
      rw [Option.toList_some, List.length_singleton] at hlength
      omega
    next =>
      have hlength := ih none
      have hpending := pending.length_toList_le
      rw [Option.toList_none, List.length_nil] at hlength
      rw [List.length_append]
      omega

end PyConvert
