import PypnmCmts.JsonDumps

/-! What `json.loads` returns can be dumped and loaded again, if only its floats are written as
texts that `float` takes back to them. -/
namespace PyJson
open PyNumber

/-- The characters of a text that was decoded. -/
def Chars (text : PyStr) : Prop := ∀ c ∈ text, c ≤ 0x10FFFF

section Strings

theorem Chars.tail {c : ℕ} {text : PyStr} (h : Chars (c :: text)) : Chars text :=
  fun d hd => h d (List.mem_cons_of_mem c hd)

theorem Chars.cons {c : ℕ} {text : PyStr} (hc : c ≤ 0x10FFFF) (h : Chars text) :
    Chars (c :: text) := by
  intro d hd
  rcases List.mem_cons.mp hd with rfl | hd
  · exact hc
  · exact h d hd

theorem Chars.dropWhile {text : PyStr} (h : Chars text) (p : ℕ → Bool) : Chars (text.dropWhile p) :=
  fun c hc => h c ((List.dropWhile_suffix p).subset hc)

theorem Chars.skipSpace {text : PyStr} (h : Chars text) : Chars (skipSpace text) :=
  h.dropWhile isSpace

theorem hexDigit_lt {c d : ℕ} (h : hexDigit c = some d) : d < 16 := by
  have hzero : '0'.toNat = 48 ∧ '9'.toNat = 57 := by decide
  have hlower : 'a'.toNat = 97 ∧ 'f'.toNat = 102 := by decide
  have hupper : 'A'.toNat = 65 ∧ 'F'.toNat = 70 := by decide
  simp only [hexDigit, isDigit, decide_eq_true_eq] at h
  split_ifs at h
  all_goals
    have hd := Option.some.inj h
    omega

theorem hexUnit_lt {a b c d unit : ℕ} (h : hexUnit a b c d = some unit) : unit < 0x10000 := by
  simp only [hexUnit, Option.bind_eq_bind, Option.bind_eq_some_iff, Option.pure_def,
    Option.some.injEq] at h
  obtain ⟨a', ha, b', hb, c', hc, d', hd, rfl⟩ := h
  have ha' := hexDigit_lt ha
  have hb' := hexDigit_lt hb
  have hc' := hexDigit_lt hc
  have hd' := hexDigit_lt hd
  omega

theorem escaped_le {c unit : ℕ} (hc : c ≤ 0x10FFFF) (h : escaped c = some unit) :
    unit ≤ 0x10FFFF := by
  simp only [escaped] at h
  split_ifs at h
  all_goals
    have hunit := Option.some.inj h
    omega

theorem chars_scanUnits (text units rest : PyStr) (hchars : Chars text)
    (h : scanUnits text = some (units, rest)) : Chars units ∧ Chars rest := by
  fun_induction scanUnits text generalizing units rest with
  | case1 => cases h
  | case2 text =>
    obtain ⟨rfl, rfl⟩ := Prod.mk.inj (Option.some.inj h)
    exact ⟨fun c hc => (by cases hc), hchars.tail⟩
  | case3 => cases h
  | case4 a b c d behind unit units' rest' hscan hhex hback ih =>
    obtain ⟨rfl, rfl⟩ := Prod.mk.inj (Option.some.inj h)
    have hbehind : Chars behind := hchars.tail.tail.tail.tail.tail.tail
    obtain ⟨hunits, hrest⟩ := ih _ _ hbehind hscan
    have hlt := hexUnit_lt hhex
    exact ⟨Chars.cons (by omega) hunits, hrest⟩
  | case5 => cases h
  | case6 => cases h
  | case7 e behind hu unit units' rest' hscan hescaped hback ih =>
    obtain ⟨rfl, rfl⟩ := Prod.mk.inj (Option.some.inj h)
    obtain ⟨hunits, hrest⟩ := ih _ _ hchars.tail.tail hscan
    have hle := escaped_le (hchars.tail e List.mem_cons_self) hescaped
    exact ⟨Chars.cons hle hunits, hrest⟩
  | case8 => cases h
  | case9 => cases h
  | case10 c behind hquote hback hcontrol units' rest' hscan ih =>
    obtain ⟨rfl, rfl⟩ := Prod.mk.inj (Option.some.inj h)
    obtain ⟨hunits, hrest⟩ := ih _ _ hchars.tail hscan
    exact ⟨Chars.cons (hchars _ List.mem_cons_self) hunits, hrest⟩
  | case11 => cases h

/-- A pair that is left is none: its second half would have been joined to the first. -/
theorem text_joinSurrogates {units : PyStr} (h : Chars units) : Text (joinSurrogates units) := by
  fun_induction joinSurrogates units with
  | case1 high low units hpair ih =>
    have hle : 0x10000+(high-0xD800)*0x400+(low-0xDC00) ≤ 0x10FFFF := by omega
    refine ⟨hle, ?_, ih h.tail.tail⟩
    intro hboth
    omega
  | case2 high low units hpair ih =>
    refine ⟨h high List.mem_cons_self, ?_, ih h.tail⟩
    intro ⟨hhigh, hlow⟩
    -- the text behind begins with `low` or with a character of its own plane
    have hhead : ∀ c ∈ (joinSurrogates (low :: units)).head?, c = low ∨ 0x10000 ≤ c := by
      intro c hc
      cases units with
      | nil => exact Or.inl (Option.some.inj hc).symm
      | cons next units =>
        rw [joinSurrogates] at hc
        split at hc
        · exact Or.inr (by have hcode := Option.some.inj hc; omega)
        · exact Or.inl (Option.some.inj hc).symm
    cases hrest : (joinSurrogates (low :: units)).head? with
    | none => simp [hrest] at hlow
    | some c =>
      rw [hrest, Option.any_some] at hlow
      have hc := hhead c hrest
      simp only [isLow, decide_eq_true_eq] at hlow
      omega
  | case3 units hshort =>
    cases units with
    | nil => trivial
    | cons c units =>
      cases units with
      | nil => exact ⟨h c List.mem_cons_self, by simp, trivial⟩
      | cons d units => exact absurd rfl (hshort c d units)

theorem text_scanString {text s rest : PyStr} (hchars : Chars text)
    (h : scanString text = .ok (s, rest)) : Text s ∧ Chars rest := by
  rw [scanString] at h
  split at h
  · next units behind hscan =>
    obtain ⟨rfl, rfl⟩ := Prod.mk.inj (Except.ok.inj h)
    obtain ⟨hunits, hbehind⟩ := chars_scanUnits _ _ _ hchars hscan
    exact ⟨text_joinSurrogates hunits, hbehind⟩
  · cases h

end Strings

section Numbers

theorem digitOf_ten {c : Char} {d : ℕ} (h : PyConvert.digitOf 10 c = some d) :
    PyNumber.isDigit c = true ∧ d < 10 := by
  rw [PyConvert.digitOf, Option.filter_eq_some_iff] at h
  obtain ⟨hvalue, hlt⟩ := h
  have hd : d < 10 := of_decide_eq_true hlt
  refine ⟨?_, hd⟩
  -- the letters stand for ten and more
  rw [PyConvert.digitValue] at hvalue
  split_ifs at hvalue with hdigit hlower hupper
  · exact decide_eq_true hdigit
  · have hvalue' := Option.some.inj hvalue
    omega
  · have hvalue' := Option.some.inj hvalue
    omega

theorem parseDigits_lt {cs : List Char} {value n places : ℕ} {afterDigit : Bool}
    (hvalue : value < 10^places) (h : PyConvert.parseDigits 10 cs value afterDigit = some n) :
    n < 10^(places+(cs.filter PyNumber.isDigit).length) := by
  induction cs generalizing value afterDigit places with
  | nil =>
    rw [PyConvert.parseDigits] at h
    split_ifs at h
    rw [← Option.some.inj h]
    exact hvalue
  | cons c cs ih =>
    rw [PyConvert.parseDigits] at h
    split_ifs at h with hunder hafter
    · have hnot : PyNumber.isDigit c = false := by
        rw [hunder]
        decide
      rw [List.filter_cons_of_neg (by simp [hnot])]
      exact ih hvalue h
    · cases hdigit : PyConvert.digitOf 10 c with
      | none => simp [hdigit] at h
      | some d =>
        rw [hdigit] at h
        obtain ⟨hc, hd⟩ := digitOf_ten hdigit
        have hnext : value*10+d < 10^(places+1) := by
          rw [Nat.pow_succ]
          omega
        have hlt := ih hnext h
        rw [List.filter_cons_of_pos hc, List.length_cons]
        have hexponent : places+1+(cs.filter PyNumber.isDigit).length =
            places+((cs.filter PyNumber.isDigit).length+1) := by omega
        rwa [hexponent] at hlt

theorem signed_lt {cs : List Char} {n : ℤ}
    (h : PyConvert.signed (fun cs => PyConvert.parseDigits 10 cs 0 false) cs = some n) :
    n.natAbs < 10^(cs.filter PyNumber.isDigit).length := by
  have hparse (cs : List Char) (m : ℕ) (hm : PyConvert.parseDigits 10 cs 0 false = some m) :
      m < 10^(cs.filter PyNumber.isDigit).length := by
    have hstart : 0 < 10^0 := by decide
    have hlt := parseDigits_lt hstart hm
    rwa [Nat.zero_add] at hlt
  unfold PyConvert.signed at h
  split at h
  all_goals
    simp only [Option.map_eq_some_iff, Option.bind_eq_bind, Option.bind_eq_some_iff,
      Option.pure_def, Option.some.injEq] at h
    obtain ⟨-, ⟨m, hm, rfl⟩, rfl⟩ := h
    have hlt := hparse _ m hm
  · rw [List.filter_cons_of_neg (by decide)]
    exact hlt
  · rw [List.filter_cons_of_neg (by decide), Int.natAbs_neg]
    exact hlt
  · exact hlt

/-- What was converted can be written. -/
theorem convertible_of_intOfText {limits : Limits} {text : PyStr} {n : ℤ}
    (h : intOfText limits.maxStrDigits text = some n) : Convertible limits n := by
  rw [intOfText] at h
  split_ifs at h with hlong
  have hlt := signed_lt h
  by_cases hmax : limits.maxStrDigits = 0
  · exact Or.inl hmax
  · have hdigits : ((numberText text).filter PyNumber.isDigit).length ≤ limits.maxStrDigits := by
      by_contra hover
      exact hlong ⟨hmax, not_le.mp hover⟩
    have hbound := hlt.trans_le (Nat.pow_le_pow_right (by decide) hdigits)
    exact Or.inr ((Nat.length_toDigits_le_iff (by decide) (Nat.pos_of_ne_zero hmax)).mpr hbound)

theorem chars_scanDigits {lead text : PyStr} (hlead : Chars lead) (htext : Chars text) :
    Chars (scanDigits lead text).2 := by
  rw [scanDigits]
  split
  · intro c hc
    rcases List.mem_append.mp hc with hc | hc
    · exact hlead c hc
    · exact htext c hc
  · exact htext.dropWhile isDigit

theorem chars_scanFraction {text : PyStr} (h : Chars text) : Chars (scanFraction text).2 := by
  cases text with
  | nil => exact h
  | cons c text =>
    rw [scanFraction]
    split
    · exact chars_scanDigits (Chars.cons (h c List.mem_cons_self) fun _ hc => by cases hc) h.tail
    · exact h

theorem chars_scanExponent {text : PyStr} (h : Chars text) : Chars (scanExponent text).2 := by
  have hnil : Chars [] := fun c hc => by cases hc
  cases text with
  | nil => exact h
  | cons e text =>
    have he := h e List.mem_cons_self
    rw [scanExponent.eq_def]
    dsimp only
    split
    · cases text with
      | nil => exact h
      | cons sign digits =>
        dsimp only
        split
        · exact chars_scanDigits (Chars.cons he (Chars.cons (h.tail sign List.mem_cons_self) hnil))
            h.tail.tail
        · exact chars_scanDigits (Chars.cons he hnil) h.tail
    · exact h

theorem chars_scanSign {text : PyStr} (h : Chars text) : Chars (scanSign text).2 := by
  cases text with
  | nil => exact h
  | cons c text =>
    rw [scanSign]
    split
    · exact h.tail
    · exact h

theorem chars_scanWhole {text whole rest : PyStr} (h : Chars text)
    (hscan : scanWhole text = some (whole, rest)) : Chars rest := by
  cases text with
  | nil => cases hscan
  | cons c text =>
    rw [scanWhole] at hscan
    split_ifs at hscan
    · obtain ⟨-, rfl⟩ := Prod.mk.inj (Option.some.inj hscan)
      exact h.tail
    · obtain ⟨-, rfl⟩ := Prod.mk.inj (Option.some.inj hscan)
      exact h.dropWhile isDigit

end Numbers

section Values
variable (style : JsonStyle)

mutual

/-- All floats of a value are written as texts that are read back. -/
def Represented : Json → Prop
  | .float (.finite x) => FloatText (style.floatRepr x) x
  | .array items => RepresentedItems items
  | .object members => RepresentedMembers members
  | _ => True

def RepresentedItems : List Json → Prop
  | [] => True
  | item :: items => Represented item ∧ RepresentedItems items

def RepresentedMembers : List (PyStr × Json) → Prop
  | [] => True
  | (_, value) :: members => Represented value ∧ RepresentedMembers members

end

variable {style} {limits : Limits}

theorem scanNumber_writable {text rest : PyStr} {value : Json} (hchars : Chars text)
    (h : scanNumber limits text = .ok (value, rest)) (depth : ℕ) :
    Chars rest ∧ (Represented style value → Writable limits style depth value) := by
  simp only [scanNumber] at h
  split at h
  · cases h
  next whole behind hwhole =>
  have hbehind := chars_scanWhole (chars_scanSign hchars) hwhole
  have hrest := chars_scanExponent (chars_scanFraction hbehind)
  split_ifs at h
  · split at h
    · next n hint =>
      obtain ⟨rfl, rfl⟩ := Prod.mk.inj (Except.ok.inj h)
      exact ⟨hrest, fun _ => convertible_of_intOfText hint⟩
    · cases h
  · split at h
    · next x hfloat =>
      obtain ⟨rfl, rfl⟩ := Prod.mk.inj (Except.ok.inj h)
      refine ⟨hrest, fun hx => ?_⟩
      cases x with
      | finite x => exact hx
      | _ => trivial
    · cases h

theorem scanConstant_writable {text rest : PyStr} {value : Json} (hchars : Chars text)
    (h : scanConstant text = some (value, rest)) (depth : ℕ) :
    Chars rest ∧ Writable limits style depth value := by
  obtain ⟨⟨word, constant⟩, hmem, hfound⟩ := List.exists_of_findSome?_eq_some h
  obtain ⟨behind, hdrop, hpair⟩ := Option.map_eq_some_iff.mp hfound
  obtain ⟨rfl, rfl⟩ := Prod.mk.inj hpair
  rw [dropText] at hdrop
  split_ifs at hdrop
  obtain rfl := Option.some.inj hdrop
  refine ⟨fun c hc => hchars c (List.mem_of_mem_drop hc), ?_⟩
  have hconstants : ∀ entry ∈ constants, Writable limits style depth entry.2 := by
    simp [constants, Writable]
  exact hconstants _ hmem

/-- What each of the scanners returns can be written, if its floats can. -/
def WritesValues (limits : Limits) (style : JsonStyle) (calls : ℕ) : Prop :=
  ∀ depth text value rest, Chars text → scanOnce limits calls depth text = .ok (value, rest) →
    Chars rest ∧ (Represented style value → Writable limits style depth value)

def WritesItems (limits : Limits) (style : JsonStyle) (calls : ℕ) : Prop :=
  ∀ depth text items rest, Chars text → scanItems limits calls depth text = .ok (items, rest) →
    Chars rest ∧ (RepresentedItems style items → WritableItems limits style depth items)

def WritesMembers (limits : Limits) (style : JsonStyle) (calls : ℕ) : Prop :=
  ∀ depth text members rest, Chars text → scanMembers limits calls depth text =
    .ok (members, rest) →
    Chars rest ∧ (RepresentedMembers style members → WritableMembers limits style depth members)

theorem writesValues_succ {calls : ℕ} (hi : WritesItems limits style calls)
    (hm : WritesMembers limits style calls) : WritesValues limits style (calls+1) := by
  intro depth text value rest hchars h
  rcases text with _ | ⟨c, text⟩
  · simp only [scanOnce, reduceCtorEq] at h
  rw [scanOnce.eq_def] at h
  dsimp only at h
  have hspace : Chars (skipSpace text) := hchars.tail.skipSpace
  have hclose : Chars (skipSpace text).tail := fun d hd => hspace d (List.mem_of_mem_tail hd)
  by_cases hquote : c = '"'.toNat
  · rw [if_pos hquote] at h
    split at h
    · next s behind hs =>
      obtain ⟨rfl, rfl⟩ := Prod.mk.inj (Except.ok.inj h)
      obtain ⟨htext, hbehind⟩ := text_scanString hchars.tail hs
      exact ⟨hbehind, fun _ => htext⟩
    · cases h
  rw [if_neg hquote] at h
  by_cases hopen : c = '['.toNat ∨ c = '{'.toNat
  · rw [if_pos hopen] at h
    cases depth with
    | zero => cases h
    | succ depth =>
      dsimp only at h
      have hdepth : 0 < depth+1 := Nat.succ_pos depth
      split_ifs at h
      · obtain ⟨rfl, rfl⟩ := Prod.mk.inj (Except.ok.inj h)
        exact ⟨hclose, fun _ => ⟨hdepth, trivial⟩⟩
      · split at h
        · next items behind hitems =>
          obtain ⟨rfl, rfl⟩ := Prod.mk.inj (Except.ok.inj h)
          obtain ⟨hbehind, hwrite⟩ := hi _ _ _ _ hspace hitems
          exact ⟨hbehind, fun hr => ⟨hdepth, hwrite hr⟩⟩
        · cases h
      · obtain ⟨rfl, rfl⟩ := Prod.mk.inj (Except.ok.inj h)
        exact ⟨hclose, fun _ => ⟨hdepth, trivial⟩⟩
      · split at h
        · next members behind hmembers =>
          obtain ⟨rfl, rfl⟩ := Prod.mk.inj (Except.ok.inj h)
          obtain ⟨hbehind, hwrite⟩ := hm _ _ _ _ hspace hmembers
          exact ⟨hbehind, fun hr => ⟨hdepth, hwrite hr⟩⟩
        · cases h
  rw [if_neg hopen] at h
  split at h
  · next found hfound =>
    obtain ⟨value', behind⟩ := found
    obtain ⟨rfl, rfl⟩ := Prod.mk.inj (Except.ok.inj h)
    obtain ⟨hbehind, hwrite⟩ := scanConstant_writable hchars hfound depth
    exact ⟨hbehind, fun _ => hwrite⟩
  · exact scanNumber_writable hchars h depth

theorem writesItems_succ {calls : ℕ} (hv : WritesValues limits style calls)
    (hi : WritesItems limits style calls) : WritesItems limits style (calls+1) := by
  intro depth text items rest hchars h
  rw [scanItems] at h
  split at h
  · cases h
  next value behind hvalue =>
  obtain ⟨hbehind, hwrite⟩ := hv _ _ _ _ hchars hvalue
  have hspace := hbehind.skipSpace
  split at h
  · cases h
  next c after hafter =>
  rw [hafter] at hspace
  split_ifs at h
  · obtain ⟨rfl, rfl⟩ := Prod.mk.inj (Except.ok.inj h)
    exact ⟨hspace.tail, fun hr => ⟨hwrite hr.1, trivial⟩⟩
  · split at h
    · next items' behind' hitems =>
      obtain ⟨rfl, rfl⟩ := Prod.mk.inj (Except.ok.inj h)
      obtain ⟨hbehind', hwrite'⟩ := hi _ _ _ _ hspace.tail.skipSpace hitems
      exact ⟨hbehind', fun hr => ⟨hwrite hr.1, hwrite' hr.2⟩⟩
    · cases h

theorem writesMembers_succ {calls : ℕ} (hv : WritesValues limits style calls)
    (hm : WritesMembers limits style calls) : WritesMembers limits style (calls+1) := by
  intro depth text members rest hchars h
  rcases text with _ | ⟨quote, text⟩
  · simp only [scanMembers, reduceCtorEq] at h
  rw [scanMembers] at h
  split_ifs at h
  split at h
  · cases h
  next key behind hkey =>
  obtain ⟨htext, hbehind⟩ := text_scanString hchars.tail hkey
  have hspace := hbehind.skipSpace
  split at h
  · cases h
  next colon after hafter =>
  rw [hafter] at hspace
  split_ifs at h
  split at h
  · cases h
  next value behind' hvalue =>
  obtain ⟨hbehind', hwrite⟩ := hv _ _ _ _ hspace.tail.skipSpace hvalue
  have hspace' := hbehind'.skipSpace
  split at h
  · cases h
  next c after' hafter' =>
  rw [hafter'] at hspace'
  split_ifs at h
  · obtain ⟨rfl, rfl⟩ := Prod.mk.inj (Except.ok.inj h)
    exact ⟨hspace'.tail, fun hr => ⟨htext, hwrite hr.1, trivial⟩⟩
  · split at h
    · next members' behind'' hmembers =>
      obtain ⟨rfl, rfl⟩ := Prod.mk.inj (Except.ok.inj h)
      obtain ⟨hbehind'', hwrite'⟩ := hm _ _ _ _ hspace'.tail.skipSpace hmembers
      exact ⟨hbehind'', fun hr => ⟨htext, hwrite hr.1, hwrite' hr.2⟩⟩
    · cases h

theorem writes_scan (limits : Limits) (style : JsonStyle) (calls : ℕ) :
    WritesValues limits style calls ∧ WritesItems limits style calls ∧
      WritesMembers limits style calls := by
  induction calls with
  | zero => exact ⟨by simp [WritesValues, scanOnce], by simp [WritesItems, scanItems],
      by simp [WritesMembers, scanMembers]⟩
  | succ calls ih =>
    exact ⟨writesValues_succ ih.2.1 ih.2.2, writesItems_succ ih.1 ih.2.1,
      writesMembers_succ ih.1 ih.2.2⟩

/-- What is loaded can be dumped, as deep as it is, if its floats can. -/
theorem writable_of_loads {text : PyStr} {value : Json} (hchars : Chars text)
    (h : loads limits text = .ok value) (hfloats : Represented style value) :
    Writable limits style (limits.recursionLeft+1) value := by
  rw [loads] at h
  split_ifs at h
  dsimp only at h
  split at h
  · cases h
  next value' rest hscan =>
  split_ifs at h
  obtain rfl := Except.ok.inj h
  exact ((writes_scan limits style _).1 _ _ _ _ hchars.skipSpace hscan).2 hfloats

end Values

section Octets

/-- No character that a sequence may still end as is beyond the last code point. -/
def Fits : Option (ℕ × ℕ × ℕ × ℕ) → Prop
  | none => True
  | some (more, _, high, code) => (code*64+(high-0x80)+1)*64^more ≤ 0x110000

theorem fits_utf8Lead {octet more low high code : ℕ}
    (h : PyConvert.utf8Lead octet = some (more+1, low, high, code)) :
    Fits (some (more, low, high, code)) := by
  simp only [PyConvert.utf8Lead] at h
  split_ifs at h
  all_goals
    simp only [Option.some.injEq, Prod.mk.injEq] at h
    obtain ⟨hmore, -, rfl, rfl⟩ := h
    obtain rfl | rfl | rfl : more = 0 ∨ more = 1 ∨ more = 2 := by omega
  all_goals
    simp only [Fits, Nat.reducePow]
    omega

theorem chars_decodeFrom (state : Option (ℕ × ℕ × ℕ × ℕ)) (octets : List UInt8) (text : PyStr)
    (hfits : Fits state) (h : decodeFrom state octets = some text) : Chars text := by
  fun_induction decodeFrom state octets generalizing text with
  | case1 =>
    rw [← Option.some.inj h]
    intro c hc
    cases hc
  | case2 => cases h
  | case3 => cases h
  | case4 octet octets low high code hlead ih =>
    obtain ⟨behind, hbehind, rfl⟩ := Option.map_eq_some_iff.mp h
    have hcode : code ≤ 0x10FFFF := by
      have hoctet := octet.toNat_lt
      rw [PyConvert.utf8Lead] at hlead
      split_ifs at hlead
      all_goals
        simp only [Option.some.injEq, Prod.mk.injEq] at hlead
        omega
    exact Chars.cons hcode (ih behind trivial hbehind)
  | case5 octet octets more low high code hlead ih => exact ih text (fits_utf8Lead hlead) h
  | case6 low high bits octet octets hbetween code ih =>
    obtain ⟨behind, hbehind, rfl⟩ := Option.map_eq_some_iff.mp h
    have hcode : code ≤ 0x10FFFF := by
      have hlast : (bits*64+(high-0x80)+1)*64^0 ≤ 0x110000 := hfits
      have hdef : code = bits*64+(octet.toNat-128) := rfl
      omega
    exact Chars.cons hcode (ih behind trivial hbehind)
  | case7 low high bits octet octets hbetween code more ih =>
    refine ih text ?_ h
    -- the six bits that are read leave room for as many more
    have hroom : (bits*64+(high-0x80)+1)*64^(more+1) ≤ 0x110000 := hfits
    have hle : code+1 ≤ bits*64+(high-0x80)+1 := by
      have hdef : code = bits*64+(octet.toNat-128) := rfl
      omega
    calc (code*64+(191-0x80)+1)*64^more = (code+1)*64^(more+1) := by ring
      _ ≤ (bits*64+(high-0x80)+1)*64^(more+1) := Nat.mul_le_mul_right _ hle
      _ ≤ 0x110000 := hroom
  | case8 => cases h

theorem chars_readText {octets : List UInt8} {text : PyStr} (h : readText octets = .ok text) :
    Chars text := by
  rw [readText] at h
  split at h
  · next text' hdecode =>
    obtain rfl := Except.ok.inj h
    exact chars_decodeFrom none octets _ trivial hdecode
  · cases h

end Octets
end PyJson
