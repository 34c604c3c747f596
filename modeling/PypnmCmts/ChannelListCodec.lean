import PypnmCmts.CmtsOperation
import PypnmCmts.PyCodecs

/-! The channel lists of `docsis/cmts_operation.py`. A CMTS sends an octet for each channel, the
SNMP package renders the octets as a text, and `parseChannelList` is to read them from it. -/
namespace PypnmCmts
namespace CmtsOperation
open PyConvert

/-- An octet outside printable ASCII. -/
abbrev IsUnprintable (octet : UInt8) : Prop := octet.toNat < 32 ∨ 126 < octet.toNat

/-- The text in which the SNMP package renders an OCTET STRING. -/
def prettyPrint (octets : List UInt8) : String :=
  if ∃ octet ∈ octets, IsUnprintable octet then
    String.ofList ('0' :: 'x' :: octets.flatMap fun octet => hexOctet octet.toNat)
  else String.ofList (octets.map fun octet => Char.ofNat octet.toNat)

def channelIds (octets : List UInt8) : List ℤ := octets.map fun octet => (octet.toNat : ℤ)

theorem parseChannelList_hex {digits : List Char} {octets : List ℕ} (heven : digits.length%2 = 0)
    (h : fromHex digits = some octets) :
    parseChannelList (String.ofList ('0' :: 'x' :: digits)) = octets.map Int.ofNat := by
  have htext : (String.ofList ('0' :: 'x' :: digits)).toList = '0' :: 'x' :: digits :=
    String.toList_ofList
  have hprefix : "0x".toList.isPrefixOf ('0' :: 'x' :: digits) = true := rfl
  unfold parseChannelList
  dsimp only
  rw [htext, if_pos hprefix, List.drop_succ_cons, List.drop_succ_cons, List.drop_zero,
    if_pos heven, h]

/-- A text brings fewer numbers than it has characters, but for a single digit. -/
theorem length_parseChannelList (rawValue : String) :
    2*(parseChannelList rawValue).length ≤ rawValue.toList.length+1 := by
  have hnumbers := length_findNumbers rawValue.toList none
  rw [Option.toList_none, List.length_nil] at hnumbers
  unfold parseChannelList
  dsimp only
  split
  · split
    · split
      next rawBytes hbytes =>
        have hhex := length_fromHex hbytes
        rw [List.length_drop] at hhex
        rw [List.length_map]
        omega
      next => rw [List.length_map]; exact hnumbers
    · rw [List.length_map]; exact hnumbers
  · rw [List.length_map]; exact hnumbers

/-- A single character is read as a digit or as nothing. -/
theorem parseChannelList_singleton (c : Char) :
    parseChannelList (String.ofList [c]) = ((digitOf 10 c).map Int.ofNat).toList := by
  have htext : (String.ofList [c]).toList = [c] := String.toList_ofList
  have hprefix : ¬ "0x".toList.isPrefixOf [c] = true := by
    change ¬ ('0' == c && false) = true
    rw [Bool.and_false]
    exact Bool.false_ne_true
  unfold parseChannelList
  dsimp only
  rw [htext, if_neg hprefix, findNumbers]
  cases hdigit : digitOf 10 c with
  | none => rfl
  | some digit =>
    change [Int.ofNat (0*10+digit)] = [Int.ofNat digit]
    rw [Nat.zero_mul, Nat.zero_add]

/-- Where an octet is not printable, the octets are rendered in hexadecimal and read back. -/
theorem parseChannelList_of_unprintable {octets : List UInt8}
    (h : ∃ octet ∈ octets, IsUnprintable octet) :
    parseChannelList (prettyPrint octets) = channelIds octets := by
  have hdigits : (octets.flatMap fun octet => hexOctet octet.toNat) =
      (octets.map UInt8.toNat).flatMap hexOctet := (List.flatMap_map _ _ _).symm
  have hread : fromHex ((octets.map UInt8.toNat).flatMap hexOctet) =
      some (octets.map UInt8.toNat) := by
    apply fromHex_hexOctets
    intro number hnumber
    obtain ⟨octet, -, rfl⟩ := List.mem_map.mp hnumber
    have hlt := octet.toNat_lt
    omega
  have heven : ((octets.map UInt8.toNat).flatMap hexOctet).length%2 = 0 := by
    rw [length_hexOctets]
    omega
  rw [prettyPrint, if_pos h, hdigits, parseChannelList_hex heven hread, List.map_map]
  rfl

/-- Printable octets are read as something else, unless there are none. -/
theorem parseChannelList_of_printable {octets : List UInt8} (hne : octets ≠ [])
    (h : ¬ ∃ octet ∈ octets, IsUnprintable octet) :
    parseChannelList (prettyPrint octets) ≠ channelIds octets := by
  intro hread
  have hlength := length_parseChannelList (prettyPrint octets)
  rw [hread, channelIds, prettyPrint, if_neg h, String.toList_ofList, List.length_map,
    List.length_map] at hlength
  have hpos := List.length_pos_iff.mpr hne
  -- two characters or more are too few for their numbers, and one is no digit of that size
  obtain ⟨octet, rfl⟩ := List.length_eq_one_iff.mp (by omega : octets.length = 1)
  rw [prettyPrint, if_neg h, List.map_cons, List.map_nil, parseChannelList_singleton] at hread
  cases hdigit : digitOf 10 (Char.ofNat octet.toNat) with
  | none =>
    rw [hdigit] at hread
    cases hread
  | some digit =>
    rw [hdigit] at hread
    have hdigit' : digit = octet.toNat := Int.ofNat.inj (List.cons.inj hread).1
    have hten : digit < 10 := of_decide_eq_true (Option.filter_eq_some_iff.mp hdigit).2
    exact h ⟨octet, List.mem_cons_self, Or.inl (by omega)⟩

/-- The parser inverts the rendering exactly if that is in hexadecimal or empty. -/
theorem channel_list_codec_iff (octets : List UInt8) :
    parseChannelList (prettyPrint octets) = channelIds octets ↔
      octets = [] ∨ ∃ octet ∈ octets, IsUnprintable octet := by
  constructor
  · intro hread
    by_contra h
    obtain ⟨hne, hprintable⟩ := not_or.mp h
    exact parseChannelList_of_printable hne hprintable hread
  · rintro (rfl | h)
    · rfl
    · exact parseChannelList_of_unprintable h

/-- The channels 49 and 50 are rendered as "12". -/
theorem channel_list_printable :
    parseChannelList (prettyPrint [49, 50]) ≠ channelIds [49, 50] := by
  decide +kernel

end CmtsOperation
end PypnmCmts
