import Mathlib.Tactic.NormNum
import Mathlib.Tactic.Ring
import PypnmCmts.RxMerFile

/-! Which octets the parser of the RxMER files accepts, and what it makes of them: the header, the
payload and the data of a file, and the values beside their frequencies. -/
namespace PypnmCmts

namespace CmtsPnmHeader
open FixedLayout

/-- The type of the RxMER files. -/
def typeOctets : List UInt8 := [0x50, 0x4E, 0x4E, 0x69]

/-- The version stands behind the type. -/
def majorOf (header : List UInt8) : ℕ := (header.getD 4 0).toNat

/-- A header from the first octet to the last. -/
structure HeaderShape (header : List UInt8) : Prop where
  fileType : header.take 4 = typeOctets
  length : header.length = if majorOf header < 2 then 270 else 277

/-- The fields of a header that is as long as its version says. -/
def headerOf (macAddress : List UInt8 → String) (header : List UInt8) : CmtsPnmHeaderParameters :=
  let base := headerFormat.read (header.take 10)
  let extended := extendedHeaderV1Format.read ((header.drop 10).take 260)
  let rpd := if 2 ≤ base.2.1 then extendedHeaderV2SuffixFormat.read (header.drop 270)
    else (List.replicate 6 0, 0)
  { fileType := .usOfdmaRxmerPerSubcarrier
    majorVersion := base.2.1, minorVersion := base.2.2.1, captureTime := base.2.2.2
    ifIndex := extended.1, uniqueCcapId := uniqueCcapId extended.2
    rpdId := macAddress rpd.1, rpdPortNumber := rpd.2 }

section FileType

theorem toNat_charOf (octet : UInt8) : (Char.ofNat octet.toNat).toNat = octet.toNat := by
  have hlt := octet.toNat_lt
  unfold Char.ofNat
  rw [dif_pos (Or.inl (by omega))]
  rfl

theorem charOf_injective : Function.Injective fun octet : UInt8 => Char.ofNat octet.toNat := by
  intro a b h
  have hcode := congrArg Char.toNat h
  dsimp only at hcode
  rw [toNat_charOf, toNat_charOf] at hcode
  exact UInt8.toNat_inj.mp hcode

theorem decodeAscii_eq_iff {octets : List UInt8} (h : octets.length = 4) :
    decodeAscii octets = CmtsPnmFileType.usOfdmaRxmerPerSubcarrier.value ↔ octets = typeOctets := by
  constructor
  · intro hdecode
    have htext : typeOctets.map (fun octet => Char.ofNat octet.toNat) =
        CmtsPnmFileType.usOfdmaRxmerPerSubcarrier.value.toList := by decide
    have hchars := congrArg String.toList hdecode
    have hread : (decodeAscii octets).toList =
        (octets.filter fun octet => octet.toNat < 128).map fun octet => Char.ofNat octet.toNat :=
      String.toList_ofList
    rw [hread, ← htext] at hchars
    have hkept := charOf_injective.list_map hchars
    -- four characters are left of the four octets, so none was ignored
    have hlength : (octets.filter fun octet => octet.toNat < 128).length = octets.length := by
      rw [hkept, h]
      rfl
    rw [← hkept]
    exact (List.filter_sublist.eq_of_length hlength).symm
  · intro heq
    rw [heq]
    decide

theorem fileTypeOf_typeOctets :
    fileTypeOf (some .usOfdmaRxmerPerSubcarrier) typeOctets =
      .ok .usOfdmaRxmerPerSubcarrier := by
  have hdecode : decodeAscii typeOctets = CmtsPnmFileType.usOfdmaRxmerPerSubcarrier.value :=
    (decodeAscii_eq_iff rfl).mpr rfl
  rw [fileTypeOf, hdecode]
  rfl

theorem typeOctets_of_fileTypeOf {octets : List UInt8} {fileType : CmtsPnmFileType}
    (hlength : octets.length = 4)
    (h : fileTypeOf (some .usOfdmaRxmerPerSubcarrier) octets = .ok fileType) :
    octets = typeOctets := by
  rw [← decodeAscii_eq_iff hlength]
  unfold fileTypeOf CmtsPnmFileType.ofValue at h
  by_contra hne
  rw [if_neg hne] at h
  cases h

end FileType

section Header
variable {macAddress : List UInt8 → String} {header rest : List UInt8}

theorem base_major (h : 5 ≤ header.length) :
    (headerFormat.read (header.take 10)).2.1 = majorOf header := by
  have hfive : ((header.take 10).drop 4).take 1 = [header.getD 4 0] := by
    match header, h with
    | _ :: _ :: _ :: _ :: major :: _, _ => rfl
  change valueOf (((header.take 10).drop 4).take 1) = _
  rw [hfive, valueOf_singleton]
  rfl

/-- The header of a string of octets that is long enough for the first version. -/
theorem parseHeader_eq {binaryData : List UInt8} (h : 270 ≤ binaryData.length) :
    parseHeader macAddress (some .usOfdmaRxmerPerSubcarrier) binaryData = (do
      let fileType ← fileTypeOf (some .usOfdmaRxmerPerSubcarrier) (binaryData.take 4)
      let rpd ← rpdFields (majorOf binaryData) binaryData
      let base := headerFormat.read (binaryData.take 10)
      let extended := extendedHeaderV1Format.read ((binaryData.drop 10).take 260)
      pure
        ({ fileType, majorVersion := base.2.1, minorVersion := base.2.2.1
           captureTime := base.2.2.2, ifIndex := extended.1
           uniqueCcapId := uniqueCcapId extended.2
           rpdId := macAddress rpd.1.1, rpdPortNumber := rpd.1.2 }, binaryData.drop rpd.2)) := by
  have hbase : headerFormat.unpack (binaryData.take headerFormat.size) =
      .ok (headerFormat.read (binaryData.take 10)) :=
    headerFormat.unpack_take (show 10 ≤ binaryData.length by omega)
  have hextended : extendedHeaderV1Format.unpack
      ((binaryData.drop headerFormat.size).take extendedHeaderV1Format.size) =
      .ok (extendedHeaderV1Format.read ((binaryData.drop 10).take 260)) := by
    apply extendedHeaderV1Format.unpack_take
    rw [List.length_drop]
    exact Nat.le_sub_of_add_le h
  have htype : (headerFormat.read (binaryData.take 10)).1 = binaryData.take 4 := by
    change (binaryData.take 10).take 4 = _
    rw [List.take_take]
    rfl
  have hmajor : (headerFormat.read (binaryData.take 10)).2.1 = majorOf binaryData :=
    base_major (by omega)
  have hsize : ¬ binaryData.length < headerFormat.size+extendedHeaderV1Format.size := by
    change ¬ binaryData.length < 270
    omega
  unfold parseHeader
  dsimp only
  rw [if_neg hsize, hbase, ok_bind, htype, hmajor, hextended]
  rfl

theorem majorOf_append (h : 5 ≤ header.length) : majorOf (header ++ rest) = majorOf header := by
  match header, h with
  | _ :: _ :: _ :: _ :: _ :: _, _ => rfl

/-- The fields behind those of the first version, and the end of the header. -/
theorem rpdFields_append (h : HeaderShape header) :
    rpdFields (majorOf header) (header ++ rest) =
      .ok (if 2 ≤ majorOf header then extendedHeaderV2SuffixFormat.read (header.drop 270)
        else (List.replicate 6 0, 0), header.length) := by
  have hlength := h.length
  unfold rpdFields
  dsimp only
  -- only version 2 and later ones have the RPD fields
  by_cases hmajor : 2 ≤ majorOf header
  · rw [if_neg (by omega)] at hlength
    have hroom : ¬ (header ++ rest).length < headerFormat.size+extendedHeaderV1Format.size+
        extendedHeaderV2SuffixFormat.size := by
      rw [List.length_append, hlength]
      change ¬ 277+rest.length < 277
      omega
    have hslice : ((header ++ rest).drop 270).take extendedHeaderV2SuffixFormat.size =
        header.drop 270 := by
      rw [List.drop_append_of_le_length (by omega)]
      apply List.take_left'
      rw [List.length_drop, hlength]
      rfl
    have hread : extendedHeaderV2SuffixFormat.unpack (((header ++ rest).drop
        (headerFormat.size+extendedHeaderV1Format.size)).take
          extendedHeaderV2SuffixFormat.size) =
        .ok (extendedHeaderV2SuffixFormat.read (header.drop 270)) := by
      have hsize : extendedHeaderV2SuffixFormat.size ≤ ((header ++ rest).drop 270).length := by
        rw [List.length_drop, List.length_append, hlength]
        change 7 ≤ 277+rest.length-270
        omega
      rw [← hslice]
      exact extendedHeaderV2SuffixFormat.unpack_take hsize
    rw [if_pos hmajor, if_neg hroom, if_pos hmajor, hread, hlength]
    rfl
  · rw [if_pos (by omega)] at hlength
    rw [if_neg hmajor, if_neg hmajor, hlength]
    rfl

/-- A whole header is read, and the rest is left for the payload. -/
theorem parseHeader_append (h : HeaderShape header) :
    parseHeader macAddress (some .usOfdmaRxmerPerSubcarrier) (header ++ rest) =
      .ok (headerOf macAddress header, rest) := by
  have hlength : 270 ≤ header.length := by
    rw [h.length]
    split
    · exact le_rfl
    · exact Nat.le_add_right 270 7
  have htype : (header ++ rest).take 4 = typeOctets := by
    rw [List.take_append_of_le_length (by omega), h.fileType]
  have hbase : (header ++ rest).take 10 = header.take 10 :=
    List.take_append_of_le_length (by omega)
  have hextended : ((header ++ rest).drop 10).take 260 = (header.drop 10).take 260 := by
    rw [List.drop_append_of_le_length (by omega)]
    apply List.take_append_of_le_length
    rw [List.length_drop]
    omega
  have hmajor : (headerFormat.read (header.take 10)).2.1 = majorOf header :=
    base_major (by omega)
  rw [parseHeader_eq (by rw [List.length_append]; omega), htype, fileTypeOf_typeOctets,
    majorOf_append (by omega), rpdFields_append h, ok_bind, ok_bind, hbase, hextended,
    List.drop_left]
  unfold headerOf
  dsimp only
  rw [hmajor]
  rfl

/-- What is accepted begins with a whole header. -/
theorem exists_header {binaryData : List UInt8} {parsed : CmtsPnmHeaderParameters × List UInt8}
    (h : parseHeader macAddress (some .usOfdmaRxmerPerSubcarrier) binaryData = .ok parsed) :
    ∃ header rest, HeaderShape header ∧ binaryData = header ++ rest := by
  have hlength : 270 ≤ binaryData.length := by
    by_contra hshort
    have hsize : binaryData.length < headerFormat.size+extendedHeaderV1Format.size := by
      change binaryData.length < 270
      omega
    unfold parseHeader at h
    dsimp only at h
    rw [if_pos hsize] at h
    cases h
  rw [parseHeader_eq hlength] at h
  have htype : binaryData.take 4 = typeOctets := by
    cases htype : fileTypeOf (some .usOfdmaRxmerPerSubcarrier) (binaryData.take 4) with
    | error e =>
      rw [htype, error_bind] at h
      cases h
    | ok fileType =>
      exact typeOctets_of_fileTypeOf (List.length_take_of_le (by omega)) htype
  -- from version 2 on seven more octets are asked for
  have hroom : 2 ≤ majorOf binaryData → 277 ≤ binaryData.length := by
    intro hmajor
    by_contra hshort
    have hsize : binaryData.length < headerFormat.size+extendedHeaderV1Format.size+
        extendedHeaderV2SuffixFormat.size := by
      change binaryData.length < 277
      omega
    rw [htype, fileTypeOf_typeOctets, ok_bind] at h
    unfold rpdFields at h
    dsimp only at h
    rw [if_pos hmajor, if_pos hsize, error_bind] at h
    cases h
  -- the version is read from the part that is cut off as well
  have hsplit (size : ℕ) (hsize : size = if majorOf binaryData < 2 then 270 else 277)
      (hle : size ≤ binaryData.length) : HeaderShape (binaryData.take size) := by
    have hfive : 5 ≤ (binaryData.take size).length := by
      rw [List.length_take_of_le hle, hsize]
      split <;> omega
    have hmajor : majorOf (binaryData.take size ++ binaryData.drop size) =
        majorOf (binaryData.take size) := majorOf_append hfive
    rw [List.take_append_drop] at hmajor
    constructor
    · rw [List.take_take, min_eq_left, htype]
      rw [hsize]
      split <;> omega
    · rw [← hmajor, List.length_take_of_le hle, hsize]
  refine ⟨binaryData.take (if majorOf binaryData < 2 then 270 else 277), binaryData.drop _,
    hsplit _ rfl ?_, (List.take_append_drop _ _).symm⟩
  split
  · exact hlength
  · exact hroom (by omega)

end Header
end CmtsPnmHeader

namespace CmtsUsOfdmaRxMerPerSubcarrier
open FixedLayout CmtsPnmHeader
variable {σ μ : Type}

/-- The parts of a file. Octets behind the announced data are not looked at. -/
structure FileParts (binaryData : List UInt8) where
  header : List UInt8
  payload : List UInt8
  data : List UInt8
  trailing : List UInt8
  parts_eq : binaryData = header ++ (payload ++ (data ++ trailing))
  header_shape : HeaderShape header
  payload_length : payload.length = 20
  data_length : data.length = valueOf (payload.drop 16)

/-- The package has statistics for the values. -/
def Succeed (helpers : PnmHelpers σ μ) (values : List ℚ) : Prop :=
  ∃ statistics modulation, helpers.signalStatistics values = .ok statistics ∧
    helpers.shannonSeries values = .ok modulation

/-- The model of a file with the given payload header and data. -/
def modelOf (helpers : PnmHelpers σ μ) (pnmHeader : CmtsPnmHeaderParameters)
    (payload data : List UInt8) (statistics : σ) (modulation : μ) :
    CmtsUsOfdmaRxMerPerSubcarrierModel σ μ :=
  let (cmMacRaw, numberOfAverages, preEqOnRaw, subcarrierZeroCenterFrequency,
    firstActiveSubcarrierIndex, subcarrierSpacingKhz, dataLength) :=
      payloadHeaderFormat.read payload
  { pnmHeader, macAddress := helpers.macAddress cmMacRaw, numberOfAverages
    preEqOn := preEqOnRaw ≠ 0, subcarrierZeroCenterFrequency, firstActiveSubcarrierIndex
    subcarrierSpacing := subcarrierSpacingKhz*khz, dataLength
    occupiedChannelBandwidth := dataLength*(subcarrierSpacingKhz*khz)
    values := data.map rxmerValue, signalStatistics := statistics
    modulationStatistics := modulation }

/-- The statistics of the values, and the model with them. -/
def measure (helpers : PnmHelpers σ μ) (pnmHeader : CmtsPnmHeaderParameters)
    (payload data : List UInt8) : Except String (CmtsUsOfdmaRxMerPerSubcarrierModel σ μ) := do
  let statistics ← helpers.signalStatistics (data.map rxmerValue)
  let modulation ← helpers.shannonSeries (data.map rxmerValue)
  pure (modelOf helpers pnmHeader payload data statistics modulation)

section Payload
variable {helpers : PnmHelpers σ μ} {pnmHeader : CmtsPnmHeaderParameters}

theorem payload_dataLength (payload : List UInt8) :
    (payloadHeaderFormat.read payload).2.2.2.2.2.2 = valueOf (payload.drop 16) := by
  change valueOf ((((((payload.drop 6).drop 2).drop 1).drop 4).drop 2).drop 1) = _
  simp only [List.drop_drop]

theorem process_eq {pnmData : List UInt8} (h : 20 ≤ pnmData.length) :
    process helpers pnmHeader pnmData =
      let dataLength := valueOf ((pnmData.take 20).drop 16)
      let data := (pnmData.drop 20).take dataLength
      if data.length < dataLength then
        .error s!"Insufficient RxMER data length: {data.length} based on header field: {dataLength}"
      else measure helpers pnmHeader (pnmData.take 20) data := by
  have hpayload : payloadHeaderFormat.unpack (pnmData.take payloadHeaderFormat.size) =
      .ok (payloadHeaderFormat.read (pnmData.take 20)) := payloadHeaderFormat.unpack_take h
  have hsize : ¬ pnmData.length < payloadHeaderFormat.size := not_lt.mpr h
  rw [← payload_dataLength]
  unfold process
  dsimp only
  rw [if_neg hsize, hpayload, ok_bind]
  rfl

/-- What is accepted as a payload has its header and the announced data. -/
theorem exists_payload {pnmData : List UInt8} {model : CmtsUsOfdmaRxMerPerSubcarrierModel σ μ}
    (h : process helpers pnmHeader pnmData = .ok model) :
    ∃ payload data trailing, pnmData = payload ++ (data ++ trailing) ∧ payload.length = 20 ∧
      data.length = valueOf (payload.drop 16) := by
  have hlength : 20 ≤ pnmData.length := by
    by_contra hshort
    have hsize : pnmData.length < payloadHeaderFormat.size := not_le.mp hshort
    unfold process at h
    dsimp only at h
    rw [if_pos hsize] at h
    cases h
  rw [process_eq hlength] at h
  dsimp only at h
  split at h
  · cases h
  next hdata =>
    refine ⟨pnmData.take 20, (pnmData.drop 20).take (valueOf ((pnmData.take 20).drop 16)),
      (pnmData.drop 20).drop (valueOf ((pnmData.take 20).drop 16)), ?_,
      List.length_take_of_le hlength, ?_⟩
    · rw [List.take_append_drop, List.take_append_drop]
    · exact le_antisymm (List.length_take_le _ _) (not_lt.mp hdata)

theorem process_append {payload data : List UInt8} (trailing : List UInt8)
    (hpayload : payload.length = 20) (hdata : data.length = valueOf (payload.drop 16)) :
    process helpers pnmHeader (payload ++ (data ++ trailing)) =
      measure helpers pnmHeader payload data := by
  have hlength : 20 ≤ (payload ++ (data ++ trailing)).length := by
    rw [List.length_append, hpayload]
    exact Nat.le_add_right 20 _
  rw [process_eq hlength, List.take_left' hpayload, List.drop_left' hpayload, ← hdata]
  dsimp only
  rw [List.take_left]
  exact if_neg (lt_irrefl _)

end Payload

section File
variable {helpers : PnmHelpers σ μ} {binaryData : List UInt8}

theorem parse_parts (parts : FileParts binaryData) :
    parse helpers binaryData = measure helpers (headerOf helpers.macAddress parts.header)
      parts.payload parts.data := by
  obtain ⟨header, payload, data, trailing, rfl, hshape, hpayload, hdata⟩ := parts
  unfold parse
  rw [parseHeader_append hshape, ok_bind]
  exact process_append trailing hpayload hdata

theorem exists_parts {model : CmtsUsOfdmaRxMerPerSubcarrierModel σ μ}
    (h : parse helpers binaryData = .ok model) : Nonempty (FileParts binaryData) := by
  unfold parse at h
  cases hheader : parseHeader helpers.macAddress (some .usOfdmaRxmerPerSubcarrier) binaryData with
  | error e =>
    rw [hheader, error_bind] at h
    cases h
  | ok parsed =>
    obtain ⟨header, rest, hshape, rfl⟩ := exists_header hheader
    rw [parseHeader_append hshape, ok_bind] at h
    obtain ⟨payload, data, trailing, rfl, hpayload, hdata⟩ := exists_payload h
    exact ⟨⟨header, payload, data, trailing, rfl, hshape, hpayload, hdata⟩⟩

/-- The model of an accepted file is that of its parts. -/
theorem model_of_parts (parts : FileParts binaryData)
    {model : CmtsUsOfdmaRxMerPerSubcarrierModel σ μ} (h : parse helpers binaryData = .ok model) :
    ∃ statistics modulation,
      helpers.signalStatistics (parts.data.map rxmerValue) = .ok statistics ∧
      helpers.shannonSeries (parts.data.map rxmerValue) = .ok modulation ∧
      model = modelOf helpers (headerOf helpers.macAddress parts.header) parts.payload parts.data
        statistics modulation := by
  rw [parse_parts parts] at h
  unfold measure at h
  cases hstatistics : helpers.signalStatistics (parts.data.map rxmerValue) with
  | error e =>
    rw [hstatistics, error_bind] at h
    cases h
  | ok statistics =>
    rw [hstatistics, ok_bind] at h
    cases hmodulation : helpers.shannonSeries (parts.data.map rxmerValue) with
    | error e =>
      rw [hmodulation, error_bind] at h
      cases h
    | ok modulation =>
      rw [hmodulation, ok_bind] at h
      exact ⟨statistics, modulation, rfl, rfl, (Except.ok.inj h).symm⟩

theorem accepts_iff : (∃ model, parse helpers binaryData = .ok model) ↔
    ∃ parts : FileParts binaryData, Succeed helpers (parts.data.map rxmerValue) := by
  constructor
  · rintro ⟨model, h⟩
    obtain ⟨parts⟩ := exists_parts h
    obtain ⟨statistics, modulation, hstatistics, hmodulation, -⟩ := model_of_parts parts h
    exact ⟨parts, statistics, modulation, hstatistics, hmodulation⟩
  · rintro ⟨parts, statistics, modulation, hstatistics, hmodulation⟩
    rw [parse_parts parts, measure, hstatistics, hmodulation]
    exact ⟨_, rfl⟩

/-- How many octets a file takes does not depend on what follows it. -/
theorem parts_unique {shorter : List UInt8} (parts : FileParts binaryData)
    (parts' : FileParts shorter) (h : shorter <+: binaryData) :
    parts'.header = parts.header ∧ parts'.payload = parts.payload ∧
      parts'.data.length = parts.data.length := by
  obtain ⟨header, payload, data, trailing, rfl, hshape, hpayload, hdata⟩ := parts
  obtain ⟨header', payload', data', trailing', rfl, hshape', hpayload', hdata'⟩ := parts'
  obtain ⟨more, hmore⟩ := h
  rw [List.append_assoc, List.append_assoc, List.append_assoc] at hmore
  have hlong {header : List UInt8} (hshape : HeaderShape header) : 5 ≤ header.length := by
    rw [hshape.length]
    split <;> omega
  -- the version stands in what both have in common
  have hmajor : majorOf header' = majorOf header := by
    have hback := congrArg majorOf hmore
    rwa [majorOf_append (hlong hshape'), majorOf_append (hlong hshape)] at hback
  have hlength : header'.length = header.length := by
    rw [hshape'.length, hshape.length, hmajor]
  obtain ⟨hheader, hrest⟩ := List.append_inj hmore hlength
  obtain ⟨hsame, -⟩ := List.append_inj hrest (hpayload'.trans hpayload.symm)
  dsimp only at hsame ⊢
  exact ⟨hheader, hsame, by rw [hdata', hdata, hsame]⟩

/-- A file without anything behind its data is not accepted when it is cut short. -/
theorem not_accepts_take (parts : FileParts binaryData) (hend : parts.trailing = []) {n : ℕ}
    (hn : n < binaryData.length) :
    ¬ ∃ model, parse helpers (binaryData.take n) = .ok model := by
  rintro ⟨model, h⟩
  obtain ⟨parts'⟩ := exists_parts h
  obtain ⟨hheader, hpayload, hdata⟩ := parts_unique parts parts' (List.take_prefix n binaryData)
  have hshort := congrArg List.length parts'.parts_eq
  have hwhole := congrArg List.length parts.parts_eq
  rw [hend] at hwhole
  simp only [List.length_append, List.length_nil] at hshort hwhole
  rw [List.length_take_of_le hn.le, hheader, hpayload, hdata] at hshort
  omega

end File

/-- The values belong to the data octet by octet, and the frequencies to the values. -/
structure Aligned (data : List UInt8) (model : CmtsUsOfdmaRxMerPerSubcarrierModel σ μ) : Prop where
  dataLength : model.dataLength = data.length
  values_length : model.values.length = model.dataLength
  values : ∀ (i : ℕ) (octet : UInt8), data[i]? = some octet →
    model.values[i]? = some (min ((octet.toNat : ℚ)/4) (127/2))
  frequencies_length : 0 < model.subcarrierSpacing →
    (getFrequencies model).length = model.dataLength
  frequencies : 0 < model.subcarrierSpacing → ∀ i : ℕ, i < model.dataLength →
    (getFrequencies model)[i]? = some (model.subcarrierZeroCenterFrequency+
      model.subcarrierSpacing*(model.firstActiveSubcarrierIndex+i))
  spaced : ∀ i f g : ℕ, (getFrequencies model)[i]? = some f →
  (getFrequencies model)[i+1]? = some g →
    g = f+model.subcarrierSpacing

section Alignment
variable {helpers : PnmHelpers σ μ}

theorem rxmerValue_eq (octet : UInt8) : rxmerValue octet = min ((octet.toNat : ℚ)/4) (127/2) := by
  have hnonneg : 0 ≤ (octet.toNat : ℚ)/4 := div_nonneg (Nat.cast_nonneg _) (by norm_num)
  rw [rxmerValue, max_eq_left hnonneg]

theorem getFrequencies_eq {model : CmtsUsOfdmaRxMerPerSubcarrierModel σ μ}
    (h : 0 < model.subcarrierSpacing) :
    getFrequencies model = (List.range model.dataLength).map fun i =>
      model.subcarrierZeroCenterFrequency+model.subcarrierSpacing*model.firstActiveSubcarrierIndex+
        i*model.subcarrierSpacing := by
  unfold getFrequencies
  dsimp only
  by_cases hcount : model.dataLength ≤ 0
  · rw [if_pos (Or.inr hcount), Nat.le_zero.mp hcount]
    rfl
  · rw [if_neg (not_or.mpr ⟨not_le.mpr h, hcount⟩)]

theorem getFrequencies_spaced (model : CmtsUsOfdmaRxMerPerSubcarrierModel σ μ) (i f g : ℕ)
    (hf : (getFrequencies model)[i]? = some f) (hg : (getFrequencies model)[i+1]? = some g) :
    g = f+model.subcarrierSpacing := by
  by_cases h : 0 < model.subcarrierSpacing
  · rw [getFrequencies_eq h, List.getElem?_map] at hf hg
    obtain ⟨a, ha, rfl⟩ := Option.map_eq_some_iff.mp hf
    obtain ⟨b, hb, rfl⟩ := Option.map_eq_some_iff.mp hg
    obtain ⟨hi, rfl⟩ := List.getElem?_eq_some_iff.mp ha
    obtain ⟨hi', rfl⟩ := List.getElem?_eq_some_iff.mp hb
    rw [List.getElem_range, List.getElem_range]
    ring
  · unfold getFrequencies at hf
    dsimp only at hf
    rw [if_pos (Or.inl (not_lt.mp h))] at hf
    cases hf

theorem aligned_modelOf {pnmHeader : CmtsPnmHeaderParameters} {payload data : List UInt8}
    (hdata : data.length = valueOf (payload.drop 16)) (statistics : σ) (modulation : μ) :
    Aligned data (modelOf helpers pnmHeader payload data statistics modulation) := by
  have hlength : (modelOf helpers pnmHeader payload data statistics modulation).dataLength =
      data.length := (payload_dataLength payload).trans hdata.symm
  have hvalues : (modelOf helpers pnmHeader payload data statistics modulation).values =
      data.map rxmerValue := rfl
  refine ⟨hlength, ?_, ?_, ?_, ?_, getFrequencies_spaced _⟩
  · rw [hvalues, List.length_map, hlength]
  · intro i octet hoctet
    rw [hvalues, List.getElem?_map, hoctet, Option.map_some, rxmerValue_eq]
  · intro hspacing
    rw [getFrequencies_eq hspacing, List.length_map, List.length_range]
  · intro hspacing i hi
    rw [getFrequencies_eq hspacing, List.getElem?_map, List.getElem?_range hi, Option.map_some]
    congr 1
    ring

end Alignment
end CmtsUsOfdmaRxMerPerSubcarrier
end PypnmCmts
