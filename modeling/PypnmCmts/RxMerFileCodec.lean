import PypnmCmts.RxMerFileParts

/-! RxMER files that are written from their fields, in either version of the header: the parser
gives the fields back, and accepts no part of the file that ends before its data. -/
namespace PypnmCmts
namespace CmtsUsOfdmaRxMerPerSubcarrier
open FixedLayout CmtsPnmHeader
variable {σ μ : Type}

/-- The fields of a file. The RPD fields are written from version 2 on. -/
structure RxMerFile where
  majorVersion : UInt8
  minorVersion : UInt8
  captureTime : UInt32
  ifIndex : UInt32
  ccapId : String
  rpdId : Vector UInt8 6
  rpdPortNumber : UInt8
  cmMac : Vector UInt8 6
  numberOfAverages : UInt16
  preEqOn : Bool
  subcarrierZeroFrequency : UInt32
  firstActiveSubcarrier : UInt16
  subcarrierSpacingKhz : UInt8
  rxmerData : List UInt8
  ccapId_fits : (PyConvert.utf8Octets ccapId).length ≤ 256
  ccapId_noZero : Char.ofNat 0 ∉ ccapId.toList
  ccapId_stripped : PyText.strip ccapId = ccapId
  rxmerData_fits : rxmerData.length < 256^4

/-- The id, filled up with zeros. -/
def ccapField (ccapId : String) : List UInt8 :=
  let octets := (PyConvert.utf8Octets ccapId).map UInt8.ofNat
  octets ++ List.replicate (256-octets.length) 0

namespace RxMerFile
variable (file : RxMerFile)

def baseFields : List UInt8 × ℕ × ℕ × ℕ :=
  (typeOctets, file.majorVersion.toNat, file.minorVersion.toNat, file.captureTime.toNat)

def rpdSuffix : List UInt8 × ℕ := (file.rpdId.toList, file.rpdPortNumber.toNat)

def payloadFields : List UInt8 × ℕ × ℕ × ℕ × ℕ × ℕ × ℕ :=
  (file.cmMac.toList, file.numberOfAverages.toNat, file.preEqOn.toNat,
    file.subcarrierZeroFrequency.toNat, file.firstActiveSubcarrier.toNat,
    file.subcarrierSpacingKhz.toNat, file.rxmerData.length)

def encodeHeader : List UInt8 :=
  headerFormat.write file.baseFields ++
    (extendedHeaderV1Format.write (file.ifIndex.toNat, ccapField file.ccapId) ++
      if 2 ≤ file.majorVersion.toNat then extendedHeaderV2SuffixFormat.write file.rpdSuffix else [])

def encodePayload : List UInt8 := payloadHeaderFormat.write file.payloadFields

def encode : List UInt8 := file.encodeHeader ++ (file.encodePayload ++ file.rxmerData)

/-- The header that is to be read from the file. -/
def header (macAddress : List UInt8 → String) : CmtsPnmHeaderParameters where
  fileType := .usOfdmaRxmerPerSubcarrier
  majorVersion := file.majorVersion.toNat
  minorVersion := file.minorVersion.toNat
  captureTime := file.captureTime.toNat
  ifIndex := file.ifIndex.toNat
  uniqueCcapId := file.ccapId
  rpdId := macAddress (if 2 ≤ file.majorVersion.toNat then file.rpdId.toList
    else List.replicate 6 0)
  rpdPortNumber := if 2 ≤ file.majorVersion.toNat then file.rpdPortNumber.toNat else 0

/-- Each field of the file is in the model. -/
structure Recovered (helpers : PnmHelpers σ μ)
    (model : CmtsUsOfdmaRxMerPerSubcarrierModel σ μ) : Prop where
  pnmHeader : model.pnmHeader = file.header helpers.macAddress
  macAddress : model.macAddress = helpers.macAddress file.cmMac.toList
  numberOfAverages : model.numberOfAverages = file.numberOfAverages.toNat
  preEqOn : model.preEqOn = file.preEqOn
  subcarrierZero : model.subcarrierZeroCenterFrequency = file.subcarrierZeroFrequency.toNat
  firstActive : model.firstActiveSubcarrierIndex = file.firstActiveSubcarrier.toNat
  subcarrierSpacing : model.subcarrierSpacing = file.subcarrierSpacingKhz.toNat*khz
  aligned : Aligned file.rxmerData model

section Fields

theorem fits_octet (n : UInt8) : (unsigned 1).Fits n.toNat := n.toNat_lt

theorem fits_half (n : UInt16) : (unsigned 2).Fits n.toNat := n.toNat_lt

theorem fits_word (n : UInt32) : (unsigned 4).Fits n.toNat := n.toNat_lt

theorem fits_flag (b : Bool) : (unsigned 1).Fits b.toNat :=
  b.toNat_lt.trans (by decide)

theorem base_fits : headerFormat.Fits file.baseFields :=
  ⟨rfl, fits_octet _, fits_octet _, fits_word _⟩

theorem length_ccapField : (ccapField file.ccapId).length = 256 := by
  have hfits := file.ccapId_fits
  unfold ccapField
  dsimp only
  rw [List.length_append, List.length_replicate, List.length_map]
  omega

theorem extended_fits :
    extendedHeaderV1Format.Fits (file.ifIndex.toNat, ccapField file.ccapId) :=
  ⟨fits_word _, file.length_ccapField⟩

theorem rpd_fits : extendedHeaderV2SuffixFormat.Fits file.rpdSuffix :=
  ⟨file.rpdId.length_toList, fits_octet _⟩

theorem payload_fits : payloadHeaderFormat.Fits file.payloadFields :=
  ⟨file.cmMac.length_toList, fits_half _, fits_flag _, fits_word _, fits_half _, fits_octet _,
    file.rxmerData_fits⟩

/-- The id is read up to the first zero, which is where it was filled up. -/
theorem uniqueCcapId_ccapField : uniqueCcapId (ccapField file.ccapId) = file.ccapId := by
  -- UTF-8 has a zero octet only for the zero character
  have hnonzero : ∀ octet ∈ (PyConvert.utf8Octets file.ccapId).map UInt8.ofNat,
      decide (octet ≠ 0) = true := by
    intro octet hoctet
    obtain ⟨n, hn, rfl⟩ := List.mem_map.mp hoctet
    have hle := PyConvert.le_of_mem_utf8Octets hn
    apply decide_eq_true
    intro hzero
    have hcode := congrArg UInt8.toNat hzero
    rw [PyConvert.toNat_ofNat_of_lt (by omega), UInt8.toNat_zero] at hcode
    rw [hcode] at hn
    exact file.ccapId_noZero (PyConvert.zero_mem_utf8Octets hn)
  have hfill (n : ℕ) : (List.replicate n (0 : UInt8)).takeWhile (fun octet => octet ≠ 0) = [] := by
    cases n <;> rfl
  have hback : ((PyConvert.utf8Octets file.ccapId).map UInt8.ofNat).map UInt8.toNat =
      PyConvert.utf8Octets file.ccapId := by
    rw [List.map_map]
    refine (List.map_congr_left fun n hn => ?_).trans (List.map_id _)
    have hle := PyConvert.le_of_mem_utf8Octets hn
    exact PyConvert.toNat_ofNat_of_lt (by omega)
  unfold uniqueCcapId ccapField
  dsimp only
  rw [List.takeWhile_append_of_pos hnonzero, hfill, List.append_nil, hback,
    PyConvert.decodeUtf8Ignore_utf8Octets, file.ccapId_stripped]

theorem take_encodeHeader : file.encodeHeader.take 10 = headerFormat.write file.baseFields :=
  List.take_left' (headerFormat.length_write _ file.base_fits)

theorem majorOf_encodeHeader : majorOf file.encodeHeader = file.majorVersion.toNat := by
  have hlength : 5 ≤ file.encodeHeader.length := by
    unfold encodeHeader
    rw [List.length_append, headerFormat.length_write _ file.base_fits]
    exact (show 5 ≤ 10 by decide).trans (Nat.le_add_right 10 _)
  rw [← base_major hlength, take_encodeHeader, headerFormat.read_write _ file.base_fits]
  rfl

theorem headerShape_encodeHeader : HeaderShape file.encodeHeader := by
  constructor
  · have htype : (file.encodeHeader.take 10).take 4 = typeOctets := by
      rw [take_encodeHeader]
      exact List.take_left' rfl
    rwa [List.take_take] at htype
  · rw [majorOf_encodeHeader]
    unfold encodeHeader
    rw [List.length_append, List.length_append, headerFormat.length_write _ file.base_fits,
      extendedHeaderV1Format.length_write _ file.extended_fits]
    by_cases hmajor : 2 ≤ file.majorVersion.toNat
    · rw [if_pos hmajor, if_neg (not_lt.mpr hmajor),
        extendedHeaderV2SuffixFormat.length_write _ file.rpd_fits]
      rfl
    · rw [if_neg hmajor, if_pos (not_le.mp hmajor)]
      rfl

/-- The header that has been written is read. -/
theorem headerOf_encodeHeader (macAddress : List UInt8 → String) :
    headerOf macAddress file.encodeHeader = file.header macAddress := by
  have hbaseLength : (headerFormat.write file.baseFields).length = 10 :=
    headerFormat.length_write _ file.base_fits
  have hextendedLength : (extendedHeaderV1Format.write (file.ifIndex.toNat,
      ccapField file.ccapId)).length = 260 :=
    extendedHeaderV1Format.length_write _ file.extended_fits
  have hbase : headerFormat.read (file.encodeHeader.take 10) = file.baseFields := by
    rw [take_encodeHeader, headerFormat.read_write _ file.base_fits]
  have hextended : extendedHeaderV1Format.read ((file.encodeHeader.drop 10).take 260) =
      (file.ifIndex.toNat, ccapField file.ccapId) := by
    unfold encodeHeader
    rw [List.drop_left' hbaseLength, List.take_left' hextendedLength,
      extendedHeaderV1Format.read_write _ file.extended_fits]
  -- what stands behind the 270 octets of the first version
  have hsuffix : file.encodeHeader.drop 270 =
      if 2 ≤ file.majorVersion.toNat then extendedHeaderV2SuffixFormat.write file.rpdSuffix
      else [] := by
    unfold encodeHeader
    rw [← List.append_assoc]
    apply List.drop_left'
    rw [List.length_append, hbaseLength, hextendedLength]
  unfold headerOf
  dsimp only
  rw [hbase, hextended, hsuffix, uniqueCcapId_ccapField]
  unfold header baseFields
  dsimp only
  by_cases hmajor : 2 ≤ file.majorVersion.toNat
  · rw [if_pos hmajor, if_pos hmajor, if_pos hmajor, if_pos hmajor,
      extendedHeaderV2SuffixFormat.read_write _ file.rpd_fits]
    rfl
  · rw [if_neg hmajor, if_neg hmajor, if_neg hmajor]

theorem length_encodePayload : file.encodePayload.length = 20 :=
  payloadHeaderFormat.length_write _ file.payload_fits

theorem read_encodePayload : payloadHeaderFormat.read file.encodePayload = file.payloadFields :=
  payloadHeaderFormat.read_write _ file.payload_fits

theorem length_rxmerData : file.rxmerData.length = valueOf (file.encodePayload.drop 16) := by
  rw [← payload_dataLength, read_encodePayload]
  rfl

theorem encode_eq : file.encode =
    file.encodeHeader ++ (file.encodePayload ++ (file.rxmerData ++ [])) := by
  rw [List.append_nil]
  rfl

/-- The parts of the file as it was written, with nothing behind them. -/
def parts : FileParts file.encode where
  header := file.encodeHeader
  payload := file.encodePayload
  data := file.rxmerData
  trailing := []
  parts_eq := file.encode_eq
  header_shape := file.headerShape_encodeHeader
  payload_length := file.length_encodePayload
  data_length := file.length_rxmerData

/-- The model of the parts has the fields of the file. -/
theorem recovered_modelOf (helpers : PnmHelpers σ μ) (statistics : σ) (modulation : μ) :
    file.Recovered helpers (modelOf helpers (headerOf helpers.macAddress file.encodeHeader)
      file.encodePayload file.rxmerData statistics modulation) := by
  have haligned : Aligned file.rxmerData (modelOf helpers
      (headerOf helpers.macAddress file.encodeHeader) file.encodePayload file.rxmerData statistics
        modulation) := aligned_modelOf file.length_rxmerData statistics modulation
  rw [headerOf_encodeHeader] at haligned ⊢
  unfold modelOf at haligned ⊢
  rw [read_encodePayload] at haligned ⊢
  refine ⟨rfl, rfl, rfl, ?_, rfl, rfl, rfl, haligned⟩
  change decide (file.preEqOn.toNat ≠ 0) = file.preEqOn
  cases file.preEqOn <;> rfl

theorem decode_encode {helpers : PnmHelpers σ μ}
    (h : Succeed helpers (file.rxmerData.map rxmerValue)) :
    ∃ model, parse helpers file.encode = .ok model ∧ file.Recovered helpers model := by
  obtain ⟨model, hmodel⟩ := accepts_iff.mpr ⟨file.parts, h⟩
  obtain ⟨statistics, modulation, -, -, rfl⟩ := model_of_parts file.parts hmodel
  exact ⟨_, hmodel, file.recovered_modelOf helpers statistics modulation⟩

end Fields
end RxMerFile

/-- The parser gives back the fields of every file that has been written, accepts the octets that
hold a whole file and no others, in particular no file that is cut short, and brings one value for
each octet of the data together with its frequency. -/
theorem rxmer_file_parsed (helpers : PnmHelpers σ μ) :
    (∀ file : RxMerFile, Succeed helpers (file.rxmerData.map rxmerValue) →
      ∃ model, parse helpers file.encode = .ok model ∧ file.Recovered helpers model) ∧
    (∀ binaryData, (∃ model, parse helpers binaryData = .ok model) ↔
      ∃ parts : FileParts binaryData, Succeed helpers (parts.data.map rxmerValue)) ∧
    (∀ (file : RxMerFile) (n : ℕ), n < file.encode.length →
      ∃ e, parse helpers (file.encode.take n) = .error e) ∧
    ∀ binaryData model, parse helpers binaryData = .ok model →
      ∃ parts : FileParts binaryData, Aligned parts.data model := by
  refine ⟨fun file h => file.decode_encode h, fun _ => accepts_iff, ?_, ?_⟩
  · intro file n hn
    cases hparse : parse helpers (file.encode.take n) with
    | error e => exact ⟨e, rfl⟩
    | ok model => exact absurd ⟨model, hparse⟩ (not_accepts_take file.parts rfl hn)
  · intro binaryData model h
    obtain ⟨parts⟩ := exists_parts h
    obtain ⟨statistics, modulation, -, -, rfl⟩ := model_of_parts parts h
    exact ⟨parts, aligned_modelOf parts.data_length statistics modulation⟩

theorem sampleId_fits : (PyConvert.utf8Octets "ccap-é").length ≤ 256 := by decide +kernel

theorem sampleId_noZero : Char.ofNat 0 ∉ "ccap-é".toList := by decide +kernel

theorem sampleId_stripped : PyText.strip "ccap-é" = "ccap-é" := by decide +kernel

theorem sampleData_fits : [(100 : UInt8), 120, 255, 0].length < 256^4 := by decide +kernel

/-- A file of version 2 with four values. -/
def sampleFile : RxMerFile where
  majorVersion := 2
  minorVersion := 0
  captureTime := 1700000000
  ifIndex := 1001
  ccapId := "ccap-é"
  rpdId := #v[0, 17, 34, 51, 68, 85]
  rpdPortNumber := 7
  cmMac := #v[170, 187, 204, 221, 238, 255]
  numberOfAverages := 64
  preEqOn := true
  subcarrierZeroFrequency := 24000000
  firstActiveSubcarrier := 1
  subcarrierSpacingKhz := 50
  rxmerData := [100, 120, 255, 0]
  ccapId_fits := sampleId_fits
  ccapId_noZero := sampleId_noZero
  ccapId_stripped := sampleId_stripped
  rxmerData_fits := sampleData_fits

def sampleHelpers : PnmHelpers ℕ ℕ where
  macAddress := hex
  signalStatistics values := .ok values.length
  shannonSeries values := .ok values.length

theorem rxmer_file_parsed_sample :
    (∃ model, parse sampleHelpers sampleFile.encode = .ok model ∧
      sampleFile.Recovered sampleHelpers model) ∧
    ∃ e, parse sampleHelpers (sampleFile.encode.take 300) = .error e := by
  obtain ⟨hdecode, -, hcut, -⟩ := rxmer_file_parsed sampleHelpers
  have hlength : 300 < sampleFile.encode.length := by decide +kernel
  exact ⟨hdecode sampleFile ⟨_, _, rfl, rfl⟩, hcut sampleFile 300 hlength⟩

end CmtsUsOfdmaRxMerPerSubcarrier
end PypnmCmts
