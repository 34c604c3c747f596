import Mathlib.Algebra.Order.Ring.Rat
import PypnmCmts.FixedLayout
import PypnmCmts.PyCodecs

/-! `pnm/parser`: the header of the PNM files that a CMTS writes, and the files with the RxMER of
the subcarriers of an upstream OFDMA channel. -/
namespace PypnmCmts

/-- CMTS-specific PNM file type identifiers. -/
inductive CmtsPnmFileType
  | usOfdmaRxmerPerSubcarrier
deriving DecidableEq

namespace CmtsPnmFileType

def value : CmtsPnmFileType → String
  | .usOfdmaRxmerPerSubcarrier => "PNNi"

def ofValue (text : String) : Option CmtsPnmFileType :=
  if text = usOfdmaRxmerPerSubcarrier.value then some .usOfdmaRxmerPerSubcarrier else none

end CmtsPnmFileType

/-- Typed fields parsed from a CMTS PNM header. -/
structure CmtsPnmHeaderParameters where
  fileType : CmtsPnmFileType
  majorVersion : ℕ
  minorVersion : ℕ
  captureTime : ℕ
  ifIndex : ℕ
  uniqueCcapId : String
  rpdId : String
  rpdPortNumber : ℕ
deriving DecidableEq

/-- What the parsers take from the PyPNM package: the text of a MAC address, for six octets are
always one, and the statistics of a series. -/
structure PnmHelpers (σ μ : Type) where
  macAddress : List UInt8 → String
  signalStatistics : List ℚ → Except String σ
  shannonSeries : List ℚ → Except String μ

namespace CmtsPnmHeader
open FixedLayout

def headerFormat : FixedLayout (List UInt8 × ℕ × ℕ × ℕ) :=
  seq (raw 4) (seq (unsigned 1) (seq (unsigned 1) (unsigned 4)))

def extendedHeaderV1Format : FixedLayout (ℕ × List UInt8) := seq (unsigned 4) (raw 256)

def extendedHeaderV2SuffixFormat : FixedLayout (List UInt8 × ℕ) := seq (raw 6) (unsigned 1)

/-- `bytes(octets).decode("ascii", errors="ignore")`. -/
def decodeAscii (octets : List UInt8) : String :=
  String.ofList ((octets.filter fun octet => octet.toNat < 128).map fun octet =>
    Char.ofNat octet.toNat)

def hex (octets : List UInt8) : String :=
  String.ofList (octets.flatMap fun octet => PyConvert.hexOctet octet.toNat)

/-- The type of the file, which must be the one that the parser is for. -/
def fileTypeOf (pnmFileType : Option CmtsPnmFileType) (fileTypeRaw : List UInt8) :
    Except String CmtsPnmFileType :=
  match CmtsPnmFileType.ofValue (decodeAscii fileTypeRaw) with
  | none => .error s!"Invalid CMTS PNM file type: {hex fileTypeRaw}"
  | some fileType =>
    match pnmFileType with
    | none => .ok fileType
    | some pnmFileType =>
      if fileType = pnmFileType then .ok fileType
      else
        let expected := String.ofList (pnmFileType.value.toList.flatMap fun c =>
          PyConvert.hexOctet c.toNat)
        .error s!"Invalid file type: expected {expected}, got {hex fileTypeRaw}"

/-- The id stands before the first zero of its field. -/
def uniqueCcapId (uniqueCcapIdRaw : List UInt8) : String :=
  PyText.strip (PyConvert.decodeUtf8Ignore
    ((uniqueCcapIdRaw.takeWhile fun octet => octet ≠ 0).map UInt8.toNat))

/-- The fields that version 2 adds, and where the payload begins. -/
def rpdFields (majorVersion : ℕ) (binaryData : List UInt8) :
    Except String ((List UInt8 × ℕ) × ℕ) :=
  let v1End := headerFormat.size+extendedHeaderV1Format.size
  let v2SuffixSize := extendedHeaderV2SuffixFormat.size
  if 2 ≤ majorVersion then
    if binaryData.length < v1End+v2SuffixSize then
      .error "Binary data too short to contain CMTS PNM v2+ RPD fields."
    else do
      let suffix ← extendedHeaderV2SuffixFormat.unpack ((binaryData.drop v1End).take v2SuffixSize)
      pure (suffix, v1End+v2SuffixSize)
  else pure ((List.replicate 6 0, 0), v1End)

/-- The parameters of the header, and the data behind it. -/
def parseHeader (macAddress : List UInt8 → String) (pnmFileType : Option CmtsPnmFileType)
    (binaryData : List UInt8) : Except String (CmtsPnmHeaderParameters × List UInt8) :=
  let headerSize := headerFormat.size
  let extendedV1Size := extendedHeaderV1Format.size
  if binaryData.length < headerSize+extendedV1Size then
    .error "Binary data too short to contain CMTS PNM header."
  else do
    let (fileTypeRaw, majorVersion, minorVersion, captureTime) ←
      headerFormat.unpack (binaryData.take headerSize)
    let fileType ← fileTypeOf pnmFileType fileTypeRaw
    let (ifIndex, uniqueCcapIdRaw) ←
      extendedHeaderV1Format.unpack ((binaryData.drop headerSize).take extendedV1Size)
    let ((rpdIdRaw, rpdPortNumber), payloadOffset) ← rpdFields majorVersion binaryData
    pure
      ({ fileType, majorVersion, minorVersion, captureTime, ifIndex
         uniqueCcapId := uniqueCcapId uniqueCcapIdRaw
         rpdId := macAddress rpdIdRaw, rpdPortNumber }, binaryData.drop payloadOffset)

end CmtsPnmHeader

/-- Canonical payload for CMTS upstream OFDMA RxMER per subcarrier captures. -/
structure CmtsUsOfdmaRxMerPerSubcarrierModel (σ μ : Type) where
  pnmHeader : CmtsPnmHeaderParameters
  macAddress : String
  numberOfAverages : ℕ
  preEqOn : Bool
  subcarrierZeroCenterFrequency : ℕ
  firstActiveSubcarrierIndex : ℕ
  subcarrierSpacing : ℕ
  dataLength : ℕ
  occupiedChannelBandwidth : ℕ
  valueUnits : String := "dB"
  values : List ℚ
  signalStatistics : σ
  modulationStatistics : μ

namespace CmtsUsOfdmaRxMerPerSubcarrier
open FixedLayout
variable {σ μ : Type}

def payloadHeaderFormat : FixedLayout (List UInt8 × ℕ × ℕ × ℕ × ℕ × ℕ × ℕ) :=
  seq (raw 6) (seq (unsigned 2) (seq (unsigned 1) (seq (unsigned 4) (seq (unsigned 2)
    (seq (unsigned 1) (unsigned 4))))))

/-- `KHZ` of the PyPNM package. -/
def khz : ℕ := 1000

/-- Quarter-dB encoded values. -/
def rxmerValue (octet : UInt8) : ℚ := min (max ((octet.toNat : ℚ)/4) 0) (127/2)

/-- The payload behind the header. -/
def process (helpers : PnmHelpers σ μ) (pnmHeader : CmtsPnmHeaderParameters)
    (pnmData : List UInt8) : Except String (CmtsUsOfdmaRxMerPerSubcarrierModel σ μ) :=
  let payloadHeaderSize := payloadHeaderFormat.size
  if pnmData.length < payloadHeaderSize then
    .error "Binary data too short to contain CMTS US OFDMA RxMER payload header."
  else do
    let (cmMacRaw, numberOfAverages, preEqOnRaw, subcarrierZeroCenterFrequency,
        firstActiveSubcarrierIndex, subcarrierSpacingKhz, rxmerDataLength) ←
      payloadHeaderFormat.unpack (pnmData.take payloadHeaderSize)
    let rxmerData := (pnmData.drop payloadHeaderSize).take rxmerDataLength
    if rxmerData.length < rxmerDataLength then
      .error s!"Insufficient RxMER data length: {rxmerData.length} based on header field: {rxmerDataLength}"
    else
      let subcarrierSpacing := subcarrierSpacingKhz*khz
      let values := rxmerData.map rxmerValue
      let signalStatistics ← helpers.signalStatistics values
      let modulationStatistics ← helpers.shannonSeries values
      pure
        { pnmHeader, macAddress := helpers.macAddress cmMacRaw, numberOfAverages
          preEqOn := preEqOnRaw ≠ 0, subcarrierZeroCenterFrequency, firstActiveSubcarrierIndex
          subcarrierSpacing, dataLength := rxmerDataLength
          occupiedChannelBandwidth := rxmerDataLength*subcarrierSpacing
          values, signalStatistics, modulationStatistics }

def parse (helpers : PnmHelpers σ μ) (binaryData : List UInt8) :
    Except String (CmtsUsOfdmaRxMerPerSubcarrierModel σ μ) := do
  let (pnmHeader, pnmData) ← CmtsPnmHeader.parseHeader helpers.macAddress
    (some .usOfdmaRxmerPerSubcarrier) binaryData
  process helpers pnmHeader pnmData

/-- The frequency of each value. -/
def getFrequencies (model : CmtsUsOfdmaRxMerPerSubcarrierModel σ μ) : List ℕ :=
  let spacing := model.subcarrierSpacing
  let count := model.dataLength
  if spacing ≤ 0 ∨ count ≤ 0 then []
  else
    let start := model.subcarrierZeroCenterFrequency+spacing*model.firstActiveSubcarrierIndex
    (List.range count).map fun i => start+i*spacing

end CmtsUsOfdmaRxMerPerSubcarrier
end PypnmCmts
