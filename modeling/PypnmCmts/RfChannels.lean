import Mathlib.Data.List.Dedup
import Mathlib.Data.Prod.Lex
import Mathlib.Data.String.Basic
import PypnmCmts.ChannelInventory
import PypnmCmts.KeyedSort

/-! `sgw/pollers/heavy.py`: how the RF channels of a snapshot are made from the channel tables, and
how channels and modems are put in order. -/
namespace PypnmCmts
namespace HeavyPoller

def normalizeChannels (channelIds : List ℤ) : List ℤ :=
  KeyedSort.sortBy id (channelIds.filter fun channelId => 0 < channelId).dedup

/-- The first modem of each identity, sorted. -/
def normalizeModems (modems : List SgwCableModemModel) : List SgwCableModemModel :=
  let key (modem : SgwCableModemModel) : MacAddressStr × IPv4Str × IPv6Str :=
    (modem.mac, modem.ipv4, modem.ipv6)
  let seen := modems.foldl (fun seen modem =>
    if (seen.lookup (key modem)).isSome then seen else seen.insert (key modem) modem)
    OrderedDict.empty
  KeyedSort.sortBy (fun modem => toLex (modem.mac, toLex (modem.ipv4, modem.ipv6))) seen.values

/-- `str` of a channel type. -/
def channelTypeText : RfChannelType → String
  | .scQam => "RfChannelType.SC_QAM"
  | .ofdm => "RfChannelType.OFDM"
  | .ofdma => "RfChannelType.OFDMA"

def normalizeRfChannels (channels : List SgwRfChannelModel) (channelIds : List ℤ) :
    List SgwRfChannelModel :=
  let allowed := channelIds.filter fun value => 0 < value
  -- with no channel listed, every positive channel is let through
  let ordered := channels.filter fun channel =>
    0 < channel.channelId ∧ (allowed = [] ∨ channel.channelId ∈ allowed)
  KeyedSort.sortBy (fun entry => toLex (entry.channelId, channelTypeText entry.channelType)) ordered

/-- The row of each channel of a table. A later row of a channel replaces an earlier one. -/
def channelMap (table : SnmpTable) (rows : List SnmpRow) : OrderedDict ℤ SnmpRow :=
  (rows.filter fun row => 0 < ChannelInventory.channelId table row).foldl
    (fun entries row => entries.insert (ChannelInventory.channelId table row) row) .empty

def calculateScQamBounds : Option ℤ → Option ℤ → Option ℤ × Option ℤ
  | some center, some channelWidth =>
    let halfWidth := channelWidth/2
    (some (center-halfWidth), some (center+halfWidth))
  | _, _ => (none, none)

/-- The bounds of an OFDM channel from its subcarriers. -/
def calculateOfdmBounds (entry : SnmpRow) : Option (ℤ × ℤ) := do
  let base ← entry.int "docsIf31CmtsDsOfdmChanSubcarrierZeroFreq"
  let firstActive ← entry.int "docsIf31CmtsDsOfdmChanFirstActiveSubcarrierNum"
  let lastActive ← entry.int "docsIf31CmtsDsOfdmChanLastActiveSubcarrierNum"
  let subcarrierSpacing ← entry.int "docsIf31CmtsDsOfdmChanSubcarrierSpacing"
  let lowerGuardband ← entry.int "docsIf31CmtsDsOfdmChanLowerGuardbandWidth"
  let upperGuardband ← entry.int "docsIf31CmtsDsOfdmChanUpperGuardbandWidth"
  -- the lower bound counts the subcarriers from one, the upper bound from zero
  if firstActive ≤ 0 then none
  else some (base-(firstActive-1)*subcarrierSpacing-lowerGuardband,
    lastActive*subcarrierSpacing+base+upperGuardband)

/-- `_calculate_ofdm_width`, and `_calculate_ofdma_width` alike. -/
def calculateOfdmWidth : Option ℤ → Option ℤ → Option ℤ
  | some lower, some upper => if upper < lower then none else some (upper-lower)
  | _, _ => none

def calculateOfdmaStartFrequency (entry : SnmpRow) (lowerFrequencyHz : Option ℤ) : Option ℤ := do
  let base ← lowerFrequencyHz
  let spacing ← entry.int "docsIf31CmtsUsOfdmaChanSubcarrierSpacing"
  let zero ← entry.int "docsIf31CmtsUsOfdmaChanSubcarrierZeroFreq"
  pure (base+zero*spacing)

/-- A channel without an OFDM row is a single carrier, known or not. -/
def scQamChannel (channelId : ℤ) (row : Option SnmpRow) (frequencyField widthField : String) :
    SgwRfChannelModel :=
  let center := row.bind fun entry => entry.int frequencyField
  let width := row.bind fun entry => entry.int widthField
  let bounds := calculateScQamBounds center width
  { channelId, channelType := .scQam, centerFrequencyHz := center, channelWidthHz := width
    lowerFrequencyHz := bounds.1, upperFrequencyHz := bounds.2 }

/-- The bounds from the subcarriers, else those of the table. -/
def ofdmChannel (channelId : ℤ) (entry : SnmpRow) : SgwRfChannelModel :=
  let bounds := match calculateOfdmBounds entry with
    | some (lower, upper) => (some lower, some upper)
    | none => (entry.int "docsIf31CmtsDsOfdmChanLowerBdryFreq",
      entry.int "docsIf31CmtsDsOfdmChanUpperBdryFreq")
  { channelId, channelType := .ofdm, plcFrequencyHz := entry.int "docsIf31CmtsDsOfdmChanPlcFreq"
    channelWidthHz := calculateOfdmWidth bounds.1 bounds.2
    lowerFrequencyHz := bounds.1, upperFrequencyHz := bounds.2 }

def ofdmaChannel (channelId : ℤ) (entry : SnmpRow) : SgwRfChannelModel :=
  let lower := entry.int "docsIf31CmtsUsOfdmaChanLowerBdryFreq"
  let upper := entry.int "docsIf31CmtsUsOfdmaChanUpperBdryFreq"
  { channelId, channelType := .ofdma
    startFrequencyHz := calculateOfdmaStartFrequency entry lower
    channelWidthHz := calculateOfdmWidth lower upper
    lowerFrequencyHz := lower, upperFrequencyHz := upper }

def buildDsRfChannels (channelIds : List ℤ) (scQamEntries ofdmEntries : List SnmpRow) :
    List SgwRfChannelModel :=
  let scQamMap := channelMap ChannelInventory.docsIfDownstreamChannelEntry scQamEntries
  let ofdmMap := channelMap ChannelInventory.docsIf31CmtsDsOfdmChanRecord ofdmEntries
  (normalizeChannels channelIds).map fun channelId =>
    match ofdmMap.lookup channelId with
    | some entry => ofdmChannel channelId entry
    | none => scQamChannel channelId (scQamMap.lookup channelId) "docsIfDownChannelFrequency"
      "docsIfDownChannelWidth"

def buildUsRfChannels (channelIds : List ℤ) (scQamEntries ofdmaEntries : List SnmpRow) :
    List SgwRfChannelModel :=
  let scQamMap := channelMap ChannelInventory.docsIfUpstreamChannelEntry scQamEntries
  let ofdmaMap := channelMap ChannelInventory.docsIf31CmtsUsOfdmaChanRecord ofdmaEntries
  (normalizeChannels channelIds).map fun channelId =>
    match ofdmaMap.lookup channelId with
    | some entry => ofdmaChannel channelId entry
    | none => scQamChannel channelId (scQamMap.lookup channelId) "docsIfUpChannelFrequency"
      "docsIfUpChannelWidth"

end HeavyPoller
end PypnmCmts
