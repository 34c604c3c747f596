import PypnmCmts.SnmpTable

/-! `cmts/channel_inventory_collector.py`: the four channel tables and their columns. -/
namespace PypnmCmts

/-- The rows of the channel tables, single carriers and OFDM, downstream and upstream. -/
structure ChannelInventory where
  dsScQam : List SnmpRow := []
  usScQam : List SnmpRow := []
  dsOfdm : List SnmpRow := []
  usOfdma : List SnmpRow := []

namespace ChannelInventory

def intColumns (fields : List String) : List SnmpColumn := fields.map fun field => ⟨field, .int⟩

def docsIfDownstreamChannelEntry : SnmpTable where
  walked := "docsIfDownChannelId"
  columns := intColumns ["docsIfDownChannelId", "docsIfDownChannelFrequency",
      "docsIfDownChannelWidth", "docsIfDownChannelModulation", "docsIfDownChannelInterleave"] ++
    [⟨"docsIfDownChannelPower", .unread⟩] ++
    intColumns ["docsIfDownChannelAnnex", "docsIfDownChannelStorageType"]

def docsIfUpstreamChannelEntry : SnmpTable where
  walked := "docsIfUpChannelId"
  columns := intColumns ["docsIfUpChannelId", "docsIfUpChannelFrequency", "docsIfUpChannelWidth",
      "docsIfUpChannelModulationProfile", "docsIfUpChannelSlotSize",
      "docsIfUpChannelTxTimingOffset", "docsIfUpChannelRangingBackoffStart",
      "docsIfUpChannelRangingBackoffEnd", "docsIfUpChannelTxBackoffStart",
      "docsIfUpChannelTxBackoffEnd", "docsIfUpChannelType", "docsIfUpChannelCloneFrom"] ++
    [⟨"docsIfUpChannelUpdate", .unread⟩] ++ intColumns ["docsIfUpChannelStatus"] ++
    [⟨"docsIfUpChannelPreEqEnable", .unread⟩]

def docsIf31CmtsDsOfdmChanRecord : SnmpTable where
  walked := "docsIf31CmtsDsOfdmChanChannelId"
  columns := intColumns ["docsIf31CmtsDsOfdmChanChannelId",
    "docsIf31CmtsDsOfdmChanLowerBdryFreq", "docsIf31CmtsDsOfdmChanUpperBdryFreq",
    "docsIf31CmtsDsOfdmChanLowerBdryEncompSpectrum",
    "docsIf31CmtsDsOfdmChanUpperBdryEncompSpectrum", "docsIf31CmtsDsOfdmChanPlcFreq",
    "docsIf31CmtsDsOfdmChanSubcarrierZeroFreq", "docsIf31CmtsDsOfdmChanFirstActiveSubcarrierNum",
    "docsIf31CmtsDsOfdmChanLastActiveSubcarrierNum", "docsIf31CmtsDsOfdmChanNumActiveSubcarriers",
    "docsIf31CmtsDsOfdmChanSubcarrierSpacing", "docsIf31CmtsDsOfdmChanLowerGuardbandWidth",
    "docsIf31CmtsDsOfdmChanUpperGuardbandWidth", "docsIf31CmtsDsOfdmChanCyclicPrefix",
    "docsIf31CmtsDsOfdmChanRollOffPeriod", "docsIf31CmtsDsOfdmChanTimeInterleaverDepth",
    "docsIf31CmtsDsOfdmChanNumPilots", "docsIf31CmtsDsOfdmChanPilotScaleFactor",
    "docsIf31CmtsDsOfdmChanNcpModulation", "docsIf31CmtsDsOfdmChanUtilization",
    "docsIf31CmtsDsOfdmChanPowerAdjust"]

def docsIf31CmtsUsOfdmaChanRecord : SnmpTable where
  walked := "docsIf31CmtsUsOfdmaChanId"
  columns := intColumns ["docsIf31CmtsUsOfdmaChanTemplateIndex",
      "docsIf31CmtsUsOfdmaChanConfigChangeCt", "docsIf31CmtsUsOfdmaChanTargetRxPower",
      "docsIf31CmtsUsOfdmaChanLowerBdryFreq", "docsIf31CmtsUsOfdmaChanUpperBdryFreq",
      "docsIf31CmtsUsOfdmaChanSubcarrierSpacing", "docsIf31CmtsUsOfdmaChanCyclicPrefix",
      "docsIf31CmtsUsOfdmaChanNumSymbolsPerFrame", "docsIf31CmtsUsOfdmaChanRollOffPeriod"] ++
    [⟨"docsIf31CmtsUsOfdmaChanPreEqEnable", .unread⟩] ++
    intColumns ["docsIf31CmtsUsOfdmaChanFineRngGuardband",
      "docsIf31CmtsUsOfdmaChanFineRngNumSubcarriers", "docsIf31CmtsUsOfdmaChanFineRngPreambleLen",
      "docsIf31CmtsUsOfdmaChanInitRngGuardband", "docsIf31CmtsUsOfdmaChanInitRngNumSubcarriers",
      "docsIf31CmtsUsOfdmaChanInitRngPreambleLen", "docsIf31CmtsUsOfdmaChanProvAttribMask",
      "docsIf31CmtsUsOfdmaChanTxBackoffStart", "docsIf31CmtsUsOfdmaChanTxBackoffEnd",
      "docsIf31CmtsUsOfdmaChanRangingBackoffStart", "docsIf31CmtsUsOfdmaChanRangingBackoffEnd",
      "docsIf31CmtsUsOfdmaChanUtilization", "docsIf31CmtsUsOfdmaChanId",
      "docsIf31CmtsUsOfdmaChanSubcarrierZeroFreq", "docsIf31CmtsUsOfdmaChanTargetMapInterval",
      "docsIf31CmtsUsOfdmaChanUpChannelTotalCms"]

/-- The channel that a row of a table is about. -/
def channelId (table : SnmpTable) (row : SnmpRow) : ℤ := (row.int table.walked).getD 0

variable (env : SnmpEnvironment)

/-- A getter of the operation: no entries if anything fails. -/
def getEntries (table : SnmpTable) : Collecting (List SnmpRow) :=
  (SnmpTable.getAll env .channels table).rescue []

def getDocsIfDownstreamChannelEntry : Collecting (List SnmpRow) :=
  getEntries env docsIfDownstreamChannelEntry

def getDocsIfUpstreamChannelEntry : Collecting (List SnmpRow) :=
  getEntries env docsIfUpstreamChannelEntry

def getDocsIf31CmtsDsOfdmChanEntry : Collecting (List SnmpRow) :=
  getEntries env docsIf31CmtsDsOfdmChanRecord

def getDocsIf31CmtsUsOfdmaChanEntry : Collecting (List SnmpRow) :=
  getEntries env docsIf31CmtsUsOfdmaChanRecord

def fetchChannelInventory (adapter : CmtsAdapterConfig) : Collecting ChannelInventory := do
  env.connect .channels adapter
  let dsScQam ← getDocsIfDownstreamChannelEntry env
  let usScQam ← getDocsIfUpstreamChannelEntry env
  let dsOfdm ← getDocsIf31CmtsDsOfdmChanEntry env
  let usOfdma ← getDocsIf31CmtsUsOfdmaChanEntry env
  pure { dsScQam, usScQam, dsOfdm, usOfdma }

section Rules
open Attempt SnmpEnvironment
variable {env}

theorem getEntries_raises (table : SnmpTable) : RaisesThrough (getEntries env table) :=
  .rescue (SnmpTable.getAll_within table) []

theorem fetchChannelInventory_raises (adapter : CmtsAdapterConfig) :
    RaisesThrough (fetchChannelInventory env adapter) := by
  refine (connect_raises adapter).bind fun _ => ?_
  refine (getEntries_raises _).bind fun dsScQam => ?_
  refine (getEntries_raises _).bind fun usScQam => ?_
  refine (getEntries_raises _).bind fun dsOfdm => ?_
  exact (getEntries_raises _).bind fun usOfdma => .pure _

end Rules
end ChannelInventory
end PypnmCmts
