import Mathlib.Data.Prod.Lex
import Mathlib.Data.String.Basic
import PypnmCmts.KeyedSort
import PypnmCmts.OperationModels
import PypnmCmts.OrderedDict

/-! The structured results of `rxmer/service.py`: the stage records of an operation are gathered
by modem, and the modems by service group and channel. What a stored capture holds is read by the
PyPNM package and stands here as a parameter. -/
namespace PypnmCmts

inductive PnmCaptureStatus
  | success | failed | skipped
deriving DecidableEq

/-- The analysis types of the PyPNM package: the member the service names, and the rest. -/
inductive AnalysisType
  | basic | other (value : ℕ)
deriving DecidableEq

structure PnmResultsAnalysisRequest where
  type : AnalysisType := .basic

structure RxMerServiceGroupResultsRequest where
  analysis : PnmResultsAnalysisRequest := {}

/-- How the values of a decoded payload read as integers and as text. -/
structure PayloadValues (Value : Type) where
  asInt : Value → Option ChannelId
  asText : Value → String

/-- What the PyPNM package makes of the stored file of a transaction. -/
structure StoredAnalysis (Value : Type) where
  pnmFileType : Option String := none
  systemDescription : Option (OrderedDict String Value) := none
  analysis : Option (OrderedDict String Value) := none
  error : Option String := none

structure PnmStoredCaptureAnalysisResultModel (Value : Type) extends StoredAnalysis Value where
  transactionId : TransactionId

structure PnmResultsStageStatusCodesModel where
  eligibility : Option ServiceStatusCode := none
  precheck : Option ServiceStatusCode := none
  capture : Option ServiceStatusCode := none
deriving DecidableEq

structure PnmResultsStageMessagesModel where
  eligibility : Option String := none
  precheck : Option String := none
  capture : Option String := none
deriving DecidableEq

structure PnmAnalyzedFileLinkModel where
  transactionId : Option String := none
  filename : Option String := none
deriving DecidableEq

structure RxMerResultsDataModel (Value : Type) where
  file : Option PnmAnalyzedFileLinkModel := none
  pnmFileType : Option String := none
  analysis : Option (OrderedDict String Value) := none
  analysisError : Option String := none
  stageStatusCodes : PnmResultsStageStatusCodesModel := {}
  stageMessages : Option PnmResultsStageMessagesModel := none

structure RxMerResultsCableModemModel (Value : Type) where
  macAddress : Option MacAddressStr := none
  systemDescription : Option (OrderedDict String String) := none
  status : PnmCaptureStatus := .failed
  message : String := ""
  rxmerData : RxMerResultsDataModel Value := {}

structure RxMerResultsChannelModel (Value : Type) where
  channelId : Option ChannelId := none
  serviceGroupId : Option ServiceGroupId := none
  cableModems : List (RxMerResultsCableModemModel Value) := []

structure RxMerResultsServingGroupModel (Value : Type) where
  serviceGroupId : Option ServiceGroupId := none
  channels : List (RxMerResultsChannelModel Value) := []

structure RxMerServiceGroupResultsModel (Value : Type) where
  captureTimeEpoch : Option TimestampSec := none
  cmtsHostname : Option String := none
  channels : List (RxMerResultsChannelModel Value) := []
  servingGroups : List (RxMerResultsServingGroupModel Value) := []

namespace RxMerResults

/-- Add the values that are not in the list yet. -/
def appendNew {α : Type} [DecidableEq α] (seen values : List α) : List α :=
  values.foldl (fun seen value => if value ∈ seen then seen else seen ++ [value]) seen

def stageOrder : OperationStage → ℕ
  | .eligibility => 1
  | .precheck => 2
  | .capture => 3

def selectFinalStageRecord (modemStageRecords : List PerModemLinkageRecordModel) :
    Option PerModemLinkageRecordModel :=
  -- the sort is stable: of the records of the last stage the latest one counts
  (KeyedSort.sortBy (fun record => stageOrder record.stage) modemStageRecords).getLast?

def setStageStatusCode (codes : PnmResultsStageStatusCodesModel)
    (record : PerModemLinkageRecordModel) : PnmResultsStageStatusCodesModel :=
  match record.stage with
  | .eligibility => { codes with eligibility := some record.statusCode }
  | .precheck => { codes with precheck := some record.statusCode }
  | .capture => { codes with capture := some record.statusCode }

def setStageMessage (messages : PnmResultsStageMessagesModel)
    (record : PerModemLinkageRecordModel) : PnmResultsStageMessagesModel :=
  match record.stage with
  | .eligibility => { messages with eligibility := some record.message }
  | .precheck => { messages with precheck := some record.message }
  | .capture => { messages with capture := some record.message }

/-- The one channel that the capture records agree on. -/
def resolveModemChannelId (modemStageRecords : List PerModemLinkageRecordModel) :
    Option ChannelId :=
  let captureChannelIds := (modemStageRecords.filter fun record =>
    record.stage = .capture).filterMap fun record => record.channelId
  -- records that name different channels settle nothing
  match appendNew [] captureChannelIds with
  | [channelId] => some channelId
  | _ => none

def analysisRequested (request : Option RxMerServiceGroupResultsRequest) : Bool :=
  request.any fun request => request.analysis.type = .basic

section Analysis
variable {Value : Type} (values : PayloadValues Value)
  (stored : TransactionId → StoredAnalysis Value)

def analyzeTransactionBasic (transactionId : TransactionId) :
    PnmStoredCaptureAnalysisResultModel Value :=
  { toStoredAnalysis := stored transactionId, transactionId := transactionId }

/-- The analysis of each transaction on its own. The order in which the workers end shows in the
order of the entries only, and nobody reads it. -/
def analyzeTransactionsBasic (transactionIds : List TransactionId) :
    OrderedDict TransactionId (PnmStoredCaptureAnalysisResultModel Value) :=
  match appendNew [] transactionIds with
  | [] => .empty
  | [transactionId] =>
    let result := analyzeTransactionBasic stored transactionId
    OrderedDict.empty.insert result.transactionId result
  | unique => unique.foldl (fun results transactionId =>
      results.insert transactionId (analyzeTransactionBasic stored transactionId)) .empty

/-- The transactions of the captures that went well. -/
def capturedTransactionIds (records : List PerModemLinkageRecordModel) : List TransactionId :=
  (records.filter fun record => record.stage = .capture ∧ record.statusCode = .success).flatMap
    fun record => record.transactionIds

def decodeRecordsBasicAnalysis (request : Option RxMerServiceGroupResultsRequest)
    (records : List PerModemLinkageRecordModel) :
    OrderedDict TransactionId (PnmStoredCaptureAnalysisResultModel Value) :=
  if analysisRequested request = false then .empty
  else if capturedTransactionIds records = [] then .empty
  else analyzeTransactionsBasic stored (capturedTransactionIds records)

variable (decodedByTxn : OrderedDict TransactionId (PnmStoredCaptureAnalysisResultModel Value))

/-- The first of the modem's transactions that was decoded. -/
def resolveModemAnalysis (request : Option RxMerServiceGroupResultsRequest)
    (modemStatus : PnmCaptureStatus) (transactionIds : List TransactionId) :
    Option (TransactionId × PnmStoredCaptureAnalysisResultModel Value) :=
  if analysisRequested request = false then none
  else if modemStatus ≠ .success then none
  else transactionIds.findSome? fun transactionId =>
    (decodedByTxn.lookup transactionId).map fun decoded => (transactionId, decoded)

def normalizeDescription (description : OrderedDict String Value) :
    Option (OrderedDict String String) :=
  let normalized := description.entries.foldl (fun normalized entry =>
    normalized.insert entry.1 (values.asText entry.2)) OrderedDict.empty
  if normalized.entries = [] then none else some normalized

def resolveModemSystemDescription (transactionIds : List TransactionId)
    (analyzedTransactionId : Option TransactionId) : Option (OrderedDict String String) :=
  let selectedIds := analyzedTransactionId.toList ++
    transactionIds.filter fun transactionId => some transactionId ≠ analyzedTransactionId
  let description := selectedIds.findSome? fun transactionId =>
    (decodedByTxn.lookup transactionId).bind fun decoded => decoded.systemDescription
  description.bind (normalizeDescription values)

def resolveChannelIdFromAnalysisPayload (payload : Option (OrderedDict String Value)) :
    Option ChannelId :=
  payload.bind fun payload => (payload.lookup "channel_id").bind values.asInt

def buildModemFileLink (transactionIds : List TransactionId) (filenames : List FileNameStr)
    (analyzedTransactionId : Option TransactionId) : Option PnmAnalyzedFileLinkModel :=
  if transactionIds = [] ∧ filenames = [] then none
  else
    -- the two lists are kept apart, so a file can stand beside another transaction
    let selectedIndex := match analyzedTransactionId with
      | none => 0
      | some analyzed => if analyzed ∈ transactionIds then transactionIds.idxOf analyzed else 0
    let transactionId := transactionIds[selectedIndex]?
    let filename := filenames[selectedIndex]?
    if transactionId = none ∧ filename = none then none
    else some { transactionId := transactionId, filename := filename }

/-- The records that a modem's transactions and files are taken from. -/
def sourceRecords (modemStageRecords : List PerModemLinkageRecordModel) :
    List PerModemLinkageRecordModel :=
  let captureRecords := modemStageRecords.filter fun record => record.stage = .capture
  if captureRecords = [] then modemStageRecords else captureRecords

def modemTransactionIds (modemStageRecords : List PerModemLinkageRecordModel) :
    List TransactionId :=
  (sourceRecords modemStageRecords).foldl (fun seen record =>
    appendNew seen record.transactionIds) []

def modemFilenames (modemStageRecords : List PerModemLinkageRecordModel) : List FileNameStr :=
  (sourceRecords modemStageRecords).foldl (fun seen record => appendNew seen record.filenames) []

def modemStatus (modemStageRecords : List PerModemLinkageRecordModel) :
    PnmCaptureStatus × String :=
  match selectFinalStageRecord modemStageRecords with
  | none => (.failed, "")
  | some record => (if record.statusCode = .success then .success else .failed, record.message)

def modemStageMessages (modemStageRecords : List PerModemLinkageRecordModel) :
    Option PnmResultsStageMessagesModel :=
  let told := modemStageRecords.filter fun record => record.message ≠ ""
  if told = [] then none else some (told.foldl setStageMessage {})

/-- One turn of the loop over the modems: the channel and the entry of a modem. -/
def modemEntry (request : Option RxMerServiceGroupResultsRequest) (mac : MacAddressStr)
    (modemStageRecords : List PerModemLinkageRecordModel) :
    Option ChannelId × RxMerResultsCableModemModel Value :=
  let transactionIds := modemTransactionIds modemStageRecords
  let filenames := modemFilenames modemStageRecords
  let (status, message) := modemStatus modemStageRecords
  let resolved := resolveModemAnalysis decodedByTxn request status transactionIds
  let analysisPayload := resolved.bind fun found => found.2.analysis
  let analyzedTransactionId := resolved.map fun found => found.1
  -- the decoded file names the channel where the records do not
  let channelId := match resolveModemChannelId modemStageRecords with
    | some channelId => some channelId
    | none => resolveChannelIdFromAnalysisPayload values analysisPayload
  (channelId,
    { macAddress := some mac
      systemDescription := resolveModemSystemDescription values decodedByTxn transactionIds
        analyzedTransactionId
      status := status
      message := message
      rxmerData :=
        { file := buildModemFileLink transactionIds filenames analyzedTransactionId
          pnmFileType := resolved.bind fun found => found.2.pnmFileType
          analysis := analysisPayload
          analysisError := resolved.bind fun found => found.2.error
          stageStatusCodes := modemStageRecords.foldl setStageStatusCode {}
          stageMessages := modemStageMessages modemStageRecords } })

end Analysis

section Grouping
variable {Value : Type}

abbrev GroupKey := Option ServiceGroupId × Option ChannelId

/-- A missing number sorts before all others. -/
def orderOf (number : Option ℕ) : ℤ := number.elim (-1) fun n => n

def groupOrder (key : GroupKey) : ℤ ×ₗ ℤ := toLex (orderOf key.1, orderOf key.2)

/-- A modem joins the channel of its key, which it opens if need be. -/
def addModem (channelsByKey : OrderedDict GroupKey (RxMerResultsChannelModel Value))
    (key : GroupKey) (modem : RxMerResultsCableModemModel Value) :
    OrderedDict GroupKey (RxMerResultsChannelModel Value) :=
  let channelGroup := (channelsByKey.lookup key).getD
    { channelId := key.2, serviceGroupId := key.1 }
  channelsByKey.insert key
    { channelGroup with cableModems := channelGroup.cableModems ++ [modem] }

def buildServingGroupsFromChannels (channels : List (RxMerResultsChannelModel Value)) :
    List (RxMerResultsServingGroupModel Value) :=
  let grouped := channels.foldl (fun grouped channel =>
    grouped.push channel.serviceGroupId channel) OrderedDict.empty
  (KeyedSort.sortBy orderOf grouped.keys).map fun sgId =>
    { serviceGroupId := sgId, channels := (grouped.lookup sgId).getD [] }

end Grouping

/-- The stage records of each modem, under its address. -/
def modemRecords (records : List PerModemLinkageRecordModel) :
    OrderedDict MacAddressStr (List PerModemLinkageRecordModel) :=
  records.foldl (fun modemRecords record => modemRecords.push record.macAddress record) .empty

def captureFinishedEpochs (records : List PerModemLinkageRecordModel) : List TimestampSec :=
  (records.filter fun record => record.stage = .capture ∧ 0 < record.finishedEpoch).map
    fun record => record.finishedEpoch

variable {Value : Type} (values : PayloadValues Value)
  (stored : TransactionId → StoredAnalysis Value)

/-- The group and the entry of a modem. The group is that of its first record. -/
def modemRow (request : Option RxMerServiceGroupResultsRequest)
    (decodedByTxn : OrderedDict TransactionId (PnmStoredCaptureAnalysisResultModel Value))
    (mac : MacAddressStr) (modemStageRecords : List PerModemLinkageRecordModel) :
    GroupKey × RxMerResultsCableModemModel Value :=
  let entry := modemEntry values decodedByTxn request mac modemStageRecords
  ((modemStageRecords.head?.map fun record => record.sgId, entry.1), entry.2)

/-- The channels with their modems, before they are sorted. -/
def groupModems (rows : List (GroupKey × RxMerResultsCableModemModel Value)) :
    OrderedDict GroupKey (RxMerResultsChannelModel Value) :=
  rows.foldl (fun channelsByKey row => addModem channelsByKey row.1 row.2) .empty

def buildStructuredResults (records : List PerModemLinkageRecordModel)
    (request : Option RxMerServiceGroupResultsRequest) (cmtsHostname : Option String) :
    RxMerServiceGroupResultsModel Value :=
  let decodedByTxn := decodeRecordsBasicAnalysis stored request records
  let byModem := modemRecords records
  let rows := (KeyedSort.sortBy id byModem.keys).map fun mac =>
    modemRow values request decodedByTxn mac ((byModem.lookup mac).getD [])
  let channelsByKey := groupModems rows
  let channels := (KeyedSort.sortBy groupOrder channelsByKey.keys).filterMap channelsByKey.lookup
  -- the channels are listed under their groups only
  { captureTimeEpoch := (captureFinishedEpochs records).max?
    cmtsHostname := cmtsHostname
    channels := []
    servingGroups := buildServingGroupsFromChannels channels }

end RxMerResults
end PypnmCmts
