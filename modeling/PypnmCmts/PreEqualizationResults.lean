import PypnmCmts.RxMerResults
import PypnmCmts.ResultsAttribution

/-! The structured results of `pre_equalization/service.py`. What the service does word for word
as the RxMER service does it is that of `RxMerResults`: the transactions, files and stages of a
modem, its file link and its channel. -/
namespace PypnmCmts

/-- How the values of a decoded payload read, and the values that the service puts in itself. -/
structure PreEqualizationValues (Value : Type) extends PayloadValues Value where
  isNone : Value → Bool
  asDict : Value → Option (OrderedDict String Value)
  asReals : Value → Option (List ℚ)
  none : Value
  ofReals : List ℚ → Value
  ofDict : OrderedDict String Value → Value

structure PreEqualizationResultsDataModel (Value : Type) where
  file : Option PnmAnalyzedFileLinkModel := none
  channelEstimateMagnitudeDb : Option (List ℚ) := none
  pnmFileType : Option String := none
  analysis : Option (OrderedDict String Value) := none
  analysisError : Option String := none
  stageStatusCodes : PnmResultsStageStatusCodesModel := {}
  stageMessages : Option PnmResultsStageMessagesModel := none

structure PreEqualizationResultsCableModemModel (Value : Type) where
  macAddress : Option MacAddressStr := none
  systemDescription : Option (OrderedDict String String) := none
  status : PnmCaptureStatus := .failed
  message : String := ""
  preEqualizationData : PreEqualizationResultsDataModel Value := {}

structure PreEqualizationResultsChannelModel (Value : Type) where
  channelId : Option ChannelId := none
  serviceGroupId : Option ServiceGroupId := none
  cableModems : List (PreEqualizationResultsCableModemModel Value) := []

structure PreEqualizationResultsServingGroupModel (Value : Type) where
  serviceGroupId : Option ServiceGroupId := none
  channels : List (PreEqualizationResultsChannelModel Value) := []

structure PreEqualizationServiceGroupResultsModel (Value : Type) where
  captureTimeEpoch : Option TimestampSec := none
  cmtsHostname : Option String := none
  channels : List (PreEqualizationResultsChannelModel Value) := []
  servingGroups : List (PreEqualizationResultsServingGroupModel Value) := []

namespace PreEqualizationResults
open RxMerResults

variable {Value : Type} (values : PreEqualizationValues Value)

/-- A value that a dictionary has and that is not `None`. -/
def getValue (payload : OrderedDict String Value) (key : String) : Option Value :=
  (payload.lookup key).filter fun value => !values.isNone value

def resolveChannelEstimateMagnitudeDb (payload : Option (OrderedDict String Value)) :
    Option (List ℚ) :=
  payload.bind fun payload =>
    let value := match getValue values payload "channel_estimate_magnitude_db" with
      | some value => some value
      | none => (getValue values payload "carrier_values").bind fun carrierValues =>
        (values.asDict carrierValues).bind fun carrierValues =>
          carrierValues.lookup "channel_estimate_magnitude_db"
    value.bind values.asReals

def normalizePreEqualizationAnalysisPayload (payload : Option (OrderedDict String Value)) :
    Option (OrderedDict String Value) :=
  payload.map fun analysisPayload =>
    match resolveChannelEstimateMagnitudeDb values payload with
    | none => analysisPayload
    | some magnitudeDb =>
      let magnitude := values.ofReals magnitudeDb
      let normalized := analysisPayload.insert "channel_estimate_magnitude_db" magnitude
      let carrierValues := ((normalized.lookup "carrier_values").bind values.asDict).getD .empty
      normalized.insert "carrier_values"
        (values.ofDict (carrierValues.insert "channel_estimate_magnitude_db" magnitude))

def buildEmptyPreEqualizationAnalysisPayload : OrderedDict String Value :=
  let empty : OrderedDict String Value :=
    OrderedDict.empty.insert "channel_estimate_magnitude_db" values.none
  empty.insert "carrier_values" (values.ofDict empty)

/-- The payload, file type, error and transaction of a modem's analysis. -/
structure ModemAnalysis (Value : Type) where
  payload : Option (OrderedDict String Value) := none
  pnmFileType : Option String := none
  error : Option String := none
  transactionId : Option TransactionId := none

/-- Where analysis is asked for and there is none, the service makes an empty payload up. -/
def resolveModemAnalysis
    (decodedByTxn : OrderedDict TransactionId (PnmStoredCaptureAnalysisResultModel Value))
    (request : Option RxMerServiceGroupResultsRequest) (modemStatus : PnmCaptureStatus)
    (transactionIds : List TransactionId) : ModemAnalysis Value :=
  let empty := buildEmptyPreEqualizationAnalysisPayload values
  if analysisRequested request = false then {}
  else
    match RxMerResults.resolveModemAnalysis decodedByTxn request modemStatus transactionIds with
    | none => { payload := some empty }
    | some (transactionId, decoded) =>
      let normalized := normalizePreEqualizationAnalysisPayload values decoded.analysis
      { payload := some (normalized.getD empty)
        pnmFileType := decoded.pnmFileType
        error := decoded.error
        transactionId := some transactionId }

/-- One turn of the loop over the modems: the channel and the entry of a modem. -/
def modemEntry
    (decodedByTxn : OrderedDict TransactionId (PnmStoredCaptureAnalysisResultModel Value))
    (request : Option RxMerServiceGroupResultsRequest) (mac : MacAddressStr)
    (modemStageRecords : List PerModemLinkageRecordModel) :
    Option ChannelId × PreEqualizationResultsCableModemModel Value :=
  let transactionIds := modemTransactionIds modemStageRecords
  let filenames := modemFilenames modemStageRecords
  let (status, message) := modemStatus modemStageRecords
  let resolved := resolveModemAnalysis values decodedByTxn request status transactionIds
  let channelId := match resolveModemChannelId modemStageRecords with
    | some channelId => some channelId
    | none => resolveChannelIdFromAnalysisPayload values.toPayloadValues resolved.payload
  (channelId,
    { macAddress := some mac
      systemDescription := resolveModemSystemDescription values.toPayloadValues decodedByTxn
        transactionIds resolved.transactionId
      status := status
      message := message
      preEqualizationData :=
        { file := buildModemFileLink transactionIds filenames resolved.transactionId
          channelEstimateMagnitudeDb := resolveChannelEstimateMagnitudeDb values resolved.payload
          pnmFileType := resolved.pnmFileType
          analysis := resolved.payload
          analysisError := resolved.error
          stageStatusCodes := modemStageRecords.foldl setStageStatusCode {}
          stageMessages := modemStageMessages modemStageRecords } })

/-- The group and the entry of a modem. The group is that of its first record. -/
def modemRow
    (decodedByTxn : OrderedDict TransactionId (PnmStoredCaptureAnalysisResultModel Value))
    (request : Option RxMerServiceGroupResultsRequest) (mac : MacAddressStr)
    (modemStageRecords : List PerModemLinkageRecordModel) :
    GroupKey × PreEqualizationResultsCableModemModel Value :=
  let entry := modemEntry values decodedByTxn request mac modemStageRecords
  ((modemStageRecords.head?.map fun record => record.sgId, entry.1), entry.2)

def sortedChannels (rows : List (GroupKey × PreEqualizationResultsCableModemModel Value)) :
    List (PreEqualizationResultsChannelModel Value) :=
  let channelsByKey := OrderedDict.groups rows
  (KeyedSort.sortBy groupOrder channelsByKey.keys).map fun key =>
    { channelId := key.2
      serviceGroupId := key.1
      cableModems := (channelsByKey.lookup key).getD [] }

def buildServingGroupsFromChannels (channels : List (PreEqualizationResultsChannelModel Value)) :
    List (PreEqualizationResultsServingGroupModel Value) :=
  let grouped := OrderedDict.groups (channels.map fun channel => (channel.serviceGroupId, channel))
  (KeyedSort.sortBy orderOf grouped.keys).map fun sgId =>
    { serviceGroupId := sgId, channels := (grouped.lookup sgId).getD [] }

def buildStructuredResults (stored : TransactionId → StoredAnalysis Value)
    (records : List PerModemLinkageRecordModel)
    (request : Option RxMerServiceGroupResultsRequest) (cmtsHostname : Option String) :
    PreEqualizationServiceGroupResultsModel Value :=
  let decodedByTxn := decodeRecordsBasicAnalysis stored request records
  let byModem := modemRecords records
  let rows := (KeyedSort.sortBy id byModem.keys).map fun mac =>
    modemRow values decodedByTxn request mac ((byModem.lookup mac).getD [])
  { captureTimeEpoch := (captureFinishedEpochs records).max?
    cmtsHostname := cmtsHostname
    channels := []
    servingGroups := buildServingGroupsFromChannels (sortedChannels rows) }

/-- The modems of the structured results. -/
def listedModems (results : PreEqualizationServiceGroupResultsModel Value) :
    List (PreEqualizationResultsCableModemModel Value) :=
  results.servingGroups.flatMap fun group => group.channels.flatMap fun channel =>
    channel.cableModems

theorem channels_buildServingGroups (channels : List (PreEqualizationResultsChannelModel Value)) :
    ((buildServingGroupsFromChannels channels).flatMap fun group => group.channels).Perm
      channels := by
  have hperm := OrderedDict.perm_lookup_groups
    (channels.map fun channel => (channel.serviceGroupId, channel))
    (KeyedSort.sortBy_perm orderOf _)
  rw [List.map_map, show (Prod.snd ∘ fun channel : PreEqualizationResultsChannelModel Value =>
    (channel.serviceGroupId, channel)) = id from rfl, List.map_id] at hperm
  simpa only [buildServingGroupsFromChannels, List.flatMap_map] using hperm

theorem modems_sortedChannels
    (rows : List (GroupKey × PreEqualizationResultsCableModemModel Value)) :
    ((sortedChannels rows).flatMap fun channel => channel.cableModems).Perm
      (rows.map Prod.snd) := by
  have hperm := OrderedDict.perm_lookup_groups rows (KeyedSort.sortBy_perm groupOrder _)
  simpa only [sortedChannels, List.flatMap_map] using hperm

/-- The structured results hold one entry for each address. -/
theorem listedModems_perm (stored : TransactionId → StoredAnalysis Value)
    (records : List PerModemLinkageRecordModel)
    (request : Option RxMerServiceGroupResultsRequest) (cmtsHostname : Option String) :
    (listedModems (buildStructuredResults values stored records request cmtsHostname)).Perm
      ((modemRecords records).keys.map fun mac =>
        (modemEntry values (decodeRecordsBasicAnalysis stored request records) request mac
          (records.filter fun record => record.macAddress = mac)).2) := by
  unfold listedModems buildStructuredResults
  dsimp only
  rw [← List.flatMap_assoc]
  refine ((channels_buildServingGroups _).flatMap_right _).trans ?_
  refine (modems_sortedChannels _).trans ?_
  rw [List.map_map]
  refine ((KeyedSort.sortBy_perm id _).map _).trans (List.Perm.of_eq ?_)
  apply List.map_congr_left
  intro mac _
  simp only [Function.comp_apply, lookup_modemRecords, modemRow]

end PreEqualizationResults
end PypnmCmts
