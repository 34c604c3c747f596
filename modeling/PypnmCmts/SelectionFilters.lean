import Mathlib.Data.List.Dedup
import PypnmCmts.PreEqualizationResults

/-! The results endpoints of the RxMER and of the pre-equalization service: the records of an
operation are loaded and counted, then the selection of the request is applied. -/
namespace PypnmCmts

/-- Filters on the results of an operation. An empty filter means all. -/
structure PnmCaptureSelectionRequest where
  servingGroupIds : List ServiceGroupId := []
  channelIds : List ChannelId := []
  macAddresses : List MacAddressStr := []

/-- The request of a results endpoint: the analysis it asks for, and its selection. -/
structure PnmCaptureResultsRequest extends RxMerServiceGroupResultsRequest where
  selection : PnmCaptureSelectionRequest := {}

structure OperationResultsSummaryModel where
  recordCount : ℕ := 0
  includedCount : ℕ := 0
  filesScanned : ℕ := 0
deriving DecidableEq

/-- What the store answers about one operation. The count and the records are two reads. -/
structure StoredOperation where
  stateFound : Bool := true
  filesScanned : ℕ
  recordCount : ℕ
  records : List PerModemLinkageRecordModel

structure OperationResults where
  status : ServiceStatusCode
  message : String
  summary : OperationResultsSummaryModel
  records : List PerModemLinkageRecordModel

/-- The response of a results endpoint. -/
structure PnmCaptureResultsResponseModel (Results : Type) extends OperationResults where
  results : Results

namespace PnmServiceGroupOperationServiceBase

def defaultMaxInlineRecords : ℕ := 250
def notFoundMessage : String := "operation not found"

def loadOperationResults (maxInlineRecords : ℕ) (store : StoredOperation) : OperationResults :=
  if store.stateFound = false then
    { status := .failure, message := notFoundMessage, summary := {}, records := [] }
  else
    let records := if store.recordCount ≤ maxInlineRecords then store.records else []
    { status := .success
      message := if store.recordCount > 0 then "" else "no results recorded"
      summary :=
        { recordCount := store.recordCount
          includedCount := records.length
          filesScanned := store.filesScanned }
      records := records }

theorem includedCount_loadOperationResults (maxInlineRecords : ℕ) (store : StoredOperation) :
    (loadOperationResults maxInlineRecords store).summary.includedCount =
      (loadOperationResults maxInlineRecords store).records.length := by
  unfold loadOperationResults
  split
  · rfl
  · rfl

end PnmServiceGroupOperationServiceBase

open PnmServiceGroupOperationServiceBase

namespace PnmCaptureSelectionRequest

variable (lower : String → String) (selection : PnmCaptureSelectionRequest)

/-- The loop of the filter goes on to the next record: `if allowed and a not in allowed`. -/
def excludes {α : Type} [DecidableEq α] (allowed : List α) (a : α) : Bool :=
  allowed ≠ [] ∧ a ∉ allowed

def excludesModem (record : PerModemLinkageRecordModel) : Bool :=
  excludes selection.servingGroupIds record.sgId ||
    excludes (selection.macAddresses.map lower) (lower record.macAddress)

def excludesChannel (record : PerModemLinkageRecordModel) : Bool :=
  selection.channelIds ≠ [] ∧ ∀ channelId ∈ record.channelId, channelId ∉ selection.channelIds

/-- The record is of a service group and of a modem that the selection names. -/
def MatchesModem (record : PerModemLinkageRecordModel) : Prop :=
  (selection.servingGroupIds = [] ∨ record.sgId ∈ selection.servingGroupIds) ∧
    (selection.macAddresses = [] ∨
      ∃ macAddress ∈ selection.macAddresses, lower macAddress = lower record.macAddress)

/-- The record names a channel of the selection itself. -/
def ListsChannel (record : PerModemLinkageRecordModel) : Prop :=
  selection.channelIds = [] ∨ ∃ channelId ∈ record.channelId, channelId ∈ selection.channelIds

/-- The record belongs to a channel of the selection: it names one or, where its stage names
none, another record of its modem does. -/
def MatchesChannel (records : List PerModemLinkageRecordModel)
    (record : PerModemLinkageRecordModel) : Prop :=
  selection.ListsChannel record ∨ record.channelId = none ∧
    ∃ own ∈ RxMerResults.ownRecords records record.sgId record.macAddress,
      selection.ListsChannel own

instance : DecidablePred (selection.MatchesModem lower) :=
  fun record => by unfold MatchesModem; infer_instance

instance : DecidablePred selection.ListsChannel :=
  fun record => by unfold ListsChannel; infer_instance

instance (records : List PerModemLinkageRecordModel) :
    DecidablePred (selection.MatchesChannel records) :=
  fun record => by unfold MatchesChannel; infer_instance

/-- The records that a selection asks for. -/
def selected (records : List PerModemLinkageRecordModel) : List PerModemLinkageRecordModel :=
  records.filter fun record =>
    selection.MatchesModem lower record ∧ selection.MatchesChannel records record

theorem excludes_eq_false_iff {α : Type} [DecidableEq α] (allowed : List α) (a : α) :
    excludes allowed a = false ↔ allowed = [] ∨ a ∈ allowed := by
  unfold excludes
  rw [decide_eq_false_iff_not, not_and_or, not_not, not_not]

theorem excludesModem_eq_false_iff (record : PerModemLinkageRecordModel) :
    selection.excludesModem lower record = false ↔ selection.MatchesModem lower record := by
  unfold excludesModem MatchesModem
  rw [Bool.or_eq_false_iff, excludes_eq_false_iff, excludes_eq_false_iff, List.map_eq_nil_iff,
    List.mem_map]

theorem excludesChannel_eq_false_iff (record : PerModemLinkageRecordModel) :
    selection.excludesChannel record = false ↔ selection.ListsChannel record := by
  unfold excludesChannel ListsChannel
  rw [decide_eq_false_iff_not, not_and_or, not_not]
  simp only [not_forall, not_not, exists_prop]

theorem MatchesChannel.of_listsChannel {selection : PnmCaptureSelectionRequest}
    {record : PerModemLinkageRecordModel} (h : selection.ListsChannel record)
    (records : List PerModemLinkageRecordModel) : selection.MatchesChannel records record :=
  Or.inl h

end PnmCaptureSelectionRequest

open PnmCaptureSelectionRequest

namespace RxMerServiceGroupOperationService

/-- The channel filter of the selection is not read. -/
def filterResultsRecords (lower : String → String) (records : List PerModemLinkageRecordModel)
    (request : PnmCaptureResultsRequest) : List PerModemLinkageRecordModel :=
  let selection := request.selection
  if selection.servingGroupIds = [] ∧ selection.macAddresses = [] then records
  else records.filter fun record => !selection.excludesModem lower record

variable {Value : Type}

def results (values : PayloadValues Value) (lower : String → String)
    (stored : TransactionId → StoredAnalysis Value) (maxInlineRecords : ℕ)
    (store : StoredOperation) (cmtsHostname : Option String)
    (request : Option PnmCaptureResultsRequest) :
    PnmCaptureResultsResponseModel (RxMerServiceGroupResultsModel Value) :=
  let loaded := loadOperationResults maxInlineRecords store
  -- a request that only looks the operation up selects nothing
  let filteredRecords := match request with
    | none => loaded.records
    | some request => filterResultsRecords lower loaded.records request
  { loaded with
    records := filteredRecords
    results := RxMerResults.buildStructuredResults values stored filteredRecords
      (request.map fun request => request.toRxMerServiceGroupResultsRequest) cmtsHostname }

end RxMerServiceGroupOperationService

namespace PreEqualizationServiceGroupOperationService

/-- A record without a channel does not pass a channel filter. -/
def filterResultsRecords (lower : String → String) (records : List PerModemLinkageRecordModel)
    (request : PnmCaptureResultsRequest) : List PerModemLinkageRecordModel :=
  let selection := request.selection
  if selection.servingGroupIds = [] ∧ selection.channelIds = [] ∧ selection.macAddresses = []
  then records
  else records.filter fun record =>
    !(selection.excludesModem lower record || selection.excludesChannel record)

variable {Value : Type}

def results (values : PreEqualizationValues Value) (lower : String → String)
    (stored : TransactionId → StoredAnalysis Value) (maxInlineRecords : ℕ)
    (store : StoredOperation) (cmtsHostname : Option String)
    (request : Option PnmCaptureResultsRequest) :
    PnmCaptureResultsResponseModel (PreEqualizationServiceGroupResultsModel Value) :=
  let loaded := loadOperationResults maxInlineRecords store
  let filteredRecords := match request with
    | none => loaded.records
    | some request => filterResultsRecords lower loaded.records request
  { loaded with
    records := filteredRecords
    results := PreEqualizationResults.buildStructuredResults values stored filteredRecords
      (request.map fun request => request.toRxMerServiceGroupResultsRequest) cmtsHostname }

end PreEqualizationServiceGroupOperationService

/-- A response shows the records asked for and an entry for each of their modems, which these
records alone give, and it counts the records that it shows. -/
structure SelectsExactly {Modem : Type}
    (entry : List PerModemLinkageRecordModel → MacAddressStr → Modem)
    (asked records : List PerModemLinkageRecordModel) (modems : List Modem)
    (includedCount : ℕ) : Prop where
  records_eq : records = asked
  modems_perm :
    modems.Perm ((asked.map fun record => record.macAddress).dedup.map (entry asked))
  included : includedCount = records.length

section
variable {Modem : Type} {entry : List PerModemLinkageRecordModel → MacAddressStr → Modem}
  {loaded : List PerModemLinkageRecordModel} {modems : List Modem} {includedCount : ℕ}

theorem filter_eq_filter_iff {α : Type} {l : List α} {p q : α → Bool} :
    l.filter p = l.filter q ↔ ∀ a ∈ l, p a = q a := by
  constructor
  · intro h a ha
    have hmem : a ∈ l.filter p ↔ a ∈ l.filter q := by rw [h]
    rw [List.mem_filter, List.mem_filter, and_iff_right ha, and_iff_right ha] at hmem
    exact Bool.eq_iff_iff.mpr hmem
  · exact List.filter_congr

/-- The count is that of the loaded records, so a response is exact only if nothing is left out. -/
theorem selectsExactly_filter_iff {shown asked : PerModemLinkageRecordModel → Bool}
    (hincluded : includedCount = loaded.length)
    (hmodems : modems.Perm (((loaded.filter shown).map fun record => record.macAddress).dedup.map
      (entry (loaded.filter shown)))) :
    SelectsExactly entry (loaded.filter asked) (loaded.filter shown) modems includedCount ↔
      ∀ record ∈ loaded, shown record = true ∧ asked record = true := by
  constructor
  · intro h record hrecord
    have hlength := h.included
    rw [hincluded] at hlength
    have hshown := List.length_filter_eq_length_iff.mp hlength.symm record hrecord
    have hasked := filter_eq_filter_iff.mp h.records_eq record hrecord
    exact ⟨hshown, hasked ▸ hshown⟩
  · intro h
    have hshown : loaded.filter shown = loaded :=
      List.filter_eq_self.mpr fun record hrecord => (h record hrecord).1
    have hasked : loaded.filter asked = loaded :=
      List.filter_eq_self.mpr fun record hrecord => (h record hrecord).2
    rw [hshown] at hmodems
    rw [hshown, hasked]
    exact ⟨rfl, hmodems, hincluded⟩

end

/-- The modems of an operation, in the order of their first records, are its addresses. -/
theorem keys_modemRecords_perm (records : List PerModemLinkageRecordModel) :
    (RxMerResults.modemRecords records).keys.Perm
      (records.map fun record => record.macAddress).dedup := by
  refine (List.perm_ext_iff_of_nodup ?_ (List.nodup_dedup _)).mpr ?_
  · exact (RxMerResults.modemRecords records).nodup_keys
  · intro mac
    rw [RxMerResults.mem_keys_modemRecords, List.mem_dedup, List.mem_map]

namespace RxMerServiceGroupOperationService

theorem filterResultsRecords_eq (lower : String → String)
    (records : List PerModemLinkageRecordModel) (request : PnmCaptureResultsRequest) :
    filterResultsRecords lower records request =
      records.filter fun record => request.selection.MatchesModem lower record := by
  have hpass (record : PerModemLinkageRecordModel) :
      (!request.selection.excludesModem lower record) =
        decide (request.selection.MatchesModem lower record) := by
    rw [Bool.eq_iff_iff, Bool.not_eq_true', excludesModem_eq_false_iff, decide_eq_true_iff]
  unfold filterResultsRecords
  dsimp only
  split
  next hempty =>
    refine (List.filter_eq_self.mpr ?_).symm
    intro record _
    exact decide_eq_true ⟨Or.inl hempty.1, Or.inl hempty.2⟩
  next => simp only [hpass]

variable {Value : Type} (values : PayloadValues Value) (lower : String → String)
  (stored : TransactionId → StoredAnalysis Value) (maxInlineRecords : ℕ)
  (store : StoredOperation) (cmtsHostname : Option String) (request : PnmCaptureResultsRequest)

/-- The entry that the records of a modem give. -/
def modemOf (records : List PerModemLinkageRecordModel) (mac : MacAddressStr) :
    RxMerResultsCableModemModel Value :=
  (RxMerResults.reportedRow values stored (some request.toRxMerServiceGroupResultsRequest)
    records mac).2

/-- The endpoint shows exactly what the selection asks for. -/
def Exact : Prop :=
  let loaded := (loadOperationResults maxInlineRecords store).records
  let response := results values lower stored maxInlineRecords store cmtsHostname (some request)
  SelectsExactly (modemOf values stored request) (request.selection.selected lower loaded)
    response.records ((RxMerResults.resultRows response.results).map Prod.snd)
    response.summary.includedCount

theorem records_results :
    (results values lower stored maxInlineRecords store cmtsHostname (some request)).records =
      (loadOperationResults maxInlineRecords store).records.filter fun record =>
        request.selection.MatchesModem lower record :=
  filterResultsRecords_eq lower _ request

theorem exact_iff :
    Exact values lower stored maxInlineRecords store cmtsHostname request ↔
      ∀ record ∈ (loadOperationResults maxInlineRecords store).records,
        request.selection.MatchesModem lower record ∧ request.selection.MatchesChannel
          (loadOperationResults maxInlineRecords store).records record := by
  have hrows := RxMerResults.resultRows_perm values stored
    (some request.toRxMerServiceGroupResultsRequest)
    (filterResultsRecords lower (loadOperationResults maxInlineRecords store).records request)
    cmtsHostname
  have hmodems := (hrows.map Prod.snd).trans
    (List.Perm.of_eq (List.map_map (f := _) (g := Prod.snd)))
  have hkeys := hmodems.trans ((keys_modemRecords_perm _).map _)
  rw [filterResultsRecords_eq] at hkeys
  unfold Exact
  dsimp only
  rw [records_results, selected]
  refine (selectsExactly_filter_iff (includedCount_loadOperationResults _ _) ?_).trans ?_
  · simp only [results, Option.map_some, filterResultsRecords_eq]
    exact hkeys
  · simp only [decide_eq_true_iff]
    constructor
    · intro h record hrecord
      exact (h record hrecord).2
    · intro h record hrecord
      exact ⟨(h record hrecord).1, h record hrecord⟩

end RxMerServiceGroupOperationService

namespace PreEqualizationServiceGroupOperationService

theorem filterResultsRecords_eq (lower : String → String)
    (records : List PerModemLinkageRecordModel) (request : PnmCaptureResultsRequest) :
    filterResultsRecords lower records request =
      records.filter fun record => request.selection.MatchesModem lower record ∧
        request.selection.ListsChannel record := by
  have hpass (record : PerModemLinkageRecordModel) :
      (!(request.selection.excludesModem lower record ||
        request.selection.excludesChannel record)) =
        decide (request.selection.MatchesModem lower record ∧
          request.selection.ListsChannel record) := by
    rw [Bool.eq_iff_iff, Bool.not_eq_true', Bool.or_eq_false_iff, excludesModem_eq_false_iff,
      excludesChannel_eq_false_iff, decide_eq_true_iff]
  unfold filterResultsRecords
  dsimp only
  split
  next hempty =>
    obtain ⟨hgroups, hchannels, haddresses⟩ := hempty
    refine (List.filter_eq_self.mpr ?_).symm
    intro record _
    exact decide_eq_true ⟨⟨Or.inl hgroups, Or.inl haddresses⟩, Or.inl hchannels⟩
  next => simp only [hpass]

variable {Value : Type} (values : PreEqualizationValues Value) (lower : String → String)
  (stored : TransactionId → StoredAnalysis Value) (maxInlineRecords : ℕ)
  (store : StoredOperation) (cmtsHostname : Option String) (request : PnmCaptureResultsRequest)

/-- The entry that the records of a modem give. -/
def modemOf (records : List PerModemLinkageRecordModel) (mac : MacAddressStr) :
    PreEqualizationResultsCableModemModel Value :=
  let results := some request.toRxMerServiceGroupResultsRequest
  (PreEqualizationResults.modemEntry values
    (RxMerResults.decodeRecordsBasicAnalysis stored results records) results mac
    (records.filter fun record => record.macAddress = mac)).2

/-- The endpoint shows exactly what the selection asks for. -/
def Exact : Prop :=
  let loaded := (loadOperationResults maxInlineRecords store).records
  let response := results values lower stored maxInlineRecords store cmtsHostname (some request)
  SelectsExactly (modemOf values stored request) (request.selection.selected lower loaded)
    response.records (PreEqualizationResults.listedModems response.results)
    response.summary.includedCount

theorem records_results :
    (results values lower stored maxInlineRecords store cmtsHostname (some request)).records =
      (loadOperationResults maxInlineRecords store).records.filter fun record =>
        request.selection.MatchesModem lower record ∧ request.selection.ListsChannel record :=
  filterResultsRecords_eq lower _ request

theorem exact_iff :
    Exact values lower stored maxInlineRecords store cmtsHostname request ↔
      ∀ record ∈ (loadOperationResults maxInlineRecords store).records,
        request.selection.MatchesModem lower record ∧
          request.selection.ListsChannel record := by
  have hmodems := PreEqualizationResults.listedModems_perm values stored
    (filterResultsRecords lower (loadOperationResults maxInlineRecords store).records request)
    (some request.toRxMerServiceGroupResultsRequest) cmtsHostname
  have hkeys := hmodems.trans ((keys_modemRecords_perm _).map _)
  rw [filterResultsRecords_eq] at hkeys
  unfold Exact
  dsimp only
  rw [records_results, selected]
  refine (selectsExactly_filter_iff (includedCount_loadOperationResults _ _) ?_).trans ?_
  · simp only [results, Option.map_some, filterResultsRecords_eq]
    exact hkeys
  · simp only [decide_eq_true_iff]
    constructor
    · intro h record hrecord
      exact (h record hrecord).1
    · intro h record hrecord
      obtain ⟨hmodem, hchannel⟩ := h record hrecord
      exact ⟨⟨hmodem, hchannel⟩, hmodem, MatchesChannel.of_listsChannel hchannel _⟩

end PreEqualizationServiceGroupOperationService

/-- Both endpoints are exact just where every loaded record passes every filter itself, and so
where nothing is left out: the summary counts what was loaded. Of the records alone, the RxMER
endpoint shows those asked for unless the channel filter, which it does not read, leaves a
modem's record out; the pre-equalization endpoint unless a record asked for names no channel. -/
theorem selection_exact_iff {Value : Type} (values : PayloadValues Value)
    (preEqualizationValues : PreEqualizationValues Value) (lower : String → String)
    (stored : TransactionId → StoredAnalysis Value) (maxInlineRecords : ℕ)
    (store : StoredOperation) (cmtsHostname : Option String)
    (request : PnmCaptureResultsRequest) :
    let loaded := (loadOperationResults maxInlineRecords store).records
    let selection := request.selection
    let rxMer := RxMerServiceGroupOperationService.results values lower stored maxInlineRecords
      store cmtsHostname (some request)
    let preEqualization := PreEqualizationServiceGroupOperationService.results
      preEqualizationValues lower stored maxInlineRecords store cmtsHostname (some request)
    let rxMerExact := RxMerServiceGroupOperationService.Exact values lower stored
      maxInlineRecords store cmtsHostname request
    let preEqualizationExact := PreEqualizationServiceGroupOperationService.Exact
      preEqualizationValues lower stored maxInlineRecords store cmtsHostname request
    (rxMerExact ∧ preEqualizationExact ↔
      ∀ r ∈ loaded, selection.MatchesModem lower r ∧ selection.ListsChannel r) ∧
    (rxMerExact ↔
      ∀ r ∈ loaded, selection.MatchesModem lower r ∧ selection.MatchesChannel loaded r) ∧
    (preEqualizationExact ↔
      ∀ r ∈ loaded, selection.MatchesModem lower r ∧ selection.ListsChannel r) ∧
    (rxMer.records = selection.selected lower loaded ↔
      ∀ r ∈ loaded, selection.MatchesModem lower r → selection.MatchesChannel loaded r) ∧
    (preEqualization.records = selection.selected lower loaded ↔
      ∀ r ∈ selection.selected lower loaded, selection.ListsChannel r) := by
  intro loaded selection rxMer preEqualization rxMerExact preEqualizationExact
  have hrxMer : rxMerExact ↔ _ := RxMerServiceGroupOperationService.exact_iff values lower stored
    maxInlineRecords store cmtsHostname request
  have hpreEqualization : preEqualizationExact ↔ _ :=
    PreEqualizationServiceGroupOperationService.exact_iff preEqualizationValues lower stored
      maxInlineRecords store cmtsHostname request
  refine ⟨?_, hrxMer, hpreEqualization, ?_, ?_⟩
  · rw [hpreEqualization]
    constructor
    · exact fun h => h.2
    · intro h
      refine ⟨hrxMer.mpr ?_, h⟩
      intro r hr
      obtain ⟨hmodem, hchannel⟩ := h r hr
      exact ⟨hmodem, MatchesChannel.of_listsChannel hchannel _⟩
  · have hrecords : rxMer.records = _ := RxMerServiceGroupOperationService.records_results values
      lower stored maxInlineRecords store cmtsHostname request
    rw [hrecords, selected, filter_eq_filter_iff]
    simp only [decide_eq_decide]
    exact forall₂_congr fun r _ => iff_self_and
  · have hrecords : preEqualization.records = _ :=
      PreEqualizationServiceGroupOperationService.records_results preEqualizationValues lower
        stored maxInlineRecords store cmtsHostname request
    rw [hrecords, selected, filter_eq_filter_iff]
    simp only [decide_eq_decide, List.mem_filter, decide_eq_true_iff]
    constructor
    · intro h r hr
      obtain ⟨hloaded, hasked⟩ := hr
      exact ((h r hloaded).mpr hasked).2
    · intro h r hr
      constructor
      · intro hlisted
        exact ⟨hlisted.1, MatchesChannel.of_listsChannel hlisted.2 _⟩
      · intro hasked
        exact ⟨hasked.1, h r ⟨hr, hasked⟩⟩

/-- A modem on channel 33, whose precheck names no channel, and one on channel 34. -/
def twoChannelRecords : List PerModemLinkageRecordModel :=
  [{ pnmCaptureOperationId := "op", sgId := 1, macAddress := "aa:bb:cc:dd:ee:01",
     stage := .precheck },
   { pnmCaptureOperationId := "op", sgId := 1, macAddress := "aa:bb:cc:dd:ee:01",
     stage := .capture, channelId := some 33, transactionIds := ["t1"], filenames := ["f1"] },
   { pnmCaptureOperationId := "op", sgId := 1, macAddress := "aa:bb:cc:dd:ee:02",
     stage := .capture, channelId := some 34, transactionIds := ["t2"], filenames := ["f2"] }]

/-- Asked for channel 33, the RxMER endpoint shows the modem of channel 34 too, and the
pre-equalization endpoint drops the precheck of the modem on channel 33 and counts three. -/
theorem channel_filter_inexact :
    let store : StoredOperation :=
      { filesScanned := 1, recordCount := 3, records := twoChannelRecords }
    let request : PnmCaptureResultsRequest := { selection := { channelIds := [33] } }
    let values : PreEqualizationValues Unit :=
      { asInt := fun _ => none, asText := fun _ => "", isNone := fun _ => true
        asDict := fun _ => none, asReals := fun _ => none, none := (), ofReals := fun _ => ()
        ofDict := fun _ => () }
    let rxMer := RxMerServiceGroupOperationService.results values.toPayloadValues id
      (fun _ => {}) defaultMaxInlineRecords store none (some request)
    let preEqualization := PreEqualizationServiceGroupOperationService.results values id
      (fun _ => {}) defaultMaxInlineRecords store none (some request)
    request.selection.selected id twoChannelRecords = twoChannelRecords.take 2 ∧
      rxMer.records = twoChannelRecords ∧
      preEqualization.records = (twoChannelRecords.drop 1).take 1 ∧
      preEqualization.summary.includedCount = 3 ∧
      ¬ RxMerServiceGroupOperationService.Exact values.toPayloadValues id (fun _ => {})
        defaultMaxInlineRecords store none request ∧
      ¬ PreEqualizationServiceGroupOperationService.Exact values id (fun _ => {})
        defaultMaxInlineRecords store none request := by
  intro store request values rxMer preEqualization
  have hasked : request.selection.selected id twoChannelRecords = twoChannelRecords.take 2 := by
    decide
  have hrxMer : rxMer.records = twoChannelRecords := by decide
  have hpreEqualization : preEqualization.records = (twoChannelRecords.drop 1).take 1 := by decide
  refine ⟨hasked, hrxMer, hpreEqualization, rfl, ?_, ?_⟩
  · intro h
    have hrecords : rxMer.records = request.selection.selected id twoChannelRecords :=
      h.records_eq
    rw [hrxMer, hasked] at hrecords
    exact absurd (congrArg List.length hrecords) (by decide)
  · intro h
    have hrecords : preEqualization.records = request.selection.selected id twoChannelRecords :=
      h.records_eq
    rw [hpreEqualization, hasked] at hrecords
    exact absurd (congrArg List.length hrecords) (by decide)

end PypnmCmts
