import PypnmCmts.CaptureRequest
import PypnmCmts.GuardRestarts
import PypnmCmts.HeavyPayload
import PypnmCmts.PyJson

/-! `get_cable_modems` of `serving_group/operations/service.py`, with the schema of its request.
The modems of a group are cut into pages, but no field of the request names a page. -/
namespace PypnmCmts

inductive CmtsCmRegStateText
  | other | initialRanging | rangingAutoAdjComplete | dhcpv4Complete | registrationComplete
  | operational | bpiInit | startEae | startDhcpv4 | startDhcpv6 | dhcpv6Complete
  | startConfigFileDownload | configFileDownloadComplete | startRegistration
  | forwardingDisabled | rfMuteAll
deriving DecidableEq

/-- Unknown or unmapped values are `other`. -/
def decodeCmtsCmRegState : CmtsCmRegState → CmtsCmRegStateText
  | 2 => .initialRanging
  | 4 => .rangingAutoAdjComplete
  | 5 => .dhcpv4Complete
  | 6 => .registrationComplete
  | 8 => .operational
  | 9 => .bpiInit
  | 10 => .startEae
  | 11 => .startDhcpv4
  | 12 => .startDhcpv6
  | 13 => .dhcpv6Complete
  | 14 => .startConfigFileDownload
  | 15 => .configFileDownloadComplete
  | 16 => .startRegistration
  | 17 => .forwardingDisabled
  | 18 => .rfMuteAll
  | _ => .other

def defaultPageNumber : ℤ := 1
def defaultPageSize : ℤ := 100
def defaultRefreshTimeoutSeconds : ℤ := 8
def maxRefreshTimeoutSeconds : ℤ := 30

section Request

/-- The body of a request. Of `extra`, the fields that the schema does not know, nothing is kept. -/
structure CableModemsBody where
  id : List ℤ := []
  mode : CacheRefreshMode := .none
  waitForCache : Bool := false
  timeoutSeconds : ℤ := defaultRefreshTimeoutSeconds
  extra : List (String × PyJson.Json) := []

/-- Where in the body an error is, and its text. -/
structure SchemaError where
  loc : List String
  message : String
deriving DecidableEq

structure ServingGroupCacheRefreshRequestModel where
  mode : CacheRefreshMode
  waitForCache : Bool
  timeoutSeconds : ℤ
  timeout_pos : 1 ≤ timeoutSeconds
  timeout_le : timeoutSeconds ≤ maxRefreshTimeoutSeconds
  waits : mode = .none → waitForCache = false

def ServingGroupCacheRefreshRequestModel.validate (body : CableModemsBody) :
    Except String ServingGroupCacheRefreshRequestModel :=
  if hlow : body.timeoutSeconds < 1 then .error "Input should be greater than or equal to 1"
  else if hhigh : maxRefreshTimeoutSeconds < body.timeoutSeconds then
    .error "Input should be less than or equal to 30"
  else .ok
    { mode := body.mode, timeoutSeconds := body.timeoutSeconds
      -- without a refresh there is nothing to wait for
      waitForCache := if body.mode = .none then false else body.waitForCache
      timeout_pos := not_lt.mp hlow, timeout_le := not_lt.mp hhigh
      waits := fun hmode => if_pos hmode }

/-- Request model for serving group cable modem retrieval. -/
structure GetServingGroupCableModemsRequest where
  servingGroup : CmtsServingGroupFilterModel
  refresh : ServingGroupCacheRefreshRequestModel
  id_pos : ∀ sgId ∈ servingGroup.id, 0 < sgId

/-- The errors of both parts are reported together, the check of the whole comes after them. -/
def GetServingGroupCableModemsRequest.validate (body : CableModemsBody) :
    Except (List SchemaError) GetServingGroupCableModemsRequest :=
  let filterError (message : String) : SchemaError :=
    ⟨["cmts", "serving_group"], "Value error, " ++ message⟩
  let refreshError (message : String) : SchemaError := ⟨["refresh", "timeout_seconds"], message⟩
  match CmtsServingGroupFilterModel.normalizeIds body.id,
      ServingGroupCacheRefreshRequestModel.validate body with
  | .error filter, .error refresh => .error [filterError filter, refreshError refresh]
  | .error filter, .ok _ => .error [filterError filter]
  | .ok _, .error refresh => .error [refreshError refresh]
  | .ok filter, .ok refresh =>
    if h : ∀ sgId ∈ filter.id, 0 < sgId then .ok ⟨filter, refresh, h⟩
    else .error [⟨[], "Value error, serving_group.id must be greater than zero."⟩]

end Request

/-- Refresh execution summary for cache-backed SG responses. -/
structure ServingGroupCacheRefreshResultModel where
  requested : Bool := false
  mode : CacheRefreshMode := .none
  applied : Bool := false
  waitForCache : Bool := false
  advanced : Bool := false
  timeoutSeconds : ℤ := defaultRefreshTimeoutSeconds
  message : String := ""

structure CmtsCmRegStateModel where
  status : CmtsCmRegState
  text : CmtsCmRegStateText
deriving DecidableEq

/-- Cable modem entry for serving group modem responses. -/
structure ServingGroupCableModemEntryModel where
  macAddress : MacAddressStr
  ipv4 : IPv4Str
  ipv6 : IPv6Str
  sysdescr : SystemDescriptorModel
  dsChannelIds : List ℤ
  usChannelIds : List ℤ
  registrationStatus : CmtsCmRegStateModel
deriving DecidableEq

/-- Grouped cable modem results for a service group. -/
structure ServingGroupCableModemsGroupModel where
  sgId : ServiceGroupId
  page : ℤ
  pageSize : ℤ
  totalItems : ℕ
  totalPages : ℤ
  items : List ServingGroupCableModemEntryModel
  metadata : SgwCacheMetadataModel

structure GetServingGroupCableModemsResponse where
  status : ServiceStatusCode
  message : String
  timestamp : ℕ
  requestedSgIds : List ServiceGroupId
  resolvedSgIds : List ServiceGroupId
  missingSgIds : List ServiceGroupId
  refresh : ServingGroupCacheRefreshResultModel
  groups : List ServingGroupCableModemsGroupModel

/-- The state of the process that the service looks up. -/
structure ServingGroupRuntime where
  status : SgwStartupStatusModel
  store : Option SgwCacheStore
  manager : Option SgwManager

/-- What one call meets: the clock, what the store holds at each look of the wait for a refresh,
the last one after the deadline, and what it holds when the groups are built. -/
structure ServingGroupCall where
  timestamp : ℕ
  requestEpoch : ℚ
  nowEpoch : ℚ
  looks : List SgwCacheStore
  built : SgwCacheStore

namespace ServingGroupCacheService

def storeUnavailableMessage : String := "sgw store not available"
def noDiscoveredMessage : String := "no discovered service groups"

section Pages

/-- Where an index of a slice falls in a list of the given length. -/
def sliceIndex (length : ℕ) (i : ℤ) : ℕ := if i < 0 then (i+length).toNat else min i.toNat length

def slice {α : Type} (l : List α) (start stop : ℤ) : List α :=
  (l.take (sliceIndex l.length stop)).drop (sliceIndex l.length start)

def sortModems (modems : List SgwCableModemModel) : List SgwCableModemModel :=
  KeyedSort.sortBy HeavyPoller.modemKey modems

def paginateModems (modems : List SgwCableModemModel) (page pageSize : ℤ) :
    List SgwCableModemModel :=
  let start := (page-1)*pageSize
  let stop := start+pageSize
  -- a page behind the last one is empty
  if modems.length ≤ start then [] else slice modems start stop

/-- No call passes a page size of zero, on which the source raises. -/
def totalPages (totalItems : ℕ) (pageSize : ℤ) : ℤ :=
  if totalItems = 0 then 0 else (totalItems+pageSize-1).fdiv pageSize

end Pages

section Groups
variable (hexToInet : String → Option String)

def buildErrorMetadata (message : String) : SgwCacheMetadataModel where
  snapshotTimeEpoch := 0
  refreshState := .error
  lastError := some (String.ofList (message.toList.take sgwLastErrorMaxLength))

def snapshotMissing (sgId : ServiceGroupId) : String := s!"sgw snapshot missing for sg_id={sgId}"

def resolveMetadata (sgId : ServiceGroupId) (store : SgwCacheStore) (nowEpoch : ℚ) :
    SgwCacheMetadataModel :=
  match store.getEntry sgId with
  | none => buildErrorMetadata (snapshotMissing sgId)
  | some entry =>
    if entry.metadata.snapshotTimeEpoch ≤ 0 then entry.metadata
    else { entry.metadata with ageSeconds := max 0 (nowEpoch-entry.metadata.snapshotTimeEpoch) }

def resolveChannelIds (channels : List SgwRfChannelModel) (fallbackIds : List ℤ) : List ℤ :=
  if channels = [] then fallbackIds.filter fun channelId => 0 < channelId
  else (KeyedSort.sortBy SgwRfChannelModel.channelId channels).map SgwRfChannelModel.channelId

/-- An address in hexadecimal is put into its usual form where that succeeds. -/
def normalizeInetValue (rawValue : String) : String :=
  let value := PyText.strip rawValue
  if value = "" then ""
  else if "0x".toList.isPrefixOf value.toList then
    (hexToInet (String.ofList (value.toList.drop 2))).getD value
  else value

def buildModemEntry (dsChannelIds usChannelIds : List ℤ) (modem : SgwCableModemModel) :
    ServingGroupCableModemEntryModel where
  macAddress := modem.mac
  ipv4 := normalizeInetValue hexToInet modem.ipv4
  ipv6 := normalizeInetValue hexToInet modem.ipv6
  sysdescr := modem.sysdescr
  dsChannelIds := dsChannelIds
  usChannelIds := usChannelIds
  registrationStatus := ⟨modem.registrationStatus, decodeCmtsCmRegState modem.registrationStatus⟩

/-- The entry of a modem among those of its snapshot. -/
def modemEntry (snapshot : SgwSnapshotModel) :
    SgwCableModemModel → ServingGroupCableModemEntryModel :=
  buildModemEntry hexToInet
    (resolveChannelIds snapshot.dsRfChannels snapshot.dsChannels.channelIds)
    (resolveChannelIds snapshot.usRfChannels snapshot.usChannels.channelIds)

def buildModemGroup (sgId : ServiceGroupId) (store : SgwCacheStore) (nowEpoch : ℚ)
    (page pageSize : ℤ) : ServingGroupCableModemsGroupModel :=
  match store.getEntry sgId with
  | none =>
    { sgId, page, pageSize, totalItems := 0, totalPages := 0, items := []
      metadata := buildErrorMetadata (snapshotMissing sgId) }
  | some entry =>
    let ordered := sortModems entry.snapshot.cableModems
    { sgId, page, pageSize
      totalItems := ordered.length
      totalPages := totalPages ordered.length pageSize
      items := (paginateModems ordered page pageSize).map (modemEntry hexToInet entry.snapshot)
      metadata := resolveMetadata sgId store nowEpoch }

end Groups

section Refresh

/-- One group's request, with whether any was accepted so far and up to three reasons, each of
them once, for those that were not. -/
def requestRefreshFor (mode : CacheRefreshMode) (nowEpoch : ℚ) (sgId : ServiceGroupId) :
    Bool × List String × SgwManager → Bool × List String × SgwManager
  | (applied, failureReasons, manager) =>
    let ((accepted, reason), manager) := manager.requestRefresh sgId mode nowEpoch
    let failureReasons :=
      if reason ≠ "" ∧ reason ∉ failureReasons ∧ failureReasons.length < 3 then
        failureReasons ++ [reason] else failureReasons
    (applied || accepted, failureReasons, manager)

def requestRefresh (manager : Option SgwManager) (sgIds : List ServiceGroupId)
    (refresh : CacheRefreshMode) (nowEpoch : ℚ) : (Bool × String) × Option SgwManager :=
  match manager with
  | none => ((false, ""), none)
  | some manager =>
    if refresh = .none then ((false, ""), some manager)
    else
      let (applied, failureReasons, manager) := sgIds.foldl
        (fun acc sgId => requestRefreshFor refresh nowEpoch sgId acc) (false, [], manager)
      ((applied, "; ".intercalate failureReasons), some manager)

def snapshotBaseline (sgIds : List ServiceGroupId) (store : SgwCacheStore) :
    OrderedDict ServiceGroupId ℚ :=
  sgIds.foldl (fun baseline sgId => baseline.insert sgId
    (((store.getEntry sgId).map fun entry => entry.metadata.snapshotTimeEpoch).getD 0)) .empty

def snapshotAdvanced (sgIds : List ServiceGroupId) (store : SgwCacheStore)
    (baseline : OrderedDict ServiceGroupId ℚ) : Bool :=
  sgIds.any fun sgId =>
    match store.getEntry sgId with
    | none => false
    | some entry =>
      let snapshotEpoch := entry.metadata.snapshotTimeEpoch
      (baseline.lookup sgId).getD 0 < snapshotEpoch && 0 < snapshotEpoch

/-- The wait ends with the first look that finds an advanced snapshot. -/
def waitForRefresh (sgIds : List ServiceGroupId) (looks : List SgwCacheStore)
    (baseline : OrderedDict ServiceGroupId ℚ) : Bool :=
  looks.any fun store => snapshotAdvanced sgIds store baseline

/-- The part of a call that comes before the groups are built. -/
def refreshPhase (manager : Option SgwManager) (store : SgwCacheStore) (call : ServingGroupCall)
    (request : ServingGroupCacheRefreshRequestModel) (resolvedSgIds : List ServiceGroupId) :
    ServingGroupCacheRefreshResultModel × Option SgwManager :=
  let requested : Bool := request.mode ≠ .none
  let result : ServingGroupCacheRefreshResultModel :=
    { requested, mode := request.mode, waitForCache := request.waitForCache
      timeoutSeconds := request.timeoutSeconds }
  let baseline := if requested ∧ request.waitForCache then snapshotBaseline resolvedSgIds store
    else .empty
  if requested = true ∧ resolvedSgIds ≠ [] then
    let ((applied, message), manager) :=
      requestRefresh manager resolvedSgIds request.mode call.requestEpoch
    if request.waitForCache = true ∧ applied = true then
      let advanced := waitForRefresh resolvedSgIds call.looks baseline
      let message := if advanced = false ∧ message = "" then
        "refresh wait timeout; returning cached snapshot" else message
      ({ result with applied, advanced, message }, manager)
    else if request.waitForCache = true ∧ applied = false ∧ message = "" then
      ({ result with applied, message := "refresh request not applied" }, manager)
    else ({ result with applied, message }, manager)
  else (result, manager)

end Refresh

section Endpoint
variable (hexToInet : String → Option String)

def buildCableModemsFailure (call : ServingGroupCall) (message : String) :
    GetServingGroupCableModemsResponse where
  status := .failure
  message := message
  timestamp := call.timestamp
  requestedSgIds := []
  resolvedSgIds := []
  missingSgIds := []
  refresh := {}
  groups := []

/-- The requested groups that have been discovered; an empty request is for all of them. -/
def resolvedSgIds (requestedSgIds discoveredSgIds : List ServiceGroupId) : List ServiceGroupId :=
  if requestedSgIds = [] then discoveredSgIds
  else requestedSgIds.filter fun sgId => sgId ∈ discoveredSgIds

def missingSgIds (requestedSgIds discoveredSgIds : List ServiceGroupId) : List ServiceGroupId :=
  requestedSgIds.filter fun sgId => sgId ∉ discoveredSgIds

/-- Return paged cable modem membership grouped by service group. -/
def getCableModems (runtime : ServingGroupRuntime) (call : ServingGroupCall)
    (request : GetServingGroupCableModemsRequest) :
    GetServingGroupCableModemsResponse × Option SgwManager :=
  let status := runtime.status
  let failure (message : String) := (buildCableModemsFailure call message, runtime.manager)
  if status.startupCompleted = false then failure "sgw startup not completed"
  else if status.discoveryOk = false ∨ status.primeFailed = true then
    failure (if status.errorMessage ≠ "" then status.errorMessage else "sgw startup failed")
  else match runtime.store with
    | none => failure storeUnavailableMessage
    | some store =>
      let requested := request.servingGroup.id
      let resolved := resolvedSgIds requested status.discoveredSgIds
      let (refresh, manager) := refreshPhase runtime.manager store call request.refresh resolved
      if resolved = [] then
        ({  status := if requested = [] then .success else .failure
            message := match requested with
              | [] => noDiscoveredMessage
              | sgId :: _ => s!"sg_id not found: {sgId}"
            timestamp := call.timestamp, requestedSgIds := requested, resolvedSgIds := []
            missingSgIds := requested, refresh, groups := [] }, manager)
      else
        let sorted := resolved.insertionSort (· ≤ ·)
        -- every group gets its first page of the default size
        let groups := sorted.map fun sgId =>
          buildModemGroup hexToInet sgId call.built call.nowEpoch defaultPageNumber defaultPageSize
        ({  status := .success
            message := if groups = [] then noDiscoveredMessage else ""
            timestamp := call.timestamp, requestedSgIds := requested, resolvedSgIds := sorted
            missingSgIds := missingSgIds requested status.discoveredSgIds
            refresh, groups }, manager)

end Endpoint

section PagesOfAList

/-- Windows of one width that follow each other cover a list from its start. -/
theorem flatMap_windows {α : Type} (l : List α) (width count : ℕ) :
    ((List.range count).flatMap fun i => (l.drop (i*width)).take width) = l.take (count*width) := by
  induction count with
  | zero => rw [Nat.zero_mul, List.take_zero, List.range_zero, List.flatMap_nil]
  | succ count ih =>
    rw [List.range_succ, List.flatMap_append, ih, List.flatMap_singleton, Nat.succ_mul,
      List.take_add]

theorem paginateModems_succ (modems : List SgwCableModemModel) (i pageSize : ℕ) :
    paginateModems modems (i+1) pageSize = (modems.drop (i*pageSize)).take pageSize := by
  have hstart : ((i : ℤ)+1-1)*(pageSize : ℤ) = ((i*pageSize : ℕ) : ℤ) := by push_cast; ring
  have hstop : ((i*pageSize : ℕ) : ℤ)+(pageSize : ℤ) = ((i*pageSize+pageSize : ℕ) : ℤ) := by
    push_cast; ring
  unfold paginateModems
  simp only [hstart, hstop, Nat.cast_le]
  by_cases hpast : modems.length ≤ i*pageSize
  · rw [if_pos hpast, List.drop_eq_nil_of_le hpast, List.take_nil]
  · have hindex (n : ℕ) : sliceIndex modems.length n = min n modems.length := by
      rw [sliceIndex, if_neg (by omega), Int.toNat_natCast]
    rw [if_neg hpast, slice, hindex, hindex, min_eq_left (by omega), List.drop_take]
    -- the page that the list ends in is cut off there by either reading
    by_cases hfull : i*pageSize+pageSize ≤ modems.length
    · rw [min_eq_left hfull, Nat.add_sub_cancel_left]
    · have hrest : (modems.drop (i*pageSize)).length ≤ modems.length-i*pageSize := by
        rw [List.length_drop]
      rw [min_eq_right (by omega), List.take_of_length_le hrest,
        List.take_of_length_le (by omega)]

theorem length_le_totalPages_mul (n : ℕ) {pageSize : ℕ} (hsize : 0 < pageSize) :
    n ≤ (totalPages n pageSize).toNat*pageSize := by
  unfold totalPages
  by_cases hn : n = 0
  · rw [hn]
    exact Nat.zero_le _
  · have hcast : (n : ℤ)+(pageSize : ℤ)-1 = ((n+pageSize-1 : ℕ) : ℤ) := by omega
    rw [if_neg hn, hcast, ← Int.ofNat_fdiv, Int.toNat_natCast]
    -- the number of pages is n divided by the page size and rounded up
    have hdiv := Nat.div_add_mod (n+pageSize-1) pageSize
    have hmod := Nat.mod_lt (n+pageSize-1) hsize
    rw [Nat.mul_comm] at hdiv
    omega

/-- The pages of any size, one after another, are the list. -/
theorem pages_partition (modems : List SgwCableModemModel) {pageSize : ℤ} (hsize : 0 < pageSize) :
    ((List.range (totalPages modems.length pageSize).toNat).flatMap fun i : ℕ =>
      paginateModems modems (i+1) pageSize) = modems := by
  obtain ⟨width, rfl⟩ := Int.eq_ofNat_of_zero_le hsize.le
  have hwidth : 0 < width := by omega
  have hpages : (fun i : ℕ => paginateModems modems (i+1) width) =
      fun i => (modems.drop (i*width)).take width :=
    funext fun i => paginateModems_succ modems i width
  rw [hpages, flatMap_windows]
  exact List.take_of_length_le (length_le_totalPages_mul modems.length hwidth)

theorem paginateModems_default (modems : List SgwCableModemModel) :
    paginateModems modems defaultPageNumber defaultPageSize = modems.take 100 := by
  have hfirst := paginateModems_succ modems 0 100
  rw [Nat.zero_mul, List.drop_zero] at hfirst
  exact hfirst

end PagesOfAList

section Obtained

/-- Startup is over and well, and the store is there. -/
structure Up (runtime : ServingGroupRuntime) : Prop where
  completed : runtime.status.startupCompleted = true
  discovered : runtime.status.discoveryOk = true
  primed : runtime.status.primeFailed = false
  store : runtime.store.isSome

/-- The service answers for the group. -/
structure Serves (runtime : ServingGroupRuntime) (sgId : ServiceGroupId) : Prop extends
    Up runtime where
  mem_discovered : sgId ∈ runtime.status.discoveredSgIds

variable (hexToInet : String → Option String) (runtime : ServingGroupRuntime)
  (call : ServingGroupCall)

/-- Some accepted body gets the entry in the group's answer. -/
def Obtained (sgId : ServiceGroupId) (item : ServingGroupCableModemEntryModel) : Prop :=
  ∃ body request, GetServingGroupCableModemsRequest.validate body = .ok request ∧
    ∃ group ∈ (getCableModems hexToInet runtime call request).1.groups,
      group.sgId = sgId ∧ item ∈ group.items

/-- Each modem of the snapshot can be obtained, and the pages of any size make up the list. -/
structure EveryModemPaged (sgId : ServiceGroupId) (snapshot : SgwSnapshotModel) : Prop where
  obtained : ∀ modem ∈ snapshot.cableModems,
    Obtained hexToInet runtime call sgId (modemEntry hexToInet snapshot modem)
  pages : ∀ pageSize : ℤ, 0 < pageSize →
    ((List.range (totalPages (sortModems snapshot.cableModems).length pageSize).toNat).flatMap
      fun i : ℕ => paginateModems (sortModems snapshot.cableModems) (i+1) pageSize) =
        sortModems snapshot.cableModems

/-- The modems behind the first hundred look like some of these. -/
def FirstPageCovers (snapshot : SgwSnapshotModel) : Prop :=
  ∀ modem ∈ (sortModems snapshot.cableModems).drop 100,
    ∃ other ∈ (sortModems snapshot.cableModems).take 100,
      modemEntry hexToInet snapshot other = modemEntry hexToInet snapshot modem

/-- The service's answer has groups only when it is up: one for each that the request resolves to,
with the first page of the default size. -/
theorem mem_groups (request : GetServingGroupCableModemsRequest)
    (group : ServingGroupCableModemsGroupModel) :
    group ∈ (getCableModems hexToInet runtime call request).1.groups ↔
      Up runtime ∧
        ∃ sgId ∈ resolvedSgIds request.servingGroup.id runtime.status.discoveredSgIds,
          buildModemGroup hexToInet sgId call.built call.nowEpoch defaultPageNumber
            defaultPageSize = group := by
  have hdown (h : ¬Up runtime) (message : String) :
      group ∈ (buildCableModemsFailure call message).groups ↔ Up runtime ∧
        ∃ sgId ∈ resolvedSgIds request.servingGroup.id runtime.status.discoveredSgIds,
          buildModemGroup hexToInet sgId call.built call.nowEpoch defaultPageNumber
            defaultPageSize = group :=
    iff_of_false List.not_mem_nil fun hup => h hup.1
  unfold getCableModems
  by_cases hcompleted : runtime.status.startupCompleted = false
  · simp only [if_pos hcompleted]
    exact hdown (fun hup => by simp [hup.completed] at hcompleted) _
  by_cases hfailed : runtime.status.discoveryOk = false ∨ runtime.status.primeFailed = true
  · simp only [if_neg hcompleted, if_pos hfailed]
    exact hdown (fun hup => by simp [hup.discovered, hup.primed] at hfailed) _
  push Not at hfailed
  simp only [if_neg hcompleted]
  cases hstore : runtime.store with
  | none =>
    simp only [hfailed]
    exact hdown (fun hup => by simpa [hstore] using hup.store) _
  | some store =>
    have hup : Up runtime := ⟨by simpa using hcompleted, by simpa using hfailed.1,
      by simpa using hfailed.2, by simp [hstore]⟩
    by_cases hnone : resolvedSgIds request.servingGroup.id runtime.status.discoveredSgIds = []
    · simp [hnone, hfailed]
    · simp [hnone, hfailed, hup, List.mem_insertionSort]

theorem items_buildModemGroup {sgId : ServiceGroupId} {store : SgwCacheStore}
    {entry : SgwCacheEntryModel} (hcached : store.getEntry sgId = some entry) (nowEpoch : ℚ) :
    (buildModemGroup hexToInet sgId store nowEpoch defaultPageNumber defaultPageSize).items =
      ((sortModems entry.snapshot.cableModems).take 100).map
        (modemEntry hexToInet entry.snapshot) := by
  rw [buildModemGroup, hcached]
  simp only [paginateModems_default]

theorem sgId_buildModemGroup (sgId : ServiceGroupId) (store : SgwCacheStore) (nowEpoch : ℚ)
    (page pageSize : ℤ) :
    (buildModemGroup hexToInet sgId store nowEpoch page pageSize).sgId = sgId := by
  cases hentry : store.getEntry sgId with
  | none => rw [buildModemGroup, hentry]
  | some entry => rw [buildModemGroup, hentry]

/-- The request for all the groups, which the schema accepts. -/
theorem validate_everyGroup : ∃ request,
    GetServingGroupCableModemsRequest.validate {} = .ok request ∧ request.servingGroup.id = [] := by
  have hid : CmtsServingGroupFilterModel.normalizeIds [] = .ok ⟨[], List.nodup_nil⟩ := rfl
  have htimeout : ¬defaultRefreshTimeoutSeconds < 1 ∧
      ¬maxRefreshTimeoutSeconds < defaultRefreshTimeoutSeconds := by decide
  simp [GetServingGroupCableModemsRequest.validate, hid,
    ServingGroupCacheRefreshRequestModel.validate, htimeout]

variable {runtime call} {sgId : ServiceGroupId} {entry : SgwCacheEntryModel}

/-- Whatever is asked for, an entry that is obtained stands on the first page. -/
theorem obtained_iff (hcached : call.built.getEntry sgId = some entry)
    (item : ServingGroupCableModemEntryModel) :
    Obtained hexToInet runtime call sgId item ↔ Serves runtime sgId ∧
      item ∈ ((sortModems entry.snapshot.cableModems).take 100).map
        (modemEntry hexToInet entry.snapshot) := by
  constructor
  · intro hobtained
    obtain ⟨body, request, -, group, hgroup, hsgId, hitem⟩ := hobtained
    obtain ⟨hup, resolved, hresolved, hbuilt⟩ := (mem_groups hexToInet _ call _ _).mp hgroup
    -- the group that the entry stands in was built for sgId
    have hsame : resolved = sgId := by
      rw [← hsgId, ← hbuilt, sgId_buildModemGroup]
    rw [hsame] at hresolved hbuilt
    rw [← hbuilt, items_buildModemGroup hexToInet hcached] at hitem
    refine ⟨⟨hup, ?_⟩, hitem⟩
    unfold resolvedSgIds at hresolved
    split at hresolved
    · exact hresolved
    · exact of_decide_eq_true (List.mem_filter.mp hresolved).2
  · intro hserved
    obtain ⟨hserves, hitem⟩ := hserved
    -- an empty body asks for every group that has been discovered
    obtain ⟨request, haccepted, hall⟩ := validate_everyGroup
    have hresolved : sgId ∈ resolvedSgIds request.servingGroup.id
        runtime.status.discoveredSgIds := by
      rw [resolvedSgIds, if_pos hall]
      exact hserves.mem_discovered
    have hgroup := (mem_groups hexToInet runtime call request _).mpr
      ⟨hserves.toUp, sgId, hresolved, rfl⟩
    refine ⟨{}, request, haccepted, _, hgroup, sgId_buildModemGroup hexToInet _ _ _ _ _, ?_⟩
    rw [items_buildModemGroup hexToInet hcached]
    exact hitem

/-- Where the addresses are unlike, the first page covers the group up to its hundredth modem. -/
theorem firstPageCovers_iff {snapshot : SgwSnapshotModel}
    (hmacs : (snapshot.cableModems.map SgwCableModemModel.mac).Nodup) :
    FirstPageCovers hexToInet snapshot ↔ snapshot.cableModems.length ≤ 100 := by
  have hperm := KeyedSort.sortBy_perm HeavyPoller.modemKey snapshot.cableModems
  have hlength : (sortModems snapshot.cableModems).length = snapshot.cableModems.length :=
    hperm.length_eq
  have hsorted : ((sortModems snapshot.cableModems).map SgwCableModemModel.mac).Nodup :=
    (hperm.map _).nodup_iff.mpr hmacs
  rw [← List.take_append_drop 100 (sortModems snapshot.cableModems), List.map_append,
    List.nodup_append] at hsorted
  constructor
  · intro hcovers
    by_contra hlong
    have hrest : (sortModems snapshot.cableModems).drop 100 ≠ [] := by
      intro hnil
      have := List.drop_eq_nil_iff.mp hnil
      omega
    obtain ⟨modem, hmodem⟩ := List.exists_mem_of_ne_nil _ hrest
    obtain ⟨other, hother, heq⟩ := hcovers modem hmodem
    have hmac : other.mac = modem.mac :=
      congrArg ServingGroupCableModemEntryModel.macAddress heq
    exact hsorted.2.2 _ (List.mem_map_of_mem hother) _ (List.mem_map_of_mem hmodem) hmac
  · intro hshort modem hmodem
    rw [List.drop_eq_nil_of_le (by omega)] at hmodem
    exact absurd hmodem List.not_mem_nil

/-- The modems of a cached snapshot can all be obtained exactly when there is none, or when the
service answers for the group and the first page covers it. -/
theorem every_modem_paged_iff (hcached : call.built.getEntry sgId = some entry) :
    (EveryModemPaged hexToInet runtime call sgId entry.snapshot ↔
      (entry.snapshot.cableModems ≠ [] →
        Serves runtime sgId ∧ FirstPageCovers hexToInet entry.snapshot)) ∧
    ((entry.snapshot.cableModems.map SgwCableModemModel.mac).Nodup →
      (FirstPageCovers hexToInet entry.snapshot ↔ entry.snapshot.cableModems.length ≤ 100)) := by
  have hperm := KeyedSort.sortBy_perm HeavyPoller.modemKey entry.snapshot.cableModems
  refine ⟨⟨?_, ?_⟩, firstPageCovers_iff hexToInet⟩
  · intro hpaged hsome
    have hfirst (modem) (hmodem : modem ∈ entry.snapshot.cableModems) :=
      (obtained_iff hexToInet hcached _).mp (hpaged.obtained modem hmodem)
    obtain ⟨modem, hmodem⟩ := List.exists_mem_of_ne_nil _ hsome
    refine ⟨(hfirst modem hmodem).1, ?_⟩
    intro late hlate
    have hmem : late ∈ entry.snapshot.cableModems := hperm.mem_iff.mp (List.mem_of_mem_drop hlate)
    exact List.mem_map.mp (hfirst late hmem).2
  · intro hcovered
    refine ⟨?_, fun pageSize hsize => pages_partition _ hsize⟩
    intro modem hmodem
    obtain ⟨hserves, hcovers⟩ := hcovered (List.ne_nil_of_mem hmodem)
    rw [obtained_iff hexToInet hcached]
    refine ⟨hserves, ?_⟩
    have hmem : modem ∈ sortModems entry.snapshot.cableModems := hperm.mem_iff.mpr hmodem
    rw [← List.take_append_drop 100 (sortModems entry.snapshot.cableModems)] at hmem
    -- a modem on the first page is its own witness
    rcases List.mem_append.mp hmem with hearly | hlate
    · exact List.mem_map_of_mem hearly
    · exact List.mem_map.mpr (hcovers modem hlate)

end Obtained

/-- A process that has discovered one group and cached its snapshot. -/
def cachedStore (snapshot : SgwSnapshotModel) : SgwCacheStore :=
  SgwCacheStore.empty.upsertEntry { sgId := 1, snapshot }

def cachedRuntime (snapshot : SgwSnapshotModel) : ServingGroupRuntime where
  status := { startupCompleted := true, discoveryOk := true, discoveredSgIds := [1] }
  store := some (cachedStore snapshot)
  manager := none

def cachedCall (snapshot : SgwSnapshotModel) : ServingGroupCall where
  timestamp := 1000
  requestEpoch := 1000
  nowEpoch := 1000
  looks := []
  built := cachedStore snapshot

theorem getEntry_cachedCall (snapshot : SgwSnapshotModel) :
    (cachedCall snapshot).built.getEntry 1 = some { sgId := 1, snapshot } := by
  rw [cachedCall, cachedStore, SgwCacheStore.getEntry_upsertEntry, if_pos rfl]

theorem serves_cachedRuntime (snapshot : SgwSnapshotModel) : Serves (cachedRuntime snapshot) 1 :=
  ⟨⟨rfl, rfl, rfl, rfl⟩, List.mem_singleton_self 1⟩

def numberedModem (n : ℕ) : SgwCableModemModel where
  mac := "02:00:00:00:00:" ++ String.ofList [Nat.digitChar (n/16), Nat.digitChar (n%16)]

/-- The first so many modems of a numbering by the last octet. -/
def numberedSnapshot (count : ℕ) : SgwSnapshotModel where
  sgId := 1
  cableModems := (List.range count).map numberedModem

theorem nodup_numberedMacs {count : ℕ} (hcount : count ≤ 256) :
    ((numberedSnapshot count).cableModems.map SgwCableModemModel.mac).Nodup := by
  have hdigit : ∀ d < 16, ∀ e < 16, Nat.digitChar d = Nat.digitChar e → d = e := by decide
  rw [numberedSnapshot, List.map_map]
  apply List.Nodup.map_on _ List.nodup_range
  intro n hn m hm heq
  rw [List.mem_range] at hn hm
  have hpair := String.ofList_injective ((String.append_right_inj _).mp heq)
  simp only [List.cons.injEq, and_true] at hpair
  have hhigh := hdigit (n/16) (by omega) (m/16) (by omega) hpair.1
  have hlow := hdigit (n%16) (by omega) (m%16) (by omega) hpair.2
  omega

theorem length_numberedSnapshot (count : ℕ) :
    (numberedSnapshot count).cableModems.length = count := by
  rw [numberedSnapshot, List.length_map, List.length_range]

theorem every_modem_paged_hundred :
    EveryModemPaged (fun _ => none) (cachedRuntime (numberedSnapshot 100))
      (cachedCall (numberedSnapshot 100)) 1 (numberedSnapshot 100) := by
  have hiff := @every_modem_paged_iff (fun _ => none) (cachedRuntime (numberedSnapshot 100)) _ _ _
    (getEntry_cachedCall (numberedSnapshot 100))
  have hcovers := (hiff.2 (nodup_numberedMacs (by omega))).mpr
    (length_numberedSnapshot 100).le
  exact hiff.1.mpr fun _ => ⟨serves_cachedRuntime _, hcovers⟩

/-- No accepted request gets all of a hundred and one modems. -/
theorem modem_behind_first_page :
    Serves (cachedRuntime (numberedSnapshot 101)) 1 ∧
    (cachedCall (numberedSnapshot 101)).built.getEntry 1 =
      some { sgId := 1, snapshot := numberedSnapshot 101 } ∧
    ¬EveryModemPaged (fun _ => none) (cachedRuntime (numberedSnapshot 101))
      (cachedCall (numberedSnapshot 101)) 1 (numberedSnapshot 101) := by
  have hcached := getEntry_cachedCall (numberedSnapshot 101)
  refine ⟨serves_cachedRuntime _, hcached, ?_⟩
  intro hpaged
  have hcovers : FirstPageCovers (fun _ => none) (numberedSnapshot 101) := by
    intro modem hmodem
    have hmem := (KeyedSort.sortBy_perm HeavyPoller.modemKey _).mem_iff.mp
      (List.mem_of_mem_drop hmodem)
    exact List.mem_map.mp
      ((obtained_iff (fun _ => none) hcached _).mp (hpaged.obtained modem hmem)).2
  have hshort := (firstPageCovers_iff _ (nodup_numberedMacs (by omega))).mp hcovers
  rw [length_numberedSnapshot] at hshort
  omega

end ServingGroupCacheService
end PypnmCmts
