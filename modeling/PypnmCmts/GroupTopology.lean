import Mathlib.Algebra.BigOperators.Group.List.Lemmas
import PypnmCmts.CableModemPages
import PypnmCmts.FailedCollection
import PypnmCmts.HeavyPayload
import PypnmCmts.SgwWorld

/-! `get_topology` of `serving_group/operations/service.py`: the modems and channels of a service
group, counted from the cached snapshot. The refresh loop goes on while an answer is built. -/
namespace PypnmCmts

section Request

/-- Request model for serving group topology retrieval. -/
structure GetServingGroupTopologyRequest where
  servingGroup : CmtsServingGroupFilterModel
  one : servingGroup.id.length ≤ 1
  id_pos : ∀ sgId ∈ servingGroup.id, 0 < sgId

/-- The list's own checks come before those of the whole request. -/
def GetServingGroupTopologyRequest.validate (id : List ℤ) :
    Except SchemaError GetServingGroupTopologyRequest :=
  match CmtsServingGroupFilterModel.normalizeIds id with
  | .error message => .error ⟨["cmts", "serving_group"], "Value error, " ++ message⟩
  | .ok selected =>
    if hmany : 1 < selected.id.length then
      .error ⟨[], "Value error, topology requests allow at most one serving_group.id."⟩
    else if hpos : ∀ sgId ∈ selected.id, 0 < sgId then .ok ⟨selected, not_lt.mp hmany, hpos⟩
    else .error ⟨[],
      "Value error, serving_group.id must be greater than zero for topology requests."⟩

end Request

/-- Cable modem count per channel set. -/
structure ServingGroupTopologyChannelSetCountModel where
  chSetId : ChSetId
  modemCount : ℕ := 0
deriving DecidableEq

/-- Cable modem count per channel. -/
structure ServingGroupTopologyChannelCountModel where
  channelId : ℤ := 0
  modemCount : ℕ := 0
deriving DecidableEq

structure ServingGroupTopologyDownstreamChannelsModel where
  scQam : List SgwRfChannelModel := []
  ofdm : List SgwRfChannelModel := []
  counts : List ServingGroupTopologyChannelCountModel := []
  setCounts : List ServingGroupTopologyChannelSetCountModel := []
deriving DecidableEq

structure ServingGroupTopologyUpstreamChannelsModel where
  scQam : List SgwRfChannelModel := []
  ofdma : List SgwRfChannelModel := []
  counts : List ServingGroupTopologyChannelCountModel := []
  setCounts : List ServingGroupTopologyChannelSetCountModel := []
deriving DecidableEq

structure ServingGroupTopologyChannelsModel where
  ds : ServingGroupTopologyDownstreamChannelsModel := {}
  us : ServingGroupTopologyUpstreamChannelsModel := {}
deriving DecidableEq

structure ServingGroupTopologyModemEntryModel where
  sysdescr : SystemDescriptorModel := {}
deriving DecidableEq

/-- Topology payload for a single service group. -/
structure ServingGroupTopologyGroupModel where
  sgId : ServiceGroupId
  dsChSetId : ChSetId := 0
  usChSetId : ChSetId := 0
  channels : ServingGroupTopologyChannelsModel := {}
  modemCount : ℕ := 0
  successCount : ℕ := 0
  failureCount : ℕ := 0
  modems : OrderedDict MacAddressStr ServingGroupTopologyModemEntryModel := .empty
  metadata : SgwCacheMetadataModel := {}

structure GetServingGroupTopologyResponse where
  status : ServiceStatusCode
  message : String
  timestamp : ℕ
  requestedSgIds : List ServiceGroupId
  resolvedSgIds : List ServiceGroupId
  missingSgIds : List ServiceGroupId
  groups : List ServingGroupTopologyGroupModel

/-- What one call meets: the clock, and for each group what the store holds when its entry and
when its metadata are looked up. -/
structure TopologyCall where
  timestamp : ℕ
  nowEpoch : ℚ
  entryLook : ServiceGroupId → SgwCacheStore
  metadataLook : ServiceGroupId → SgwCacheStore

namespace ServingGroupCacheService

section Topology

/-- The listed channels, where there is no record of any, are taken for the default type. -/
def resolveRfChannels (channels : List SgwRfChannelModel) (fallbackIds : List ℤ)
    (defaultType : RfChannelType) : List SgwRfChannelModel :=
  if channels = [] then (fallbackIds.filter fun channelId => 0 < channelId).map fun channelId =>
    { channelId, channelType := defaultType }
  else KeyedSort.sortBy
    (fun entry => toLex (entry.channelId, HeavyPoller.channelTypeText entry.channelType)) channels

def channelSet (isDownstream : Bool) (modem : SgwCableModemModel) : ChSetId :=
  if isDownstream then modem.dsChannelSet else modem.usChannelSet

def buildChannelSetCounts (modems : List SgwCableModemModel) (isDownstream : Bool) :
    List ServingGroupTopologyChannelSetCountModel :=
  let counts : OrderedDict ℤ ℕ := modems.foldl (fun counts modem =>
    let chSetId := channelSet isDownstream modem
    if chSetId ≤ 0 then counts
    else counts.insert chSetId ((counts.lookup chSetId).getD 0+1)) .empty
  (KeyedSort.sortBy id counts.keys).map fun chSetId =>
    { chSetId, modemCount := (counts.lookup chSetId).getD 0 }

/-- Every channel gets the count of the group's own channel set. -/
def buildChannelCounts (channels : List SgwRfChannelModel) (chSetId : ChSetId)
    (chSetCounts : List ServingGroupTopologyChannelSetCountModel) :
    List ServingGroupTopologyChannelCountModel :=
  let countBySet : OrderedDict ℤ ℕ :=
    chSetCounts.foldl (fun counts entry => counts.insert entry.chSetId entry.modemCount) .empty
  let modemCount := (countBySet.lookup chSetId).getD 0
  channels.map fun channel => { channelId := channel.channelId, modemCount }

def filterChannels (channels : List SgwRfChannelModel) (channelType : RfChannelType) :
    List SgwRfChannelModel :=
  channels.filter fun channel => channel.channelType = channelType

/-- What the loop over the modems has gathered. -/
structure TopologyModems where
  successCount : ℕ := 0
  failureCount : ℕ := 0
  modems : OrderedDict MacAddressStr ServingGroupTopologyModemEntryModel := .empty

/-- A modem without a description counts as a failure. -/
def recordModem (gathered : TopologyModems) (modem : SgwCableModemModel) : TopologyModems :=
  let failed := modem.sysdescr.isEmpty
  { failureCount := if failed then gathered.failureCount+1 else gathered.failureCount
    successCount := if failed then gathered.successCount else gathered.successCount+1
    modems := gathered.modems.insert modem.mac ⟨modem.sysdescr⟩ }

def buildTopologyGroup (call : TopologyCall) (sgId : ServiceGroupId) :
    ServingGroupTopologyGroupModel :=
  match (call.entryLook sgId).getEntry sgId with
  | none => { sgId, metadata := buildErrorMetadata (snapshotMissing sgId) }
  | some entry =>
    let snapshot := entry.snapshot
    let ordered := sortModems snapshot.cableModems
    let gathered := ordered.foldl recordModem {}
    let dsChannels := resolveRfChannels snapshot.dsRfChannels snapshot.dsChannels.channelIds .scQam
    let usChannels := resolveRfChannels snapshot.usRfChannels snapshot.usChannels.channelIds .scQam
    let dsChannelSetCounts := buildChannelSetCounts ordered true
    let usChannelSetCounts := buildChannelSetCounts ordered false
    { sgId
      dsChSetId := snapshot.dsChSetId
      usChSetId := snapshot.usChSetId
      channels :=
        { ds :=
            { scQam := filterChannels dsChannels .scQam
              ofdm := filterChannels dsChannels .ofdm
              counts := buildChannelCounts dsChannels snapshot.dsChSetId dsChannelSetCounts
              setCounts := dsChannelSetCounts }
          us :=
            { scQam := filterChannels usChannels .scQam
              ofdma := filterChannels usChannels .ofdma
              counts := buildChannelCounts usChannels snapshot.usChSetId usChannelSetCounts
              setCounts := usChannelSetCounts } }
      modemCount := ordered.length
      successCount := gathered.successCount
      failureCount := gathered.failureCount
      modems := gathered.modems
      metadata := resolveMetadata sgId (call.metadataLook sgId) call.nowEpoch }

def buildTopologyFailure (call : TopologyCall) (message : String) :
    GetServingGroupTopologyResponse where
  status := .failure
  message := message
  timestamp := call.timestamp
  requestedSgIds := []
  resolvedSgIds := []
  missingSgIds := []
  groups := []

/-- Return cached topology summary for a service group. -/
def getTopology (runtime : ServingGroupRuntime) (call : TopologyCall)
    (request : GetServingGroupTopologyRequest) : GetServingGroupTopologyResponse :=
  let status := runtime.status
  if status.startupCompleted = false then buildTopologyFailure call "sgw startup not completed"
  else if status.discoveryOk = false ∨ status.primeFailed = true then
    buildTopologyFailure call
      (if status.errorMessage ≠ "" then status.errorMessage else "sgw startup failed")
  else if runtime.store.isNone then buildTopologyFailure call storeUnavailableMessage
  else
    let requested := request.servingGroup.id
    let resolved := resolvedSgIds requested status.discoveredSgIds
    if resolved = [] then
      { status := if requested = [] then .success else .failure
        message := match requested with
          | [] => noDiscoveredMessage
          | sgId :: _ => s!"sg_id not found: {sgId}"
        timestamp := call.timestamp, requestedSgIds := requested, resolvedSgIds := []
        missingSgIds := requested, groups := [] }
    else
      let sorted := resolved.insertionSort (· ≤ ·)
      let groups := sorted.map (buildTopologyGroup call)
      { status := .success
        message := if groups = [] then noDiscoveredMessage else ""
        timestamp := call.timestamp, requestedSgIds := requested, resolvedSgIds := sorted
        missingSgIds := missingSgIds requested status.discoveredSgIds
        groups }

end Topology

section Accounts

/-- The modems of each channel set that is not zero, in the order of the sets. -/
structure SetsCounted (channelSet : SgwCableModemModel → ChSetId)
    (modems : List SgwCableModemModel)
    (setCounts : List ServingGroupTopologyChannelSetCountModel) : Prop where
  ascending : (setCounts.map fun entry => entry.chSetId).Pairwise (· < ·)
  counted : ∀ entry ∈ setCounts, 0 < entry.chSetId ∧ 0 < entry.modemCount ∧
    entry.modemCount = modems.countP fun modem => channelSet modem = entry.chSetId
  complete : ∀ modem ∈ modems, 0 < channelSet modem →
    channelSet modem ∈ setCounts.map fun entry => entry.chSetId
  total : (setCounts.map fun entry => entry.modemCount).sum =
    modems.countP fun modem => 0 < channelSet modem

/-- The channels of one side, each of them in one of the two lists and with one count. -/
structure ChannelsCounted (channelSet : SgwCableModemModel → ChSetId)
    (modems : List SgwCableModemModel) (chSetId : ChSetId) (channelIds : List ℤ)
    (scQam others : List SgwRfChannelModel)
    (counts : List ServingGroupTopologyChannelCountModel) : Prop where
  ascending : channelIds.Pairwise (· < ·)
  positive : ∀ channelId ∈ channelIds, 0 < channelId
  once : ((scQam ++ others).map SgwRfChannelModel.channelId).Perm channelIds
  aligned : counts.map (fun entry => entry.channelId) = channelIds
  counted : ∀ entry ∈ counts, entry.modemCount =
    if 0 < chSetId then modems.countP (fun modem => channelSet modem = chSetId) else 0

/-- The modems of a group: each counted once, under its address with its own description. -/
structure ModemsCounted (modems : List SgwCableModemModel)
    (group : ServingGroupTopologyGroupModel) : Prop where
  count : group.modemCount = modems.length
  split : group.successCount+group.failureCount = group.modemCount
  failed : group.failureCount = modems.countP fun modem => modem.sysdescr.isEmpty
  described : ∀ mac, group.modems.lookup mac =
    ((sortModems modems).filter fun modem => modem.mac = mac).getLast?.map fun modem =>
      ⟨modem.sysdescr⟩
  distinct : group.modems.entries.length = group.modemCount ↔
    (modems.map SgwCableModemModel.mac).Nodup

/-- The cable modem pages of the same snapshot have the same modems and channels. -/
structure AgreesWithPages (store : SgwCacheStore) (group : ServingGroupTopologyGroupModel) :
    Prop where
  totals : ∀ hexToInet nowEpoch page pageSize,
    (buildModemGroup hexToInet group.sgId store nowEpoch page pageSize).totalItems =
      group.modemCount
  items : ∀ hexToInet nowEpoch page pageSize,
    ∀ item ∈ (buildModemGroup hexToInet group.sgId store nowEpoch page pageSize).items,
      item.macAddress ∈ group.modems.keys ∧
      item.dsChannelIds = group.channels.ds.counts.map (fun entry => entry.channelId) ∧
      item.usChannelIds = group.channels.us.counts.map fun entry => entry.channelId

/-- The whole of a group is accounted for by the snapshot that was looked up for it. -/
structure GroupAccounted (snapshot : SgwSnapshotModel)
    (group : ServingGroupTopologyGroupModel) : Prop where
  modems : ModemsCounted snapshot.cableModems group
  dsSets : SetsCounted SgwCableModemModel.dsChannelSet snapshot.cableModems
    group.channels.ds.setCounts
  usSets : SetsCounted SgwCableModemModel.usChannelSet snapshot.cableModems
    group.channels.us.setCounts
  ds : ChannelsCounted SgwCableModemModel.dsChannelSet snapshot.cableModems snapshot.dsChSetId
    snapshot.dsChannels.channelIds group.channels.ds.scQam group.channels.ds.ofdm
    group.channels.ds.counts
  us : ChannelsCounted SgwCableModemModel.usChannelSet snapshot.cableModems snapshot.usChSetId
    snapshot.usChannels.channelIds group.channels.us.scQam group.channels.us.ofdma
    group.channels.us.counts

/-- The channels of one side, of which each has one record, of one of two types. -/
structure ChannelsInOrder (ofdmType : RfChannelType) (channelIds : List ℤ)
    (records : List SgwRfChannelModel) : Prop where
  ids : records.map SgwRfChannelModel.channelId = channelIds
  ascending : channelIds.Pairwise (· < ·)
  positive : ∀ channelId ∈ channelIds, 0 < channelId
  typed : ∀ record ∈ records, record.channelType = .scQam ∨ record.channelType = ofdmType

/-- What a heavy refresh leaves of the channels. -/
structure SidesInOrder (payload : SgwSnapshotPayloadModel) : Prop where
  ds : ChannelsInOrder .ofdm payload.dsChannels.channelIds payload.dsRfChannels
  us : ChannelsInOrder .ofdma payload.usChannels.channelIds payload.usRfChannels

end Accounts

section Modems
variable (modems : List SgwCableModemModel)

theorem foldl_recordModem (gathered : TopologyModems) :
    modems.foldl recordModem gathered =
      { failureCount := gathered.failureCount +
          modems.countP fun modem => modem.sysdescr.isEmpty
        successCount := gathered.successCount +
          modems.countP fun modem => !modem.sysdescr.isEmpty
        modems := (modems.map fun modem => (modem.mac,
          (⟨modem.sysdescr⟩ : ServingGroupTopologyModemEntryModel))).foldl
            (fun d p => d.insert p.1 p.2) gathered.modems } := by
  induction modems generalizing gathered with
  | nil => rfl
  | cons modem modems ih =>
    rw [List.foldl_cons, ih, List.map_cons, List.foldl_cons, List.countP_cons, List.countP_cons]
    cases hempty : modem.sysdescr.isEmpty with
    | true =>
      simp only [recordModem, hempty, if_true, Bool.not_true, Bool.false_eq_true, if_false,
        Nat.add_zero, Nat.add_assoc, Nat.add_comm 1]
    | false =>
      simp only [recordModem, hempty, if_true, Bool.not_false, Bool.false_eq_true, if_false,
        Nat.add_zero, Nat.add_assoc, Nat.add_comm 1]

variable {modems} in
theorem modemsCounted {group : ServingGroupTopologyGroupModel}
    (hcount : group.modemCount = (sortModems modems).length)
    (hsuccess : group.successCount = ((sortModems modems).foldl recordModem {}).successCount)
    (hfailure : group.failureCount = ((sortModems modems).foldl recordModem {}).failureCount)
    (hmodems : group.modems = ((sortModems modems).foldl recordModem {}).modems) :
    ModemsCounted modems group := by
  have hperm : (sortModems modems).Perm modems := KeyedSort.sortBy_perm HeavyPoller.modemKey modems
  simp only [foldl_recordModem, Nat.zero_add] at hsuccess hfailure hmodems
  have hpartition := List.length_eq_countP_add_countP
    (fun modem : SgwCableModemModel => modem.sysdescr.isEmpty) (l := sortModems modems)
  have hnegated : (sortModems modems).countP (fun modem => !modem.sysdescr.isEmpty) =
      (sortModems modems).countP fun modem => decide ¬modem.sysdescr.isEmpty = true := by
    apply List.countP_congr
    intro modem _
    simp
  constructor
  · rw [hcount, hperm.length_eq]
  · rw [hsuccess, hfailure, hcount, hnegated]
    omega
  · rw [hfailure, hperm.countP_eq]
  · intro mac
    have hempty : (OrderedDict.empty :
        OrderedDict MacAddressStr ServingGroupTopologyModemEntryModel).lookup mac = none := rfl
    rw [hmodems, OrderedDict.lookup_foldl_insert_last, hempty, Option.or_none, List.filter_map,
      List.getLast?_map, Option.map_map]
    rfl
  · rw [hmodems, hcount, ← (hperm.map SgwCableModemModel.mac).nodup_iff]
    have hdistinct := OrderedDict.length_foldl_insert_iff ((sortModems modems).map fun modem =>
      (modem.mac, (⟨modem.sysdescr⟩ : ServingGroupTopologyModemEntryModel)))
    rw [List.length_map, List.map_map] at hdistinct
    exact hdistinct

end Modems

section Channels
variable {modems : List SgwCableModemModel} {isDownstream : Bool}

/-- The sets that are counted. -/
def countedSets (isDownstream : Bool) (modems : List SgwCableModemModel) : List ChSetId :=
  (modems.map (channelSet isDownstream)).filter fun chSetId => 0 < chSetId

theorem buildChannelSetCounts_eq (modems : List SgwCableModemModel) (isDownstream : Bool) :
    buildChannelSetCounts modems isDownstream =
      (KeyedSort.sortBy id
        ((countedSets isDownstream modems).foldl OrderedDict.tally .empty).keys).map
          fun chSetId =>
            { chSetId, modemCount := (countedSets isDownstream modems).count chSetId } := by
  have hfold (counts : OrderedDict ℤ ℕ) : modems.foldl (fun counts modem =>
      if channelSet isDownstream modem ≤ 0 then counts
      else counts.insert (channelSet isDownstream modem)
        ((counts.lookup (channelSet isDownstream modem)).getD 0+1)) counts =
      (countedSets isDownstream modems).foldl OrderedDict.tally counts := by
    induction modems generalizing counts with
    | nil => rfl
    | cons modem modems ih =>
      rw [List.foldl_cons, ih]
      simp only [countedSets, List.map_cons]
      by_cases hset : channelSet isDownstream modem ≤ 0
      · rw [if_pos hset, List.filter_cons_of_neg (by simpa using hset)]
      · rw [if_neg hset, List.filter_cons_of_pos (by simpa using hset)]
        rfl
  unfold buildChannelSetCounts
  dsimp only
  rw [hfold]
  apply List.map_congr_left
  intro chSetId _
  have hcount := OrderedDict.lookup_foldl_tally (countedSets isDownstream modems) .empty chSetId
  have hnone : ((OrderedDict.empty : OrderedDict ℤ ℕ).lookup chSetId).getD 0 = 0 := rfl
  rw [hcount, hnone, Nat.zero_add]

theorem count_countedSets {chSetId : ChSetId} (hpos : 0 < chSetId) :
    (countedSets isDownstream modems).count chSetId =
      modems.countP fun modem => channelSet isDownstream modem = chSetId := by
  rw [countedSets, List.count_filter (p := fun k : ChSetId => decide (0 < k)) (decide_eq_true hpos),
    List.count, List.countP_map]
  rfl

theorem setsCounted : SetsCounted (channelSet isDownstream) modems
    (buildChannelSetCounts modems isDownstream) := by
  have hkeys := OrderedDict.perm_keys_tally (countedSets isDownstream modems)
  have hsorted := KeyedSort.sortBy_perm id
    ((countedSets isDownstream modems).foldl OrderedDict.tally .empty).keys
  have hnodup : ((countedSets isDownstream modems).foldl OrderedDict.tally .empty).keys.Nodup :=
    OrderedDict.nodup_keys _
  rw [buildChannelSetCounts_eq]
  constructor
  · rw [List.map_map]
    have hdistinct : ((((countedSets isDownstream modems).foldl OrderedDict.tally .empty).keys).map
        id).Nodup := by rwa [List.map_id]
    exact List.pairwise_map.mpr (KeyedSort.sortBy_lt hdistinct)
  · intro entry hentry
    obtain ⟨chSetId, hmem, rfl⟩ := List.mem_map.mp hentry
    have hcounted : chSetId ∈ countedSets isDownstream modems :=
      List.mem_dedup.mp (hkeys.mem_iff.mp (hsorted.mem_iff.mp hmem))
    have hpos : 0 < chSetId := of_decide_eq_true (List.mem_filter.mp hcounted).2
    exact ⟨hpos, List.count_pos_iff.mpr hcounted, count_countedSets hpos⟩
  · intro modem hmodem hpos
    have hcounted : channelSet isDownstream modem ∈ countedSets isDownstream modems :=
      List.mem_filter.mpr ⟨List.mem_map_of_mem hmodem, decide_eq_true hpos⟩
    rw [List.map_map]
    exact List.mem_map.mpr ⟨_, hsorted.mem_iff.mpr (hkeys.mem_iff.mpr
      (List.mem_dedup.mpr hcounted)), rfl⟩
  · rw [List.map_map]
    calc ((KeyedSort.sortBy id _).map fun chSetId =>
          (countedSets isDownstream modems).count chSetId).sum
        = ((countedSets isDownstream modems).dedup.map fun chSetId =>
          (countedSets isDownstream modems).count chSetId).sum :=
          ((hsorted.trans hkeys).map _).sum_eq
      _ = (countedSets isDownstream modems).length := List.sum_map_count_dedup_eq_length _
      _ = modems.countP fun modem => 0 < channelSet isDownstream modem := by
          rw [countedSets, List.filter_map, List.length_map, List.countP_eq_length_filter]
          rfl

theorem SetsCounted.of_perm {channelSet : SgwCableModemModel → ChSetId}
    {modems' : List SgwCableModemModel}
    {setCounts : List ServingGroupTopologyChannelSetCountModel}
    (h : SetsCounted channelSet modems' setCounts) (hperm : modems'.Perm modems) :
    SetsCounted channelSet modems setCounts := by
  refine ⟨h.ascending, ?_, ?_, ?_⟩
  · intro entry hentry
    obtain ⟨hpos, hsome, hcount⟩ := h.counted entry hentry
    rw [hperm.countP_eq] at hcount
    exact ⟨hpos, hsome, hcount⟩
  · intro modem hmodem
    exact h.complete modem (hperm.mem_iff.mpr hmodem)
  · rw [h.total, hperm.countP_eq]

/-- The count of the group's own channel set. -/
theorem lookup_countBySet {channelSet : SgwCableModemModel → ChSetId}
    {setCounts : List ServingGroupTopologyChannelSetCountModel}
    (h : SetsCounted channelSet modems setCounts) (chSetId : ChSetId) :
    ((setCounts.foldl (fun counts entry => counts.insert entry.chSetId entry.modemCount)
      (OrderedDict.empty : OrderedDict ℤ ℕ)).lookup chSetId).getD 0 =
      if 0 < chSetId then modems.countP (fun modem => channelSet modem = chSetId) else 0 := by
  have hpairs : setCounts.foldl (fun counts entry => counts.insert entry.chSetId entry.modemCount)
      (OrderedDict.empty : OrderedDict ℤ ℕ) =
      (setCounts.map fun entry => (entry.chSetId, entry.modemCount)).foldl
        (fun d p => d.insert p.1 p.2) .empty := by
    rw [List.foldl_map]
  rw [hpairs]
  by_cases hmem : chSetId ∈ setCounts.map fun entry => entry.chSetId
  · obtain ⟨entry, hentry, rfl⟩ := List.mem_map.mp hmem
    obtain ⟨hpos, -, hcount⟩ := h.counted entry hentry
    have hdistinct : ((setCounts.map fun entry => (entry.chSetId, entry.modemCount)).map
        Prod.fst).Nodup := by
      rw [List.map_map]
      exact h.ascending.imp fun hlt => ne_of_lt hlt
    rw [OrderedDict.lookup_foldl_insert_of_mem hdistinct
      (List.mem_map_of_mem (f := fun entry : ServingGroupTopologyChannelSetCountModel =>
        (entry.chSetId, entry.modemCount)) hentry), if_pos hpos]
    exact hcount
  · have hnone : ((setCounts.map fun entry => (entry.chSetId, entry.modemCount)).foldl
        (fun d p => d.insert p.1 p.2) (OrderedDict.empty : OrderedDict ℤ ℕ)).lookup chSetId =
        none := by
      rw [OrderedDict.lookup_eq_none_iff, OrderedDict.mem_keys_foldl_insert, List.map_map]
      exact not_or.mpr ⟨List.not_mem_nil, hmem⟩
    rw [hnone]
    -- a positive set that is not listed is the set of no modem
    by_cases hpos : 0 < chSetId
    · rw [if_pos hpos]
      apply Eq.symm
      apply List.countP_eq_zero.mpr
      intro modem hmodem hset
      have hset := of_decide_eq_true hset
      rw [← hset] at hmem hpos
      exact hmem (h.complete modem hmodem hpos)
    · rw [if_neg hpos]
      rfl

variable {ofdmType : RfChannelType} {channelIds : List ℤ} {records : List SgwRfChannelModel}

/-- Records in order are taken as they are. -/
theorem resolveRfChannels_eq (h : ChannelsInOrder ofdmType channelIds records)
    (defaultType : RfChannelType) : resolveRfChannels records channelIds defaultType = records := by
  unfold resolveRfChannels
  split
  next hnone =>
    have hids : channelIds = [] := by
      rw [← h.ids, hnone]
      rfl
    rw [hids, hnone]
    rfl
  next =>
    have hsorted := h.ascending
    rw [← h.ids, List.pairwise_map] at hsorted
    apply KeyedSort.sortBy_eq_self
    exact hsorted.imp fun hlt => le_of_lt (Prod.Lex.toLex_lt_toLex.mpr (Or.inl hlt))

theorem perm_filterChannels (h : ChannelsInOrder ofdmType channelIds records)
    (htype : ofdmType ≠ .scQam) :
    (filterChannels records .scQam ++ filterChannels records ofdmType).Perm records := by
  have hothers : filterChannels records ofdmType =
      records.filter fun record => !decide (record.channelType = .scQam) := by
    apply List.filter_congr
    intro record hrecord
    rcases h.typed record hrecord with hscQam | hofdm
    · rw [hscQam, decide_eq_false htype.symm]
      rfl
    · rw [hofdm, decide_eq_true rfl, decide_eq_false htype]
      rfl
  rw [hothers]
  exact List.filter_append_perm _ _

theorem channelsCounted (h : ChannelsInOrder ofdmType channelIds records)
    (htype : ofdmType ≠ .scQam) {channelSet : SgwCableModemModel → ChSetId}
    {setCounts : List ServingGroupTopologyChannelSetCountModel}
    (hsets : SetsCounted channelSet modems setCounts) (chSetId : ChSetId) :
    ChannelsCounted channelSet modems chSetId channelIds
      (filterChannels (resolveRfChannels records channelIds .scQam) .scQam)
      (filterChannels (resolveRfChannels records channelIds .scQam) ofdmType)
      (buildChannelCounts (resolveRfChannels records channelIds .scQam) chSetId setCounts) := by
  rw [resolveRfChannels_eq h]
  have hparts := (perm_filterChannels h htype).map SgwRfChannelModel.channelId
  rw [h.ids] at hparts
  refine ⟨h.ascending, h.positive, hparts, ?_, ?_⟩
  · rw [buildChannelCounts, List.map_map]
    exact h.ids
  · intro entry hentry
    obtain ⟨record, -, rfl⟩ := List.mem_map.mp hentry
    exact lookup_countBySet hsets chSetId

/-- The channels of the cable modem entries are the same. -/
theorem resolveChannelIds_eq (h : ChannelsInOrder ofdmType channelIds records) :
    resolveChannelIds records channelIds = channelIds := by
  unfold resolveChannelIds
  split
  next hnone =>
    have hids : channelIds = [] := by
      rw [← h.ids, hnone]
      rfl
    rw [hids]
    rfl
  next =>
    have hsorted := h.ascending
    rw [← h.ids, List.pairwise_map] at hsorted
    rw [KeyedSort.sortBy_eq_self (hsorted.imp fun hlt => le_of_lt hlt), h.ids]

end Channels

section Groups
variable {call : TopologyCall} {sgId : ServiceGroupId} {entry : SgwCacheEntryModel}

theorem sgId_buildTopologyGroup (call : TopologyCall) (sgId : ServiceGroupId) :
    (buildTopologyGroup call sgId).sgId = sgId := by
  unfold buildTopologyGroup
  cases (call.entryLook sgId).getEntry sgId with
  | none => rfl
  | some entry => rfl

/-- A group with a cached snapshot, whose channels are in order. -/
theorem groupAccounted (hentry : (call.entryLook sgId).getEntry sgId = some entry)
    (hsides : SidesInOrder entry.snapshot.payload) :
    GroupAccounted entry.snapshot (buildTopologyGroup call sgId) := by
  have hperm : (sortModems entry.snapshot.cableModems).Perm entry.snapshot.cableModems :=
    KeyedSort.sortBy_perm HeavyPoller.modemKey _
  have hsets (isDownstream : Bool) : SetsCounted (channelSet isDownstream)
      entry.snapshot.cableModems
      (buildChannelSetCounts (sortModems entry.snapshot.cableModems) isDownstream) :=
    setsCounted.of_perm hperm
  rw [buildTopologyGroup, hentry]
  exact ⟨modemsCounted rfl rfl rfl rfl, hsets true, hsets false,
    channelsCounted hsides.ds (by decide) (hsets true) _,
    channelsCounted hsides.us (by decide) (hsets false) _⟩

/-- Two rows with one address are two modems under one key. -/
example :
    let gathered := [{ mac := "a", ipv4 := "1", sysdescr := ⟨false, []⟩ }, { mac := "a" }].foldl
      recordModem {}
    (gathered.successCount, gathered.failureCount, gathered.modems.keys) = (1, 1, ["a"]) := by
  decide

/-- On a page stand modems of the snapshot. -/
theorem mem_of_mem_paginateModems {modems : List SgwCableModemModel} {page pageSize : ℤ}
    {modem : SgwCableModemModel} (h : modem ∈ paginateModems modems page pageSize) :
    modem ∈ modems := by
  unfold paginateModems at h
  dsimp only at h
  split at h
  · cases h
  · exact List.mem_of_mem_take (List.mem_of_mem_drop h)

theorem agreesWithPages (hentry : (call.entryLook sgId).getEntry sgId = some entry)
    (hsides : SidesInOrder entry.snapshot.payload) :
    AgreesWithPages (call.entryLook sgId) (buildTopologyGroup call sgId) := by
  have haccounted := groupAccounted hentry hsides
  have hperm : (sortModems entry.snapshot.cableModems).Perm entry.snapshot.cableModems :=
    KeyedSort.sortBy_perm HeavyPoller.modemKey _
  have hds : resolveChannelIds entry.snapshot.dsRfChannels entry.snapshot.dsChannels.channelIds =
      entry.snapshot.dsChannels.channelIds := resolveChannelIds_eq hsides.ds
  have hus : resolveChannelIds entry.snapshot.usRfChannels entry.snapshot.usChannels.channelIds =
      entry.snapshot.usChannels.channelIds := resolveChannelIds_eq hsides.us
  have hentry' : (call.entryLook sgId).getEntry (buildTopologyGroup call sgId).sgId =
      some entry := by rw [sgId_buildTopologyGroup, hentry]
  constructor
  · intro hexToInet nowEpoch page pageSize
    rw [haccounted.modems.count, buildModemGroup, hentry']
    exact hperm.length_eq
  · intro hexToInet nowEpoch page pageSize item hitem
    rw [buildModemGroup, hentry'] at hitem
    obtain ⟨modem, hmodem, rfl⟩ := List.mem_map.mp hitem
    have hlisted := mem_of_mem_paginateModems hmodem
    refine ⟨?_, ?_, ?_⟩
    · have hsame : (sortModems entry.snapshot.cableModems).filter
          (fun other => other.mac = modem.mac) ≠ [] :=
        List.ne_nil_of_mem (List.mem_filter.mpr ⟨hlisted, decide_eq_true rfl⟩)
      have hdescribed := haccounted.modems.described modem.mac
      rw [List.getLast?_eq_some_getLast hsame] at hdescribed
      exact OrderedDict.mem_keys_of_lookup hdescribed
    · rw [haccounted.ds.aligned]
      exact hds
    · rw [haccounted.us.aligned]
      exact hus

end Groups

section Answer

/-- What an answer says of one group, against what the store held when it was looked up. -/
structure GroupAnswered (call : TopologyCall) (group : ServingGroupTopologyGroupModel) : Prop where
  cached : ∀ entry, (call.entryLook group.sgId).getEntry group.sgId = some entry →
    GroupAccounted entry.snapshot group ∧ AgreesWithPages (call.entryLook group.sgId) group
  missing : (call.entryLook group.sgId).getEntry group.sgId = none →
    group.modemCount = 0 ∧ group.modems = .empty ∧ group.channels = {} ∧
      group.metadata.refreshState = .error

/-- Every group that is asked for is either among the groups of the answer or reported missing. -/
structure TopologyAnswered (runtime : ServingGroupRuntime) (call : TopologyCall)
    (request : GetServingGroupTopologyRequest) (response : GetServingGroupTopologyResponse) :
    Prop where
  listed : response.groups.map (fun group => group.sgId) = response.resolvedSgIds
  ascending : response.resolvedSgIds.Pairwise (· ≤ ·)
  down : ¬Up runtime → response.status = .failure ∧ response.groups = []
  requested : Up runtime → request.servingGroup.id ≠ [] →
    (response.resolvedSgIds ++ response.missingSgIds).Perm request.servingGroup.id
  everything : Up runtime → request.servingGroup.id = [] →
    response.resolvedSgIds.Perm runtime.status.discoveredSgIds ∧ response.missingSgIds = []
  groups : ∀ group ∈ response.groups, GroupAnswered call group

variable {runtime : ServingGroupRuntime} {call : TopologyCall}

/-- An answer that is no failure, whatever is looked up for its groups. -/
theorem getTopology_up (hup : Up runtime) (call : TopologyCall)
    (request : GetServingGroupTopologyRequest) :
    let resolved := (resolvedSgIds request.servingGroup.id runtime.status.discoveredSgIds)
    let sorted := resolved.insertionSort (· ≤ ·)
    let response := getTopology runtime call request
    response.resolvedSgIds = sorted ∧ response.groups = sorted.map (buildTopologyGroup call) ∧
    response.missingSgIds =
      if resolved = [] then request.servingGroup.id
      else missingSgIds request.servingGroup.id runtime.status.discoveredSgIds := by
  obtain ⟨hcompleted, hdiscovered, hprimed, hstore⟩ := hup
  have hnone : runtime.store.isNone = false := by
    rw [Option.isNone_eq_false_iff]
    exact hstore
  unfold getTopology
  simp only [hcompleted, hdiscovered, hprimed, hnone, Bool.true_eq_false, Bool.false_eq_true,
    or_self, if_false]
  by_cases hempty : resolvedSgIds request.servingGroup.id runtime.status.discoveredSgIds = []
  · rw [if_pos hempty, hempty]
    exact ⟨rfl, rfl, (if_pos rfl).symm⟩
  · rw [if_neg hempty, if_neg hempty]
    exact ⟨rfl, rfl, rfl⟩

theorem getTopology_down (hdown : ¬Up runtime) (call : TopologyCall)
    (request : GetServingGroupTopologyRequest) :
    ∃ message, getTopology runtime call request = buildTopologyFailure call message := by
  unfold getTopology
  dsimp only
  by_cases hcompleted : runtime.status.startupCompleted = false
  · rw [if_pos hcompleted]
    exact ⟨_, rfl⟩
  by_cases hfailed : runtime.status.discoveryOk = false ∨ runtime.status.primeFailed = true
  · rw [if_neg hcompleted, if_pos hfailed]
    exact ⟨_, rfl⟩
  by_cases hstore : runtime.store.isNone = true
  · rw [if_neg hcompleted, if_neg hfailed, if_pos hstore]
    exact ⟨_, rfl⟩
  push Not at hfailed
  rw [Bool.not_eq_true, Option.isNone_eq_false_iff] at hstore
  exact absurd ⟨by simpa using hcompleted, by simpa using hfailed.1, by simpa using hfailed.2,
    hstore⟩ hdown

theorem topologyAnswered (request : GetServingGroupTopologyRequest)
    (hlooks : ∀ sgId entry, (call.entryLook sgId).getEntry sgId = some entry →
      SidesInOrder entry.snapshot.payload) :
    TopologyAnswered runtime call request (getTopology runtime call request) := by
  by_cases hup : Up runtime
  · obtain ⟨hresolved, hgroups, hmissing⟩ := getTopology_up hup call request
    have hsorted := List.perm_insertionSort (· ≤ ·)
      (resolvedSgIds request.servingGroup.id runtime.status.discoveredSgIds)
    refine ⟨?_, ?_, fun hdown => absurd hup hdown, ?_, ?_, ?_⟩
    · rw [hresolved, hgroups, List.map_map]
      exact (List.map_congr_left fun sgId _ => sgId_buildTopologyGroup call sgId).trans
        (List.map_id _)
    · rw [hresolved]
      exact List.pairwise_insertionSort _ _
    · intro _ hsome
      have hfilter : resolvedSgIds request.servingGroup.id runtime.status.discoveredSgIds =
          request.servingGroup.id.filter fun sgId => sgId ∈ runtime.status.discoveredSgIds := by
        rw [resolvedSgIds, if_neg hsome]
      rw [hresolved, hmissing]
      by_cases hempty : resolvedSgIds request.servingGroup.id
          runtime.status.discoveredSgIds = []
      · rw [if_pos hempty, hempty]
        exact List.Perm.refl _
      · rw [if_neg hempty, missingSgIds]
        refine (hsorted.append_right _).trans ?_
        rw [hfilter]
        have hparts := List.filter_append_perm
          (fun sgId => decide (sgId ∈ runtime.status.discoveredSgIds)) request.servingGroup.id
        simpa only [decide_not] using hparts
    · intro _ hall
      have hresolves : resolvedSgIds request.servingGroup.id runtime.status.discoveredSgIds =
          runtime.status.discoveredSgIds := by rw [resolvedSgIds, if_pos hall]
      rw [hresolved, hmissing, missingSgIds, hall]
      rw [hall] at hresolves
      rw [hresolves]
      refine ⟨List.perm_insertionSort _ _, ?_⟩
      split
      · rfl
      · rfl
    · intro group hgroup
      rw [hgroups] at hgroup
      obtain ⟨sgId, -, rfl⟩ := List.mem_map.mp hgroup
      constructor
      · intro entry hentry
        rw [sgId_buildTopologyGroup] at hentry ⊢
        exact ⟨groupAccounted hentry (hlooks sgId entry hentry),
          agreesWithPages hentry (hlooks sgId entry hentry)⟩
      · intro hnone
        rw [sgId_buildTopologyGroup] at hnone
        rw [buildTopologyGroup, hnone]
        exact ⟨rfl, rfl, rfl, rfl⟩
  · obtain ⟨message, hfailure⟩ := getTopology_down hup call request
    rw [hfailure]
    refine ⟨rfl, List.Pairwise.nil, fun _ => ⟨rfl, rfl⟩, fun h => absurd h hup,
      fun h => absurd h hup, ?_⟩
    intro group hgroup
    cases hgroup

end Answer
end ServingGroupCacheService

open ServingGroupCacheService

section Collected
open HeavyPoller

theorem channelsInOrder_of_side {summary : SgwChannelSummaryModel} {ofdmRow : ℤ → Option SnmpRow}
    {ofdm : ℤ → SnmpRow → SgwRfChannelModel} {scQam : ℤ → SgwRfChannelModel}
    {records : List SgwRfChannelModel} {ofdmType : RfChannelType}
    (h : SideWellFormed summary ofdmRow ofdm scQam records)
    (hofdm : ∀ channelId row, (ofdm channelId row).channelType = ofdmType)
    (hscQam : ∀ channelId, (scQam channelId).channelType = .scQam) :
    ChannelsInOrder ofdmType summary.channelIds records := by
  refine ⟨h.described.channelIds, h.ascending, h.positive, ?_⟩
  intro record hrecord
  cases hrow : ofdmRow record.channelId with
  | some row =>
    right
    rw [h.described.precedence record hrecord row hrow, hofdm]
  | none =>
    left
    rw [h.described.otherwise record hrecord hrow, hscQam]

/-- Whatever a heavy refresh collects, the channels of its payload are in order. -/
theorem sidesInOrder_of_heavy {env : SnmpEnvironment} {adapter : CmtsAdapterConfig}
    {sgId : ServiceGroupId} {t : Trace CollectionFailure} {payload : SgwSnapshotPayloadModel}
    (h : ((sgwHeavyPoller env adapter sgId).run t).1 = .ok payload) : SidesInOrder payload := by
  rw [sgwHeavyPoller_eq] at h
  obtain ⟨inventory, t', hinventory, hpayload⟩ := Attempt.ok_of_run_bind h
  have hinner := Attempt.ok_of_run_relabel (congrArg Prod.fst hinventory)
  obtain ⟨topology, _, _, hrest⟩ := Attempt.ok_of_run_bind hinner
  obtain ⟨tables, _, _, hrest⟩ := Attempt.ok_of_run_bind hrest
  obtain ⟨modems, _, _, hmodems⟩ := Attempt.ok_of_run_bind hrest
  cases hmodems
  cases hpayload
  exact ⟨channelsInOrder_of_side
      (sideWellFormed_normalize _ (describedOnce_buildDsRfChannels tables _))
      (fun _ _ => rfl) fun _ => rfl,
    channelsInOrder_of_side
      (sideWellFormed_normalize _ (describedOnce_buildUsRfChannels tables _))
      (fun _ _ => rfl) fun _ => rfl⟩

/-- The entry of a group before anything has been collected. -/
theorem sidesInOrder_new : SidesInOrder {} := by
  have hnone (type : RfChannelType) : ChannelsInOrder type [] [] :=
    ⟨rfl, List.Pairwise.nil, fun _ h => absurd h List.not_mem_nil,
      fun _ h => absurd h List.not_mem_nil⟩
  exact ⟨hnone .ofdm, hnone .ofdma⟩

end Collected

/-- A heavy poll collects by SNMP, whatever it is answered. The light poller may be any. -/
def SgwAction.Collects : SgwAction → Prop
  | .poll pollers => ∃ env adapter light, pollers = SgwManager.snmpPollers env adapter light
  | _ => True

namespace SgwWorld

/-- The channels of every cached snapshot are in order. -/
def SidesKept (w : SgwWorld) : Prop :=
  ∀ sgId entry, w.manager.store.getEntry sgId = some entry → SidesInOrder entry.snapshot.payload

section Step
variable {w : SgwWorld}

theorem sidesInOrder_ensureEntry {store : SgwCacheStore}
    (h : ∀ sgId entry, store.getEntry sgId = some entry → SidesInOrder entry.snapshot.payload)
    (sgId : ServiceGroupId) (nowEpoch : ℚ) :
    SidesInOrder (SgwManager.ensureEntry store sgId nowEpoch).1.snapshot.payload := by
  cases hentry : store.getEntry sgId with
  | none =>
    rw [SgwManager.ensureEntry_of_none hentry]
    exact sidesInOrder_new
  | some entry =>
    rw [SgwManager.ensureEntry_of_some _ hentry]
    exact h sgId entry hentry

theorem sidesKept_poll {pollers : SgwPollers} {turn : SgwTurn} (h : w.SidesKept)
    (hcollects : (SgwAction.poll pollers).Collects) (rest : List ServiceGroupId) :
    (w.stepPoll pollers turn rest).SidesKept := by
  intro a entry hentry
  rw [stepPoll] at hentry
  have hcase := SgwManager.pollTurn_case w.manager pollers turn
  generalize w.manager.pollTurn pollers turn = polled at hcase hentry
  have hensured := sidesInOrder_ensureEntry h turn.sgId turn.nowEpoch
  cases hcase with
  | skipped hmode => exact h a entry hentry
  | heavy payload hmode hanswer =>
    dsimp only at hentry
    rw [SgwManager.getEntry_refreshHeavy] at hentry
    split_ifs at hentry
    · cases hentry
      obtain ⟨env, adapter, light, rfl⟩ := hcollects
      exact sidesInOrder_of_heavy hanswer
    · exact h a entry hentry
  | light modems hmode hanswer =>
    dsimp only at hentry
    rw [SgwManager.getEntry_refreshLight] at hentry
    split_ifs at hentry
    · cases hentry
      -- a light refresh writes nothing but the modems
      exact ⟨hensured.ds, hensured.us⟩
    · exact h a entry hentry
  | failed exc hmode hheavy hlight =>
    dsimp only at hentry
    rw [SgwCacheStore.getEntry_markError] at hentry
    split_ifs at hentry
    · cases hentry
      rw [SgwCacheStore.entryOrBlank]
      cases hold : w.manager.store.getEntry turn.sgId with
      | none => exact sidesInOrder_new
      | some old => exact h turn.sgId old hold
    · exact h a entry hentry

theorem sidesKept_step {a : SgwAction} (hcollects : a.Collects) (hheld : w.Held)
    (h : w.SidesKept) :
    (w.step a).SidesKept := by
  have hcase := step_case w a
  generalize w.step a = w' at hcase ⊢
  cases hcase with
  | skip => exact h
  | begin nowEpoch hpc hclock => exact h
  | take nowEpoch sgId rest hpc =>
    intro b entry hentry
    obtain ⟨jitter, hmanager, -⟩ := SgwManager.beginTurn_manager w.manager nowEpoch sgId
    rw [stepTake, hmanager] at hentry
    dsimp only at hentry
    rw [SgwManager.getEntry_ensureEntry] at hentry
    split_ifs at hentry
    · cases hentry
      exact sidesInOrder_ensureEntry h sgId nowEpoch
    · exact h b entry hentry
  | poll pollers turn rest hpc => exact sidesKept_poll h hcollects rest
  | settle turn error rest hpc =>
    intro b entry hentry
    rw [stepSettle] at hentry
    dsimp only at hentry
    rw [SgwManager.getEntry_settleTurn] at hentry
    split_ifs at hentry
    · cases hentry
      -- the entry that the turn began with is still there
      obtain ⟨metadata, hmetadata⟩ := hheld turn (by rw [hpc]; rfl)
      obtain ⟨old, hold, -⟩ := Option.map_eq_some_iff.mp hmetadata
      rw [SgwManager.turnEntry, hold]
      exact h turn.sgId old hold
    · exact h b entry hentry
  | request sgId mode nowEpoch =>
    intro b entry hentry
    obtain ⟨requests, hmanager⟩ := SgwManager.requestRefresh_manager w.manager sgId mode nowEpoch
    rw [stepRequest, hmanager] at hentry
    exact h b entry hentry
  | setServiceGroups serviceGroups =>
    intro b entry hentry
    obtain ⟨jitter, counts, hmanager⟩ := SgwManager.setServiceGroups_spec w.manager serviceGroups
    rw [hmanager] at hentry
    exact h b entry hentry
  | restart hpc =>
    intro b entry hentry
    obtain ⟨jitter, counts, hmanager⟩ := SgwManager.cloneForRestart_spec w.manager .empty
    rw [stepRestart, hmanager] at hentry
    cases hentry

end Step

/-- A run after whose first steps each look at the store falls. -/
def Looks (settings : SgwSettings) (serviceGroups : List ServiceGroupId)
    (jitterProvider : ServiceGroupId → ℕ → ℤ) (actions : List SgwAction)
    (look : ServiceGroupId → SgwCacheStore) : Prop :=
  ∀ sgId, ∃ n, look sgId = (LabelledRun.exec step (init settings serviceGroups jitterProvider)
    (actions.take n)).manager.store

/-- In every run whose heavy polls collect by SNMP, and whatever its states are in which the store
is looked up, an answer accounts for every requested group, modem and channel. -/
theorem topology_accounts (settings : SgwSettings) (serviceGroups : List ServiceGroupId)
    (jitterProvider : ServiceGroupId → ℕ → ℤ) (actions : List SgwAction)
    (hcollects : ∀ a ∈ actions, a.Collects) (runtime : ServingGroupRuntime) (call : TopologyCall)
    (hlooks : Looks settings serviceGroups jitterProvider actions call.entryLook)
    (request : GetServingGroupTopologyRequest) :
    TopologyAnswered runtime call request (getTopology runtime call request) := by
  apply topologyAnswered
  intro sgId entry hentry
  obtain ⟨n, hlook⟩ := hlooks sgId
  rw [hlook] at hentry
  have hguarded : LabelledRun.Guarded step (fun _ a => a.Collects)
      (init settings serviceGroups jitterProvider) (actions.take n) :=
    LabelledRun.guarded_of_forall fun a ha => hcollects a (List.mem_of_mem_take ha)
  have hinit : (init settings serviceGroups jitterProvider).SidesKept := by
    intro a entry h
    obtain ⟨jitter, counts, hmanager⟩ := SgwManager.create_spec settings .empty serviceGroups
      jitterProvider
    rw [init, hmanager] at h
    cases h
  have hinv := LabelledRun.invariant_of_guarded (I := fun w => w.Held ∧ w.SidesKept)
    (fun w a hguard h => ⟨held_step w a h.1, sidesKept_step hguard h.1 h.2⟩) hguarded
    ⟨held_init settings serviceGroups jitterProvider, hinit⟩
  exact hinv.2 sgId entry hentry

/-- A group with two channels downstream, one of them OFDM, one channel upstream, and two modems, of
which one tells what it is. -/
def smallTables : List (SnmpRequest × List VarBind) := [
  (.walk "docsIf3MdNodeStatusMdDsSgId", [⟨[1, 10, 1, 97, 1], "3"⟩]),
  (.walk "docsIf3MdNodeStatusMdUsSgId", [⟨[1, 10, 1, 97, 1], "4"⟩]),
  (.walk "docsIf3MdDsSgStatusChSetId", [⟨[1, 10, 3], "1"⟩]),
  (.walk "docsIf3MdUsSgStatusChSetId", [⟨[1, 10, 4], "2"⟩]),
  (.walk "docsIf3DsChSetChList", [⟨[1, 10, 1], "0x0521"⟩]),
  (.walk "docsIf3UsChSetChList", [⟨[1, 10, 2], "0x09"⟩]),
  (.walk "docsIf31CmtsDsOfdmChanChannelId", [⟨[1, 33], "33"⟩]),
  (.get "docsIf31CmtsDsOfdmChanChannelId" [33], [⟨[1, 33], "33"⟩]),
  (.walk "docsIf3CmtsCmRegStatusMdCmSgId", [⟨[1, 1], "1"⟩, ⟨[1, 2], "1"⟩]),
  (.get "docsIf3CmtsCmRegStatusMacAddr" [1], [⟨[1, 1], "aa:bb:cc:00:00:01"⟩]),
  (.get "docsIf3CmtsCmRegStatusIPv4Addr" [1], [⟨[1, 1], "192.0.2.11"⟩]),
  (.get "docsIf3CmtsCmRegStatusRcsId" [1], [⟨[1, 1], "1"⟩]),
  (.get "docsIf3CmtsCmRegStatusTcsId" [1], [⟨[1, 1], "2"⟩]),
  (.get "docsIf3CmtsCmRegStatusMacAddr" [2], [⟨[1, 2], "aa:bb:cc:00:00:02"⟩]),
  (.get "docsIf3CmtsCmRegStatusIPv4Addr" [2], [⟨[1, 2], "192.0.2.12"⟩]),
  (.get "docsIf3CmtsCmRegStatusRcsId" [2], [⟨[1, 2], "1"⟩])]

def smallEnvironment : SnmpEnvironment where
  insideEventLoop := false
  resolveHost _ _ := .error ⟨.valueError, "unknown host"⟩
  openClient _ _ _ _ := .ok ()
  answer _ request := .ok ((smallTables.lookup request).getD [])
  modemCommunity _ := .ok (some "public")
  getSysDescr _ _ ipAddress _ :=
    if ipAddress = "192.0.2.11" then .ok ⟨false, [("MODEL", "m")]⟩ else .error "timeout"
  parseInet value := if value = "192.0.2.1" then some value else none
  parseMac value := some value
  hexToInet _ := none
  resolveOid _ := .ok [1]
  snmpGetResultValue rows := .ok (rows.map VarBind.value)
  extractLastOidIndex rows := .ok (rows.map fun row => ((row.oid.getLast?.getD 0 : ℕ) : ℤ))
  getResultValue rows := .ok (rows.head?.map VarBind.value)

def smallCycle : List SgwAction :=
  cycleActions 1000 (SgwManager.snmpPollers (fun _ => smallEnvironment)
    { hostname := "192.0.2.1", community := "public" } fun _ modems => .ok modems) 1

def everyGroup : GetServingGroupTopologyRequest where
  servingGroup := ⟨[], List.nodup_nil⟩
  one := Nat.zero_le 1
  id_pos _ h := absurd h List.not_mem_nil

/-- The service after the cycle, called while the store is as the cycle left it. -/
def smallCall : TopologyCall where
  timestamp := 1001
  nowEpoch := 1001
  entryLook _ := (LabelledRun.exec step oneGroup smallCycle).manager.store
  metadataLook _ := (LabelledRun.exec step oneGroup smallCycle).manager.store

theorem topology_accounts_small :
    ((getTopology (cachedRuntime { sgId := 1 }) smallCall everyGroup).groups.map fun group =>
      (group.sgId, group.modemCount, group.successCount, group.failureCount)) = [(1, 2, 1, 1)] ∧
    ((getTopology (cachedRuntime { sgId := 1 }) smallCall everyGroup).groups.map fun group =>
      (group.channels.ds.scQam.map SgwRfChannelModel.channelId,
        group.channels.ds.ofdm.map SgwRfChannelModel.channelId,
        group.channels.us.scQam.map SgwRfChannelModel.channelId)) = [([5], [33], [9])] ∧
    TopologyAnswered (cachedRuntime { sgId := 1 }) smallCall everyGroup
      (getTopology (cachedRuntime { sgId := 1 }) smallCall everyGroup) := by
  refine ⟨by decide +kernel, by decide +kernel, ?_⟩
  apply topology_accounts .default [1] (fun _ _ => 0) smallCycle
  · intro a ha
    simp only [smallCycle, cycleActions, List.replicate_one, List.flatten_cons, List.flatten_nil,
      List.append_nil, List.mem_cons, List.not_mem_nil, or_false] at ha
    rcases ha with rfl | rfl | rfl | rfl
    · trivial
    · trivial
    · exact ⟨_, _, _, rfl⟩
    · trivial
  · intro sgId
    refine ⟨smallCycle.length, ?_⟩
    rw [List.take_length, ← oneGroup, smallCall]

end SgwWorld
end PypnmCmts
