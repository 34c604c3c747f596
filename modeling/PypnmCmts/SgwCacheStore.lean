import Mathlib.Data.List.Sort
import PypnmCmts.OperationModels
import PypnmCmts.OrderedDict
import PypnmCmts.PyText

/-! `sgw/models.py` and `sgw/store.py`: the cached snapshots of the service groups. -/
namespace PypnmCmts

abbrev ChSetId := ℤ
abbrev CmtsCmRegState := ℤ
abbrev IPv4Str := String
abbrev IPv6Str := String

inductive RfChannelType
  | scQam | ofdm | ofdma
deriving DecidableEq

inductive SgwRefreshState
  | ok | stale | error
deriving DecidableEq

/-- Snapshot metadata for serving group worker caches. -/
structure SgwCacheMetadataModel where
  snapshotTimeEpoch : ℚ := 0
  ageSeconds : ℚ := 0
  lastHeavyRefreshEpoch : Option ℚ := none
  lastLightRefreshEpoch : Option ℚ := none
  refreshState : SgwRefreshState := .ok
  lastError : Option String := none
deriving DecidableEq

/-- Summary of channel inventory for a service group. -/
structure SgwChannelSummaryModel where
  count : ℕ := 0
  channelIds : List ℤ := []
deriving DecidableEq

structure SgwRfChannelModel where
  channelId : ℤ := 0
  channelType : RfChannelType := .scQam
  centerFrequencyHz : Option ℤ := none
  startFrequencyHz : Option ℤ := none
  plcFrequencyHz : Option ℤ := none
  channelWidthHz : Option ℤ := none
  lowerFrequencyHz : Option ℤ := none
  upperFrequencyHz : Option ℤ := none
deriving DecidableEq

/-- A modem's system description as the PyPNM package parses it. -/
structure SystemDescriptorModel where
  isEmpty : Bool := true
  fields : List (String × String) := []
deriving DecidableEq

/-- Minimal cable modem identity for SGW snapshots. -/
structure SgwCableModemModel where
  mac : MacAddressStr := ""
  ipv4 : IPv4Str := ""
  ipv6 : IPv6Str := ""
  dsChannelSet : ChSetId := 0
  usChannelSet : ChSetId := 0
  registrationStatus : CmtsCmRegState := 1
  sysdescr : SystemDescriptorModel := {}
deriving DecidableEq

/-- What a heavy refresh fetches for a service group. -/
structure SgwSnapshotPayloadModel where
  dsChSetId : ChSetId := 0
  usChSetId : ChSetId := 0
  dsChannels : SgwChannelSummaryModel := {}
  usChannels : SgwChannelSummaryModel := {}
  dsRfChannels : List SgwRfChannelModel := []
  usRfChannels : List SgwRfChannelModel := []
  cableModems : List SgwCableModemModel := []
deriving DecidableEq

structure SgwSnapshotModel where
  sgId : ServiceGroupId
  dsChSetId : ChSetId := 0
  usChSetId : ChSetId := 0
  dsChannels : SgwChannelSummaryModel := {}
  usChannels : SgwChannelSummaryModel := {}
  dsRfChannels : List SgwRfChannelModel := []
  usRfChannels : List SgwRfChannelModel := []
  cableModems : List SgwCableModemModel := []
  metadata : SgwCacheMetadataModel := {}
deriving DecidableEq

structure SgwCacheEntryModel where
  sgId : ServiceGroupId
  snapshot : SgwSnapshotModel
deriving DecidableEq

/-- The texts of errors are trimmed and bounded. -/
def sgwLastErrorMaxLength : ℕ := 256

def normalizeErrorMessage (message : String) : String :=
  let trimmed := PyText.strip message
  if trimmed = "" then "" else String.ofList (trimmed.toList.take sgwLastErrorMaxLength)

namespace SgwCacheEntryModel

def metadata (entry : SgwCacheEntryModel) : SgwCacheMetadataModel := entry.snapshot.metadata

def withMetadata (entry : SgwCacheEntryModel) (metadata : SgwCacheMetadataModel) :
    SgwCacheEntryModel := { entry with snapshot := { entry.snapshot with metadata } }

/-- A failure is entered with its time as the snapshot time. -/
def errored (entry : SgwCacheEntryModel) (errorMessage : String) (nowEpoch : ℚ) :
    SgwCacheEntryModel :=
  entry.withMetadata { entry.metadata with
    snapshotTimeEpoch := nowEpoch, ageSeconds := 0, refreshState := .error,
    lastError := some (normalizeErrorMessage errorMessage) }

@[simp] theorem sgId_withMetadata (entry : SgwCacheEntryModel)
    (metadata : SgwCacheMetadataModel) : (entry.withMetadata metadata).sgId = entry.sgId := rfl

@[simp] theorem metadata_withMetadata (entry : SgwCacheEntryModel)
    (metadata : SgwCacheMetadataModel) : (entry.withMetadata metadata).metadata = metadata := rfl

end SgwCacheEntryModel

/-- Each entry is kept under its own service group. -/
structure SgwCacheStore where
  entries : OrderedDict ServiceGroupId SgwCacheEntryModel
  keyed : ∀ e ∈ entries.entries, e.2.sgId = e.1

namespace SgwCacheStore

def empty : SgwCacheStore := ⟨.empty, fun _ he => absurd he List.not_mem_nil⟩

/-- The cached service group identifiers, sorted. -/
def getIds (store : SgwCacheStore) : List ServiceGroupId := store.entries.keys.insertionSort (· ≤ ·)

def getEntry (store : SgwCacheStore) (sgId : ServiceGroupId) : Option SgwCacheEntryModel :=
  store.entries.lookup sgId

theorem keyed_insert (store : SgwCacheStore) {sgId : ServiceGroupId} {entry : SgwCacheEntryModel}
    (h : entry.sgId = sgId) : ∀ e ∈ (store.entries.insert sgId entry).entries, e.2.sgId = e.1 := by
  intro e he
  rcases OrderedDict.mem_entries_insert.mp he with rfl | ⟨-, he⟩
  · exact h
  · exact store.keyed e he

def upsertEntry (store : SgwCacheStore) (entry : SgwCacheEntryModel) : SgwCacheStore :=
  ⟨store.entries.insert entry.sgId entry, store.keyed_insert rfl⟩

theorem sgId_of_getEntry {store : SgwCacheStore} {sgId : ServiceGroupId}
    {entry : SgwCacheEntryModel} (h : store.getEntry sgId = some entry) : entry.sgId = sgId :=
  store.keyed _ ((store.entries.lookup_eq_some_iff sgId entry).mp h)

/-- The entry that an error is entered in. -/
def entryOrBlank (store : SgwCacheStore) (sgId : ServiceGroupId) : SgwCacheEntryModel :=
  (store.getEntry sgId).getD { sgId, snapshot := { sgId } }

theorem sgId_entryOrBlank (store : SgwCacheStore) (sgId : ServiceGroupId) :
    (store.entryOrBlank sgId).sgId = sgId := by
  rw [entryOrBlank]
  cases hentry : store.getEntry sgId with
  | none => rfl
  | some entry => exact sgId_of_getEntry hentry

/-- Mark a cache entry as errored and update its metadata. -/
def markError (store : SgwCacheStore) (sgId : ServiceGroupId) (errorMessage : String)
    (nowEpoch : ℚ) : SgwCacheMetadataModel × SgwCacheStore :=
  let newEntry := (store.entryOrBlank sgId).errored errorMessage nowEpoch
  (newEntry.metadata, ⟨store.entries.insert sgId newEntry,
    store.keyed_insert (store.sgId_entryOrBlank sgId)⟩)

def computeStaleness (ageSeconds : ℚ) (cacheMaxAgeSeconds : ℕ) : Bool :=
  cacheMaxAgeSeconds ≤ ageSeconds

/-- The MAC addresses of the cached rows of a service group. -/
def cachedMacs (store : SgwCacheStore) (sgId : ServiceGroupId) : List MacAddressStr :=
  ((store.getEntry sgId).map fun entry => entry.snapshot.cableModems.map (·.mac)).getD []

/-- The requested service groups, or all cached ones. -/
def selectedSgIds (store : SgwCacheStore) (requestedSgIds : List ServiceGroupId) :
    List ServiceGroupId := if requestedSgIds ≠ [] then requestedSgIds else store.getIds

/-- At most one cached row per MAC address in a service group. -/
def OneRowPerMac (store : SgwCacheStore) : Prop :=
  ∀ entry ∈ store.entries.values, (entry.snapshot.cableModems.map (·.mac)).Nodup

instance (store : SgwCacheStore) : Decidable store.OneRowPerMac :=
  inferInstanceAs (Decidable (∀ entry ∈ store.entries.values, _))

@[simp] theorem getEntry_empty (sgId : ServiceGroupId) : empty.getEntry sgId = none := rfl

theorem getEntry_upsertEntry (store : SgwCacheStore) (entry : SgwCacheEntryModel)
    (sgId : ServiceGroupId) : (store.upsertEntry entry).getEntry sgId =
      if sgId = entry.sgId then some entry else store.getEntry sgId :=
  OrderedDict.lookup_insert _ _ _ _

theorem getEntry_markError (store : SgwCacheStore) (sgId : ServiceGroupId) (errorMessage : String)
    (nowEpoch : ℚ) (a : ServiceGroupId) :
    (store.markError sgId errorMessage nowEpoch).2.getEntry a =
      if a = sgId then some ((store.entryOrBlank sgId).errored errorMessage nowEpoch)
      else store.getEntry a := OrderedDict.lookup_insert _ _ _ _

theorem mem_getIds {store : SgwCacheStore} {sgId : ServiceGroupId} :
    sgId ∈ store.getIds ↔ sgId ∈ store.entries.keys :=
  (List.perm_insertionSort _ store.entries.keys).mem_iff

theorem nodup_getIds (store : SgwCacheStore) : store.getIds.Nodup :=
  (List.perm_insertionSort _ store.entries.keys).nodup_iff.mpr store.entries.nodup_keys

/-- Only a listed service group has cached rows. -/
theorem mem_getIds_of_mem_cachedMacs {store : SgwCacheStore} {sgId : ServiceGroupId}
    {mac : MacAddressStr} (h : mac ∈ store.cachedMacs sgId) : sgId ∈ store.getIds := by
  rw [cachedMacs] at h
  cases hentry : store.getEntry sgId with
  | none =>
    rw [hentry] at h
    exact absurd h List.not_mem_nil
  | some entry => exact mem_getIds.mpr (OrderedDict.mem_keys_of_lookup hentry)

theorem nodup_selectedSgIds (store : SgwCacheStore) {ids : List ServiceGroupId} (h : ids.Nodup) :
    (store.selectedSgIds ids).Nodup := by
  unfold selectedSgIds
  split
  · exact h
  · exact store.nodup_getIds

theorem mem_selectedSgIds_and {store : SgwCacheStore} {ids : List ServiceGroupId}
    {sgId : ServiceGroupId} {mac : MacAddressStr} :
    sgId ∈ store.selectedSgIds ids ∧ mac ∈ store.cachedMacs sgId ↔
      (ids = [] ∨ sgId ∈ ids) ∧ mac ∈ store.cachedMacs sgId := by
  apply and_congr_left
  intro hmac
  by_cases hempty : ids = []
  · have hlisted := mem_getIds_of_mem_cachedMacs hmac
    simp [selectedSgIds, hempty, hlisted]
  · simp [selectedSgIds, hempty]

theorem OneRowPerMac.nodup_cachedMacs {store : SgwCacheStore} (h : store.OneRowPerMac)
    (sgId : ServiceGroupId) : (store.cachedMacs sgId).Nodup := by
  rw [cachedMacs]
  cases hentry : store.getEntry sgId with
  | none => exact List.nodup_nil
  | some entry =>
    have hmem := (store.entries.lookup_eq_some_iff sgId entry).mp hentry
    exact h entry (List.mem_map_of_mem hmem)

end SgwCacheStore
end PypnmCmts
