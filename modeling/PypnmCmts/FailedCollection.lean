import PypnmCmts.HeavyPoller
import PypnmCmts.RefreshIsolation
import PypnmCmts.SgwMetadata

/-! What a heavy refresh whose collection fails does to the cache. -/
namespace PypnmCmts

/-- The cached data of a snapshot. -/
def SgwSnapshotModel.payload (snapshot : SgwSnapshotModel) : SgwSnapshotPayloadModel where
  dsChSetId := snapshot.dsChSetId
  usChSetId := snapshot.usChSetId
  dsChannels := snapshot.dsChannels
  usChannels := snapshot.usChannels
  dsRfChannels := snapshot.dsRfChannels
  usRfChannels := snapshot.usRfChannels
  cableModems := snapshot.cableModems

/-- What the cache holds of the channels and modems of a service group. -/
def SgwCacheStore.cachedData (store : SgwCacheStore) (sgId : ServiceGroupId) :
    SgwSnapshotPayloadModel :=
  ((store.getEntry sgId).map fun entry => entry.snapshot.payload).getD {}

namespace SgwManager

/-- The pollers of a manager whose heavy refreshes collect by SNMP. -/
def snmpPollers (env : ServiceGroupId → SnmpEnvironment) (adapter : CmtsAdapterConfig)
    (light : ServiceGroupId → List SgwCableModemModel → Except String (List SgwCableModemModel)) :
    SgwPollers where
  heavy sgId := ((HeavyPoller.sgwHeavyPoller (env sgId) adapter sgId).run {}).1
  light := light

/-- The failures that the heavy refresh of a group meets, caught or not. -/
def metFailures (env : SnmpEnvironment) (adapter : CmtsAdapterConfig) (sgId : ServiceGroupId) :
    List CollectionFailure :=
  ((HeavyPoller.sgwHeavyPoller env adapter sgId).run {}).2.failures

/-- A failed collection of modems or topology is reported and leaves the cached data alone, and an
entry is in order only after every collection from the CMTS has succeeded. -/
structure CacheKept (before after : SgwManager × SgwRefreshResultModel) (sgId : ServiceGroupId)
    (failures : List CollectionFailure) : Prop where
  reported : (∃ f ∈ failures, f.collection? = some .modems ∨ f.collection? = some .topology) →
    (∃ message, after.2.errors = before.2.errors ++ [⟨sgId, message⟩]) ∧
    (∃ metadata, after.1.metadataOf sgId = some metadata ∧ metadata.refreshState = .error) ∧
    after.1.store.cachedData sgId = before.1.store.cachedData sgId
  fetched : ∀ metadata, after.1.metadataOf sgId = some metadata → metadata.refreshState = .ok →
    ∀ f ∈ failures, f.collection? = none

section Turn
variable {manager : SgwManager} {pollers : SgwPollers} {turn : SgwTurn} {sgId : ServiceGroupId}
  {nowEpoch : ℚ}

/-! Only a poll changes the cached data, and only one that answers. -/

theorem cachedData_ensureEntry (store : SgwCacheStore) (sgId : ServiceGroupId) (nowEpoch : ℚ) :
    (ensureEntry store sgId nowEpoch).1.snapshot.payload = store.cachedData sgId := by
  rw [SgwCacheStore.cachedData]
  cases h : store.getEntry sgId with
  | none =>
    rw [ensureEntry_of_none h]
    rfl
  | some entry =>
    rw [ensureEntry_of_some _ h]
    rfl

theorem cachedData_beginTurn (manager : SgwManager) (nowEpoch : ℚ) (sgId : ServiceGroupId) :
    (manager.beginTurn nowEpoch sgId).2.store.cachedData sgId = manager.store.cachedData sgId := by
  obtain ⟨jitter, hmanager, -⟩ := beginTurn_manager manager nowEpoch sgId
  rw [SgwCacheStore.cachedData, hmanager, getEntry_ensureEntry, if_pos rfl, Option.map_some,
    Option.getD_some, cachedData_ensureEntry]

theorem cachedData_settleTurn (manager : SgwManager) (turn : SgwTurn) (error : Option String)
    (h : manager.store.getEntry turn.sgId ≠ none) :
    (manager.settleTurn turn error).2.store.cachedData turn.sgId =
      manager.store.cachedData turn.sgId := by
  obtain ⟨entry, hentry⟩ := Option.ne_none_iff_exists'.mp h
  rw [SgwCacheStore.cachedData, getEntry_settleTurn, if_pos rfl, turnEntry,
    SgwCacheStore.cachedData, hentry]
  rfl

theorem cachedData_markError (store : SgwCacheStore) (sgId : ServiceGroupId) (message : String)
    (nowEpoch : ℚ) :
    (store.markError sgId message nowEpoch).2.cachedData sgId = store.cachedData sgId := by
  rw [SgwCacheStore.cachedData, SgwCacheStore.getEntry_markError, if_pos rfl,
    SgwCacheStore.cachedData, SgwCacheStore.entryOrBlank]
  cases store.getEntry sgId with
  | none => rfl
  | some entry => rfl

theorem metadata_of_cached {before : SgwCacheMetadataModel} {state : SgwRefreshState}
    (error : Option String) (h : manager.metadataOf turn.sgId = some before)
    (hstate : (settledMetadata manager.settings turn.nowEpoch before).2.refreshState = state) :
    ∃ metadata, (manager.settleTurn turn error).2.metadataOf turn.sgId = some metadata ∧
      metadata.refreshState = state := by
  refine ⟨_, ?_, hstate⟩
  rw [metadataOf_settleTurn error h, if_pos rfl]

/-- What is neither in error nor stale is in order. -/
theorem refreshState_settled {settings : SgwSettings} {before : SgwCacheMetadataModel}
    (hstate : before.refreshState ≠ .error)
    (hstale : (settledMetadata settings nowEpoch before).1 = false) :
    (settledMetadata settings nowEpoch before).2.refreshState = .ok := by
  unfold settledMetadata at hstale ⊢
  dsimp only at hstale ⊢
  rw [if_neg hstate] at hstale ⊢
  split at hstale
  · cases hstale
  · rename_i hyoung
    rw [if_neg hyoung]

/-- A heavy turn whose poll raises enters the error and keeps the data. -/
theorem finishTurn_of_error (manager : SgwManager) (result : SgwRefreshResultModel) {exc : String}
    (hmode : turn.refreshMode = .heavy) (hpoll : pollers.heavy turn.sgId = .error exc) :
    (∃ message, (manager.finishTurn pollers result turn).2.errors =
      result.errors ++ [⟨turn.sgId, message⟩]) ∧
    (∃ metadata, (manager.finishTurn pollers result turn).1.metadataOf turn.sgId = some metadata ∧
      metadata.refreshState = .error) ∧
    (manager.finishTurn pollers result turn).1.store.cachedData turn.sgId =
      manager.store.cachedData turn.sgId := by
  have hcase := pollTurn_case manager pollers turn
  rw [finishTurn]
  generalize manager.pollTurn pollers turn = polled at hcase ⊢
  cases hcase with
  | skipped h =>
    rw [hmode] at h
    cases h
  | light modems h hanswer =>
    rw [hmode] at h
    cases h
  | heavy payload h hanswer =>
    rw [hpoll] at hanswer
    cases hanswer
  | failed exc' h hheavy hlight =>
    have hentry := SgwCacheStore.getEntry_markError manager.store turn.sgId
      (normalizeErrorMessage exc') turn.nowEpoch turn.sgId
    rw [if_pos rfl] at hentry
    refine ⟨⟨_, rfl⟩, ?_, ?_⟩
    · apply metadata_of_cached
      · rw [metadataOf, hentry, Option.map_some]
      · rfl
    · rw [cachedData_settleTurn, cachedData_markError]
      rw [hentry]
      exact Option.some_ne_none _

/-- A heavy turn whose poll answers leaves an entry that is in order. -/
theorem finishTurn_of_ok (manager : SgwManager) (result : SgwRefreshResultModel)
    {payload : SgwSnapshotPayloadModel}
    (hmode : turn.refreshMode = .heavy) (hpoll : pollers.heavy turn.sgId = .ok payload) :
    ∃ metadata, (manager.finishTurn pollers result turn).1.metadataOf turn.sgId = some metadata ∧
      metadata.refreshState = .ok := by
  have hcase := pollTurn_case manager pollers turn
  rw [finishTurn]
  generalize manager.pollTurn pollers turn = polled at hcase ⊢
  cases hcase with
  | skipped h =>
    rw [hmode] at h
    cases h
  | light modems h hanswer =>
    rw [hmode] at h
    cases h
  | failed exc h hheavy hlight =>
    rw [hheavy hmode] at hpoll
    cases hpoll
  | heavy payload' h hanswer =>
    have hentry := getEntry_refreshHeavy manager.store turn.sgId turn.nowEpoch payload' turn.sgId
    rw [if_pos rfl] at hentry
    apply metadata_of_cached
    · rw [metadataOf, hentry, Option.map_some]
    · -- The snapshot is as old as the turn, and the maximal age is positive.
      apply refreshState_settled
      · intro herror
        cases herror
      · exact settledMetadata_of_fetched rfl

end Turn

/-- The cache is kept exactly if no collection fails or a failure strikes where nobody beneath the
poller catches it. -/
theorem cache_kept_iff (env : ServiceGroupId → SnmpEnvironment) (adapter : CmtsAdapterConfig)
    (light : ServiceGroupId → List SgwCableModemModel → Except String (List SgwCableModemModel))
    (manager : SgwManager) (result : SgwRefreshResultModel) (nowEpoch : ℚ) (sgId : ServiceGroupId)
    (hmode : (manager.beginTurn nowEpoch sgId).1.refreshMode = .heavy) :
    CacheKept (manager, result)
      (refreshGroup (snmpPollers env adapter light) nowEpoch (manager, result) sgId) sgId
      (metFailures (env sgId) adapter sgId) ↔
    (∃ f ∈ metFailures (env sgId) adapter sgId, f.raisesThrough = true) ∨
      ∀ f ∈ metFailures (env sgId) adapter sgId, f.collection? = none := by
  have hid : (manager.beginTurn nowEpoch sgId).1.sgId = sgId := by rw [beginTurn_turn]
  have hdata := cachedData_beginTurn manager nowEpoch sgId
  have hraises : (∃ exc, ((HeavyPoller.sgwHeavyPoller (env sgId) adapter sgId).run {}).1 =
      .error exc) ↔ ∃ f ∈ metFailures (env sgId) adapter sgId, f.raisesThrough = true :=
    (HeavyPoller.sgwHeavyPoller_raises adapter sgId).run_error_iff
  rw [refreshGroup]
  dsimp only
  generalize (manager.beginTurn nowEpoch sgId).1 = turn at hid hmode ⊢
  subst hid
  cases hpoll : ((HeavyPoller.sgwHeavyPoller (env turn.sgId) adapter turn.sgId).run {}).1 with
  | error exc =>
    -- the poller raises, so something was let through, and the manager keeps the data
    have hthrough := hraises.mp ⟨exc, hpoll⟩
    have hpolled : (snmpPollers env adapter light).heavy turn.sgId = .error exc := hpoll
    obtain ⟨hreported, hstate, hkept⟩ :=
      finishTurn_of_error (manager.beginTurn nowEpoch turn.sgId).2 result hmode hpolled
    refine ⟨fun _ => Or.inl hthrough, fun _ => ⟨fun _ => ⟨hreported, hstate, ?_⟩, ?_⟩⟩
    · rw [hkept, hdata]
    · intro metadata hmetadata hok
      obtain ⟨metadata', hmetadata', herror⟩ := hstate
      rw [hmetadata'] at hmetadata
      rw [← Option.some.inj hmetadata, herror] at hok
      cases hok
  | ok payload =>
    -- the poller answers, so whatever went wrong has been turned into an empty answer
    have hcaught : ¬ ∃ f ∈ metFailures (env turn.sgId) adapter turn.sgId,
        f.raisesThrough = true := by
      intro h
      obtain ⟨exc, hexc⟩ := hraises.mpr h
      rw [hpoll] at hexc
      cases hexc
    have hpolled : (snmpPollers env adapter light).heavy turn.sgId = .ok payload := hpoll
    obtain ⟨metadata, hmetadata, hok⟩ :=
      finishTurn_of_ok (manager.beginTurn nowEpoch turn.sgId).2 result hmode hpolled
    constructor
    · intro h
      exact Or.inr (h.fetched metadata hmetadata hok)
    · intro h
      have hclean := h.resolve_left hcaught
      refine ⟨?_, fun _ _ _ => hclean⟩
      rintro ⟨f, hf, hcollection⟩
      rw [hclean f hf] at hcollection
      rcases hcollection with h | h <;> cases h

/-- A CMTS whose tables are all empty, and whose answers to some requests do not come. -/
def quietEnvironment (timesOut : SnmpRequest → Bool) : SnmpEnvironment where
  insideEventLoop := false
  resolveHost _ _ := .error ⟨.valueError, "unknown host"⟩
  openClient _ _ _ _ := .ok ()
  answer _ request := if timesOut request then .error "timeout" else .ok []
  modemCommunity _ := .ok none
  getSysDescr _ _ _ _ := .error "timeout"
  parseInet value := if value = "192.0.2.1" then some value else none
  parseMac _ := none
  hexToInet _ := none
  resolveOid _ := .error ⟨.valueError, "unknown column"⟩
  snmpGetResultValue _ := .ok []
  extractLastOidIndex _ := .ok []
  getResultValue _ := .ok none

/-- A manager with a modem and a channel that a heavy refresh has fetched at epoch zero. -/
def filledManager : SgwManager :=
  (refreshGroup ⟨fun _ => .ok { dsChannels := ⟨1, [5]⟩, cableModems := [{ mac := "aa:bb" }] },
    fun _ modems => .ok modems⟩ 0 (create .default .empty [1] fun _ _ => 0, {}) 1).1

/-- An unresolved hostname reaches the manager, and the cache is kept. -/
theorem cache_kept_iff_unresolved : CacheKept (filledManager, {})
    (refreshGroup (snmpPollers (fun _ => quietEnvironment fun _ => false)
      { hostname := "cmts", community := "public" } fun _ modems => .ok modems) 1000
      (filledManager, {}) 1) 1
    (metFailures (quietEnvironment fun _ => false)
      { hostname := "cmts", community := "public" } 1) := by
  have hmode : (filledManager.beginTurn 1000 1).1.refreshMode = .heavy := by decide +kernel
  apply (cache_kept_iff _ _ _ filledManager {} 1000 1 hmode).mpr
  exact Or.inl ⟨.hostname .topology, by decide +kernel, rfl⟩

/-- A walk of the registered modems that fails erases the cached modems under an entry that is in
order. -/
theorem failed_walk_erases : (filledManager.beginTurn 1000 1).1.refreshMode = .heavy ∧
    ¬ CacheKept (filledManager, {})
      (refreshGroup (snmpPollers (fun _ => quietEnvironment fun request =>
        request = .walk "docsIf3CmtsCmRegStatusMdCmSgId")
        { hostname := "192.0.2.1", community := "public" } fun _ modems => .ok modems) 1000
        (filledManager, {}) 1) 1
      (metFailures (quietEnvironment fun request =>
        request = .walk "docsIf3CmtsCmRegStatusMdCmSgId")
        { hostname := "192.0.2.1", community := "public" } 1) := by
  refine ⟨by decide +kernel, ?_⟩
  intro h
  have hmet : CollectionFailure.request .modems (.walk "docsIf3CmtsCmRegStatusMdCmSgId") ∈
      metFailures (quietEnvironment fun request =>
        request = .walk "docsIf3CmtsCmRegStatusMdCmSgId")
        { hostname := "192.0.2.1", community := "public" } 1 := by decide +kernel
  obtain ⟨-, -, hdata⟩ := h.reported ⟨_, hmet, Or.inl rfl⟩
  revert hdata
  decide +kernel

end SgwManager
end PypnmCmts
