import Mathlib.Algebra.Order.Ring.Rat
import Mathlib.Data.Nat.Cast.Order.Ring
import PypnmCmts.SgwCacheStore

/-! `sgw/manager.py`: the serving group worker cache manager, up to one turn of its refresh
loop. The pollers and the source of jitter are answers of the environment. -/
namespace PypnmCmts

inductive CacheRefreshMode
  | none | light | heavy
deriving DecidableEq

/-- A heavy poll serves a light request as well. -/
def CacheRefreshMode.rank : CacheRefreshMode → ℕ
  | .none => 0
  | .light => 1
  | .heavy => 2

/-- Shared restart governor settings as their validator lets them through. -/
structure SgwWorkerGuardSettings where
  enabled : Bool
  rssRestartThresholdMb : ℕ
  maxConsecutiveErrorCycles : ℕ
  minRestartIntervalSeconds : ℕ
  maxRestartsPerHour : ℕ
  restarts_pos : 0 < maxRestartsPerHour

def SgwWorkerGuardSettings.default : SgwWorkerGuardSettings where
  enabled := true
  rssRestartThresholdMb := 1536
  maxConsecutiveErrorCycles := 3
  minRestartIntervalSeconds := 300
  maxRestartsPerHour := 6
  restarts_pos := by decide

/-- Serving group worker settings as their validator lets them through. -/
structure SgwSettings where
  enabled : Bool := true
  pollHeavySeconds : ℕ
  pollLightSeconds : ℕ
  refreshJitterSeconds : ℕ
  cacheMaxAgeSeconds : ℕ
  guard : SgwWorkerGuardSettings := .default
  light_pos : 0 < pollLightSeconds
  light_le_heavy : pollLightSeconds ≤ pollHeavySeconds
  jitter_le_light : refreshJitterSeconds ≤ pollLightSeconds
  light_le_maxAge : pollLightSeconds ≤ cacheMaxAgeSeconds

/-- The defaults of the settings pass the settings' own checks. -/
def SgwSettings.default : SgwSettings where
  pollHeavySeconds := 900
  pollLightSeconds := 300
  refreshJitterSeconds := 30
  cacheMaxAgeSeconds := 1200
  light_pos := by decide
  light_le_heavy := by decide
  jitter_le_light := by decide
  light_le_maxAge := by decide

structure SgwRefreshCounts where
  heavy : ℕ := 0
  light : ℕ := 0
deriving DecidableEq

structure SgwRefreshErrorModel where
  sgId : ServiceGroupId
  message : String := ""
deriving DecidableEq

structure SgwRefreshResultModel where
  snapshotTimeEpoch : ℚ := 0
  heavyRefreshedSgIds : List ServiceGroupId := []
  lightRefreshedSgIds : List ServiceGroupId := []
  staleSgIds : List ServiceGroupId := []
  errors : List SgwRefreshErrorModel := []
deriving DecidableEq

/-- What the pollers answer. An error is the text of what they raise. -/
structure SgwPollers where
  heavy : ServiceGroupId → Except String SgwSnapshotPayloadModel
  light : ServiceGroupId → List SgwCableModemModel → Except String (List SgwCableModemModel)

structure SgwManager where
  settings : SgwSettings
  store : SgwCacheStore := .empty
  serviceGroups : List ServiceGroupId := []
  jitterProvider : ServiceGroupId → ℕ → ℤ
  jitterBySg : OrderedDict ServiceGroupId ℕ := .empty
  refreshRequests : OrderedDict ServiceGroupId CacheRefreshMode := .empty
  refreshCounts : OrderedDict ServiceGroupId SgwRefreshCounts := .empty

/-- What one pass of the refresh loop's body knows of its service group once it has chosen what
to do. -/
structure SgwTurn where
  sgId : ServiceGroupId
  nowEpoch : ℚ
  entry : SgwCacheEntryModel
  refreshMode : CacheRefreshMode
  sgId_entry : entry.sgId = sgId
deriving DecidableEq

namespace SgwManager

def clampJitter (jitterValue : ℤ) (maxJitter : ℕ) : ℕ :=
  if jitterValue < 0 then 0 else if maxJitter < jitterValue then maxJitter else jitterValue.toNat

def resolveJitterSeconds (manager : SgwManager) (sgId : ServiceGroupId) : ℕ × SgwManager :=
  match manager.jitterBySg.lookup sgId with
  | some cached => (cached, manager)
  | none =>
    let maxJitter := manager.settings.refreshJitterSeconds
    -- without jitter the provider is not asked
    let jitterValue := if maxJitter = 0 then 0
      else clampJitter (manager.jitterProvider sgId maxJitter) maxJitter
    (jitterValue, { manager with jitterBySg := manager.jitterBySg.insert sgId jitterValue })

def initializeJitter (manager : SgwManager) (serviceGroups : List ServiceGroupId) : SgwManager :=
  serviceGroups.foldl (fun m sgId => (m.resolveJitterSeconds sgId).2)
    { manager with jitterBySg := .empty }

def initializeWorkerState (manager : SgwManager) (serviceGroups : List ServiceGroupId) :
    SgwManager :=
  let refreshCounts : OrderedDict ServiceGroupId SgwRefreshCounts := serviceGroups.foldl
    (fun d sgId => d.insert sgId ((manager.refreshCounts.lookup sgId).getD {})) .empty
  { manager with refreshCounts }

/-- Update the service groups managed by this instance. -/
def setServiceGroups (manager : SgwManager) (serviceGroups : List ServiceGroupId) : SgwManager :=
  (({ manager with serviceGroups }).initializeJitter serviceGroups).initializeWorkerState
    serviceGroups

/-- The constructor. -/
def create (settings : SgwSettings) (store : SgwCacheStore) (serviceGroups : List ServiceGroupId)
    (jitterProvider : ServiceGroupId → ℕ → ℤ) : SgwManager :=
  ({ settings, store, jitterProvider } : SgwManager).setServiceGroups serviceGroups

/-- Build a fresh manager instance that preserves runtime dependencies. -/
def cloneForRestart (manager : SgwManager) (store : Option SgwCacheStore) : SgwManager :=
  create manager.settings (store.getD manager.store) manager.serviceGroups manager.jitterProvider

def heavyRefreshRateLimited (manager : SgwManager) (sgId : ServiceGroupId) (nowEpoch : ℚ) : Bool :=
  match manager.store.getEntry sgId with
  | none => false
  | some entry =>
    match entry.metadata.lastHeavyRefreshEpoch with
    | none => false
    | some lastHeavy => nowEpoch-lastHeavy < manager.settings.pollHeavySeconds

/-- Request an on-demand refresh for a service group. -/
def requestRefresh (manager : SgwManager) (sgId : ServiceGroupId) (mode : CacheRefreshMode)
    (nowEpoch : ℚ) : (Bool × String) × SgwManager :=
  if mode = .none then ((false, ""), manager)
  else if sgId ∉ manager.serviceGroups then ((false, "sg_id not managed by sgw"), manager)
  else if mode = .heavy ∧ manager.heavyRefreshRateLimited sgId nowEpoch then
    ((false, "heavy refresh rate limited"), manager)
  else
    let current := manager.refreshRequests.lookup sgId
    -- a pending heavy request is not weakened, and a light one joins it
    if current = some .heavy then ((true, ""), manager)
    else if mode = .heavy ∨ current = none then
      ((true, ""), { manager with refreshRequests := manager.refreshRequests.insert sgId mode })
    else ((true, ""), manager)

def isRefreshDue (lastRefreshEpoch : Option ℚ) (intervalSeconds jitterSeconds : ℕ)
    (nowEpoch : ℚ) : Bool :=
  match lastRefreshEpoch with
  | none => true
  | some last => ((intervalSeconds+jitterSeconds : ℕ) : ℚ) ≤ nowEpoch-last

/-- The entry that a group's first turn creates. -/
def newEntry (sgId : ServiceGroupId) (nowEpoch : ℚ) : SgwCacheEntryModel :=
  { sgId, snapshot := { sgId, metadata := { snapshotTimeEpoch := nowEpoch, ageSeconds := 0 } } }

def ensureEntry (store : SgwCacheStore) (sgId : ServiceGroupId) (nowEpoch : ℚ) :
    SgwCacheEntryModel × SgwCacheStore :=
  match store.getEntry sgId with
  | some entry => (entry, store)
  | none => (newEntry sgId nowEpoch, store.upsertEntry (newEntry sgId nowEpoch))

theorem ensureEntry_of_some {store : SgwCacheStore} {entry : SgwCacheEntryModel}
    {sgId : ServiceGroupId} (nowEpoch : ℚ) (h : store.getEntry sgId = some entry) :
    ensureEntry store sgId nowEpoch = (entry, store) := by
  rw [ensureEntry, h]

theorem ensureEntry_of_none {store : SgwCacheStore} {sgId : ServiceGroupId} {nowEpoch : ℚ}
    (h : store.getEntry sgId = none) :
    ensureEntry store sgId nowEpoch =
      (newEntry sgId nowEpoch, store.upsertEntry (newEntry sgId nowEpoch)) := by
  rw [ensureEntry, h]

theorem sgId_ensureEntry (store : SgwCacheStore) (sgId : ServiceGroupId) (nowEpoch : ℚ) :
    (ensureEntry store sgId nowEpoch).1.sgId = sgId := by
  cases h : store.getEntry sgId with
  | none => rw [ensureEntry_of_none h, newEntry]
  | some entry => rw [ensureEntry_of_some _ h, SgwCacheStore.sgId_of_getEntry h]

def heavyRefreshed (entry : SgwCacheEntryModel) (nowEpoch : ℚ)
    (payload : SgwSnapshotPayloadModel) : SgwCacheEntryModel :=
  { entry with snapshot := { entry.snapshot with
      dsChSetId := payload.dsChSetId, usChSetId := payload.usChSetId,
      dsChannels := payload.dsChannels, usChannels := payload.usChannels,
      dsRfChannels := payload.dsRfChannels, usRfChannels := payload.usRfChannels,
      cableModems := payload.cableModems,
      metadata := { entry.metadata with
        snapshotTimeEpoch := nowEpoch, ageSeconds := 0, lastHeavyRefreshEpoch := some nowEpoch,
        lastLightRefreshEpoch := some nowEpoch, refreshState := .ok, lastError := none } } }

def lightRefreshed (entry : SgwCacheEntryModel) (nowEpoch : ℚ)
    (cableModems : List SgwCableModemModel) : SgwCacheEntryModel :=
  { entry with snapshot := { entry.snapshot with
      cableModems
      metadata := { entry.metadata with
        snapshotTimeEpoch := nowEpoch, ageSeconds := 0, lastLightRefreshEpoch := some nowEpoch,
        refreshState := .ok, lastError := none } } }

def refreshHeavy (store : SgwCacheStore) (sgId : ServiceGroupId) (nowEpoch : ℚ)
    (payload : SgwSnapshotPayloadModel) : SgwCacheStore :=
  let (entry, store) := ensureEntry store sgId nowEpoch
  store.upsertEntry (heavyRefreshed entry nowEpoch payload)

def refreshLight (store : SgwCacheStore) (sgId : ServiceGroupId) (nowEpoch : ℚ)
    (cableModems : List SgwCableModemModel) : SgwCacheStore :=
  let (entry, store) := ensureEntry store sgId nowEpoch
  store.upsertEntry (lightRefreshed entry nowEpoch cableModems)

/-- The rows that exist, each replaced by the last update for its address. -/
def mergeLightUpdates (existingModems updatedModems : List SgwCableModemModel) :
    List SgwCableModemModel :=
  -- a light poll without rows leaves the rows as they are
  if updatedModems = [] then existingModems
  else
    let updatedByMac : OrderedDict MacAddressStr SgwCableModemModel :=
      updatedModems.foldl (fun d modem => d.insert modem.mac modem) .empty
    existingModems.map fun modem => (updatedByMac.lookup modem.mac).getD modem

/-- What to do for a group: a pending request decides, otherwise the intervals do. -/
def chooseMode (settings : SgwSettings) (metadata : SgwCacheMetadataModel) (jitterSeconds : ℕ)
    (requested : Option CacheRefreshMode) (nowEpoch : ℚ) : CacheRefreshMode :=
  if requested = some .heavy then .heavy
  else if requested = some .light then .light
  else if isRefreshDue metadata.lastHeavyRefreshEpoch settings.pollHeavySeconds jitterSeconds
      nowEpoch then .heavy
  else if isRefreshDue metadata.lastLightRefreshEpoch settings.pollLightSeconds jitterSeconds
      nowEpoch then .light
  else .none

/-- A turn up to the poll: the entry exists, the pending request is taken. -/
def beginTurn (manager : SgwManager) (nowEpoch : ℚ) (sgId : ServiceGroupId) :
    SgwTurn × SgwManager :=
  let ensured := ensureEntry manager.store sgId nowEpoch
  have sgId_entry := sgId_ensureEntry manager.store sgId nowEpoch
  let (jitterSeconds, manager) := ({ manager with store := ensured.2 }).resolveJitterSeconds sgId
  let requested := manager.refreshRequests.lookup sgId
  let manager := { manager with refreshRequests := manager.refreshRequests.erase sgId }
  let refreshMode := chooseMode manager.settings ensured.1.metadata jitterSeconds requested nowEpoch
  ({ sgId, nowEpoch, entry := ensured.1, refreshMode, sgId_entry }, manager)

/-- The poll of a turn and what it writes. A poller that raises leaves its normalized text. -/
def pollTurn (manager : SgwManager) (pollers : SgwPollers) (turn : SgwTurn) :
    Option String × SgwManager :=
  match turn.refreshMode with
  | .none => (none, manager)
  | .heavy =>
    match pollers.heavy turn.sgId with
    | .ok payload =>
      (none, { manager with
        store := refreshHeavy manager.store turn.sgId turn.nowEpoch payload })
    | .error exc => raised exc
  | .light =>
    match pollers.light turn.sgId turn.entry.snapshot.cableModems with
    | .ok updatedModems =>
      let mergedModems := mergeLightUpdates turn.entry.snapshot.cableModems updatedModems
      (none, { manager with
        store := refreshLight manager.store turn.sgId turn.nowEpoch mergedModems })
    | .error exc => raised exc
where
  raised (exc : String) : Option String × SgwManager :=
    let errorMessage := normalizeErrorMessage exc
    (some errorMessage, { manager with
      store := (manager.store.markError turn.sgId errorMessage turn.nowEpoch).2 })

def incrementRefreshCounts (manager : SgwManager) (sgId : ServiceGroupId)
    (refreshMode : CacheRefreshMode) : SgwManager :=
  let counts := (manager.refreshCounts.lookup sgId).getD {}
  match refreshMode with
  | .none => manager
  | .heavy => { manager with refreshCounts :=
      manager.refreshCounts.insert sgId { heavy := counts.heavy+1, light := counts.light+1 } }
  | .light => { manager with refreshCounts :=
      manager.refreshCounts.insert sgId { counts with light := counts.light+1 } }

/-- The metadata that a turn leaves, and whether the group is stale. -/
def settledMetadata (settings : SgwSettings) (nowEpoch : ℚ) (metadata : SgwCacheMetadataModel) :
    Bool × SgwCacheMetadataModel :=
  let ageSeconds := max 0 (nowEpoch-metadata.snapshotTimeEpoch)
  -- an error is not covered up by staleness
  if metadata.refreshState = .error then (false, { metadata with ageSeconds })
  else if SgwCacheStore.computeStaleness ageSeconds settings.cacheMaxAgeSeconds then
    (true, { metadata with ageSeconds, refreshState := .stale })
  else (false, { metadata with ageSeconds, refreshState := .ok })

/-- The entry that the end of a turn evaluates. -/
def turnEntry (manager : SgwManager) (turn : SgwTurn) : SgwCacheEntryModel :=
  (manager.store.getEntry turn.sgId).getD turn.entry

theorem sgId_turnEntry (manager : SgwManager) (turn : SgwTurn) :
    (manager.turnEntry turn).sgId = turn.sgId := by
  rw [turnEntry]
  cases hentry : manager.store.getEntry turn.sgId with
  | none => exact turn.sgId_entry
  | some entry => exact SgwCacheStore.sgId_of_getEntry hentry

/-- The end of a turn: age and staleness are evaluated and the poll is counted. -/
def settleTurn (manager : SgwManager) (turn : SgwTurn) (error : Option String) :
    Bool × SgwManager :=
  let entry := manager.turnEntry turn
  let (stale, metadata) := settledMetadata manager.settings turn.nowEpoch entry.metadata
  let manager := { manager with store := manager.store.upsertEntry (entry.withMetadata metadata) }
  -- a poll that raises a blank text has neither applied nor left a message: it is not counted
  (stale, if error = some "" then manager
    else manager.incrementRefreshCounts turn.sgId turn.refreshMode)

def turnErrors (turn : SgwTurn) (error : Option String) : List SgwRefreshErrorModel :=
  error.toList.map fun message => ⟨turn.sgId, normalizeErrorMessage message⟩

/-- Enter a turn into the lists of the cycle's result. -/
def reportTurn (result : SgwRefreshResultModel) (turn : SgwTurn) (error : Option String)
    (stale : Bool) : SgwRefreshResultModel where
  snapshotTimeEpoch := result.snapshotTimeEpoch
  heavyRefreshedSgIds := result.heavyRefreshedSgIds ++
    if turn.refreshMode = .heavy ∧ error = none then [turn.sgId] else []
  lightRefreshedSgIds := result.lightRefreshedSgIds ++
    if turn.refreshMode ≠ .none ∧ error = none then [turn.sgId] else []
  staleSgIds := result.staleSgIds ++ if stale then [turn.sgId] else []
  errors := result.errors ++ turnErrors turn error

/-- A turn from the poll on. -/
def finishTurn (manager : SgwManager) (pollers : SgwPollers) (result : SgwRefreshResultModel)
    (turn : SgwTurn) : SgwManager × SgwRefreshResultModel :=
  let polled := manager.pollTurn pollers turn
  let settled := polled.2.settleTurn turn polled.1
  (settled.2, reportTurn result turn polled.1 settled.1)

/-- One pass of the loop over the service groups. -/
def refreshGroup (pollers : SgwPollers) (nowEpoch : ℚ)
    (s : SgwManager × SgwRefreshResultModel) (sgId : ServiceGroupId) :
    SgwManager × SgwRefreshResultModel :=
  let begun := s.1.beginTurn nowEpoch sgId
  begun.2.finishTurn pollers s.2 begun.1

/-- Execute a single refresh cycle. -/
def refreshOnce (manager : SgwManager) (nowEpoch : ℚ) (pollers : SgwPollers) :
    Except String (SgwRefreshResultModel × SgwManager) :=
  if nowEpoch < 0 then .error "now_epoch must be non-negative."
  else if manager.settings.enabled = false then
    .ok ({ snapshotTimeEpoch := nowEpoch }, manager)
  else
    let (manager, result) := manager.serviceGroups.foldl (refreshGroup pollers nowEpoch)
      (manager, { snapshotTimeEpoch := nowEpoch })
    .ok (result, manager)

section Rules
variable {manager : SgwManager} {store : SgwCacheStore} {entry : SgwCacheEntryModel}
  {sgId : ServiceGroupId} {nowEpoch : ℚ}

theorem getEntry_ensureEntry (store : SgwCacheStore) (sgId : ServiceGroupId) (nowEpoch : ℚ)
    (a : ServiceGroupId) : (ensureEntry store sgId nowEpoch).2.getEntry a =
      if a = sgId then some (ensureEntry store sgId nowEpoch).1 else store.getEntry a := by
  cases h : store.getEntry sgId with
  | none =>
    rw [ensureEntry_of_none h]
    exact SgwCacheStore.getEntry_upsertEntry _ _ _
  | some entry =>
    rw [ensureEntry_of_some _ h]
    by_cases ha : a = sgId
    · rw [if_pos ha, ha, h]
    · rw [if_neg ha]

theorem ensureEntry_congr {store' : SgwCacheStore} (nowEpoch : ℚ)
    (h : store.getEntry sgId = store'.getEntry sgId) :
    (ensureEntry store sgId nowEpoch).1 = (ensureEntry store' sgId nowEpoch).1 := by
  unfold ensureEntry
  rw [h]
  cases store'.getEntry sgId with
  | none => rfl
  | some entry => rfl

theorem getEntry_refreshHeavy (store : SgwCacheStore) (sgId : ServiceGroupId) (nowEpoch : ℚ)
    (payload : SgwSnapshotPayloadModel) (a : ServiceGroupId) :
    (refreshHeavy store sgId nowEpoch payload).getEntry a = if a = sgId then
      some (heavyRefreshed (ensureEntry store sgId nowEpoch).1 nowEpoch payload)
      else store.getEntry a := by
  have hid : (heavyRefreshed (ensureEntry store sgId nowEpoch).1 nowEpoch payload).sgId = sgId :=
    sgId_ensureEntry store sgId nowEpoch
  rw [refreshHeavy, SgwCacheStore.getEntry_upsertEntry, hid, getEntry_ensureEntry]
  by_cases ha : a = sgId
  · rw [if_pos ha, if_pos ha]
  · rw [if_neg ha, if_neg ha, if_neg ha]

theorem getEntry_refreshLight (store : SgwCacheStore) (sgId : ServiceGroupId) (nowEpoch : ℚ)
    (cableModems : List SgwCableModemModel) (a : ServiceGroupId) :
    (refreshLight store sgId nowEpoch cableModems).getEntry a = if a = sgId then
      some (lightRefreshed (ensureEntry store sgId nowEpoch).1 nowEpoch cableModems)
      else store.getEntry a := by
  have hid : (lightRefreshed (ensureEntry store sgId nowEpoch).1 nowEpoch cableModems).sgId =
      sgId := sgId_ensureEntry store sgId nowEpoch
  rw [refreshLight, SgwCacheStore.getEntry_upsertEntry, hid, getEntry_ensureEntry]
  by_cases ha : a = sgId
  · rw [if_pos ha, if_pos ha]
  · rw [if_neg ha, if_neg ha, if_neg ha]

/-- The jitter of a group, drawn now if it has none yet. -/
def jitterSeconds (manager : SgwManager) (sgId : ServiceGroupId) : ℕ :=
  (manager.resolveJitterSeconds sgId).1

theorem resolveJitterSeconds_spec (manager : SgwManager) (sgId : ServiceGroupId) :
    ∃ jitterBySg, (manager.resolveJitterSeconds sgId).2 = { manager with jitterBySg } ∧
      ∀ a, jitterBySg.lookup a =
        if a = sgId then some (manager.jitterSeconds sgId) else manager.jitterBySg.lookup a := by
  unfold jitterSeconds resolveJitterSeconds
  cases h : manager.jitterBySg.lookup sgId with
  | none => exact ⟨_, rfl, OrderedDict.lookup_insert _ _ _⟩
  | some cached =>
    refine ⟨_, rfl, ?_⟩
    intro a
    by_cases ha : a = sgId
    · rw [if_pos ha, ha, h]
    · rw [if_neg ha]

theorem initializeJitter_spec (manager : SgwManager) (serviceGroups : List ServiceGroupId) :
    ∃ jitterBySg, manager.initializeJitter serviceGroups = { manager with jitterBySg } := by
  have hfold (m : SgwManager) : ∃ jitterBySg, serviceGroups.foldl
      (fun m sgId => (m.resolveJitterSeconds sgId).2) m = { m with jitterBySg } := by
    induction serviceGroups generalizing m with
    | nil => exact ⟨m.jitterBySg, rfl⟩
    | cons sgId serviceGroups ih =>
      obtain ⟨drawn, hdrawn, -⟩ := resolveJitterSeconds_spec m sgId
      obtain ⟨d, hd⟩ := ih (m.resolveJitterSeconds sgId).2
      refine ⟨d, ?_⟩
      rw [List.foldl_cons, hd, hdrawn]
  obtain ⟨d, hd⟩ := hfold { manager with jitterBySg := .empty }
  exact ⟨d, hd⟩

theorem setServiceGroups_spec (manager : SgwManager) (serviceGroups : List ServiceGroupId) :
    ∃ jitterBySg refreshCounts, manager.setServiceGroups serviceGroups =
      { manager with serviceGroups, jitterBySg, refreshCounts } := by
  obtain ⟨d, hd⟩ := initializeJitter_spec { manager with serviceGroups } serviceGroups
  rw [setServiceGroups, hd]
  exact ⟨d, _, rfl⟩

theorem create_spec (settings : SgwSettings) (store : SgwCacheStore)
    (serviceGroups : List ServiceGroupId) (jitterProvider : ServiceGroupId → ℕ → ℤ) :
    ∃ jitterBySg refreshCounts, create settings store serviceGroups jitterProvider =
      { settings, store, serviceGroups, jitterProvider, jitterBySg, refreshCounts } :=
  setServiceGroups_spec _ _

/-- The jitter of a group depends on the group's own draw only. -/
theorem jitterSeconds_congr {manager' : SgwManager}
    (hsettings : manager.settings = manager'.settings)
    (hprovider : manager.jitterProvider sgId = manager'.jitterProvider sgId)
    (hcached : manager.jitterBySg.lookup sgId = manager'.jitterBySg.lookup sgId) :
    manager.jitterSeconds sgId = manager'.jitterSeconds sgId := by
  unfold jitterSeconds resolveJitterSeconds
  rw [hsettings, hprovider, hcached]
  cases manager'.jitterBySg.lookup sgId with
  | none => rfl
  | some cached => rfl

/-- A turn begins with what the group's entry, request and jitter say. -/
theorem beginTurn_turn (manager : SgwManager) (nowEpoch : ℚ) (sgId : ServiceGroupId) :
    (manager.beginTurn nowEpoch sgId).1 =
      { sgId, nowEpoch, entry := (ensureEntry manager.store sgId nowEpoch).1
        refreshMode := chooseMode manager.settings
          (ensureEntry manager.store sgId nowEpoch).1.metadata (manager.jitterSeconds sgId)
          (manager.refreshRequests.lookup sgId) nowEpoch
        sgId_entry := sgId_ensureEntry manager.store sgId nowEpoch } := by
  obtain ⟨d, hd, -⟩ := resolveJitterSeconds_spec
    { manager with store := (ensureEntry manager.store sgId nowEpoch).2 } sgId
  have hjitter : ({ manager with store := (ensureEntry manager.store sgId nowEpoch).2 } :
      SgwManager).jitterSeconds sgId = manager.jitterSeconds sgId := jitterSeconds_congr rfl rfl rfl
  simp only [beginTurn, hd, ← hjitter]
  rfl

theorem beginTurn_manager (manager : SgwManager) (nowEpoch : ℚ) (sgId : ServiceGroupId) :
    ∃ jitterBySg, (manager.beginTurn nowEpoch sgId).2 =
        { manager with store := (ensureEntry manager.store sgId nowEpoch).2, jitterBySg,
                       refreshRequests := manager.refreshRequests.erase sgId } ∧
      ∀ a, jitterBySg.lookup a =
        if a = sgId then some (manager.jitterSeconds sgId) else manager.jitterBySg.lookup a := by
  obtain ⟨d, hd, hlookup⟩ := resolveJitterSeconds_spec
    { manager with store := (ensureEntry manager.store sgId nowEpoch).2 } sgId
  have hjitter : ({ manager with store := (ensureEntry manager.store sgId nowEpoch).2 } :
      SgwManager).jitterSeconds sgId = manager.jitterSeconds sgId := jitterSeconds_congr rfl rfl rfl
  rw [hjitter] at hlookup
  refine ⟨d, ?_, hlookup⟩
  simp only [beginTurn, hd]

/-- The four ways in which the poll of a turn can go. -/
inductive PollCase (manager : SgwManager) (pollers : SgwPollers) (turn : SgwTurn) :
    Option String × SgwManager → Prop
  | skipped (hmode : turn.refreshMode = .none) : PollCase manager pollers turn (none, manager)
  | heavy (payload : SgwSnapshotPayloadModel) (hmode : turn.refreshMode = .heavy)
      (hanswer : pollers.heavy turn.sgId = .ok payload) :
      PollCase manager pollers turn (none, { manager with
        store := refreshHeavy manager.store turn.sgId turn.nowEpoch payload })
  | light (modems : List SgwCableModemModel) (hmode : turn.refreshMode = .light)
      (hanswer : pollers.light turn.sgId turn.entry.snapshot.cableModems = .ok modems) :
      PollCase manager pollers turn (none, { manager with
        store := refreshLight manager.store turn.sgId turn.nowEpoch
          (mergeLightUpdates turn.entry.snapshot.cableModems modems) })
  | failed (exc : String) (hmode : turn.refreshMode ≠ .none)
      (hheavy : turn.refreshMode = .heavy → pollers.heavy turn.sgId = .error exc)
      (hlight : turn.refreshMode = .light →
        pollers.light turn.sgId turn.entry.snapshot.cableModems = .error exc) :
      PollCase manager pollers turn (some (normalizeErrorMessage exc), { manager with
        store := (manager.store.markError turn.sgId (normalizeErrorMessage exc)
          turn.nowEpoch).2 })

theorem pollTurn_case (manager : SgwManager) (pollers : SgwPollers) (turn : SgwTurn) :
    PollCase manager pollers turn (manager.pollTurn pollers turn) := by
  rw [pollTurn]
  cases hmode : turn.refreshMode with
  | none => exact .skipped hmode
  | heavy =>
    cases hanswer : pollers.heavy turn.sgId with
    | ok payload => exact .heavy payload hmode hanswer
    | error exc =>
      refine .failed exc (by rw [hmode]; decide) (fun _ => hanswer) ?_
      intro hlight
      rw [hmode] at hlight
      cases hlight
  | light =>
    cases hanswer : pollers.light turn.sgId turn.entry.snapshot.cableModems with
    | ok modems => exact .light modems hmode hanswer
    | error exc =>
      refine .failed exc (by rw [hmode]; decide) ?_ fun _ => hanswer
      intro hheavy
      rw [hmode] at hheavy
      cases hheavy

/-- Data that has just been fetched is not stale, since the maximal age is positive. -/
theorem settledMetadata_of_fetched {settings : SgwSettings} {metadata : SgwCacheMetadataModel}
    (h : metadata.snapshotTimeEpoch = nowEpoch) :
    (settledMetadata settings nowEpoch metadata).1 = false := by
  have hpos : (0 : ℚ) < settings.cacheMaxAgeSeconds :=
    Nat.cast_pos.mpr (settings.light_pos.trans_le settings.light_le_maxAge)
  unfold settledMetadata
  simp only [h, sub_self, max_self, SgwCacheStore.computeStaleness]
  by_cases herror : metadata.refreshState = .error
  · rw [if_pos herror]
  · rw [if_neg herror, if_neg]
    rw [decide_eq_true_eq]
    exact not_le.mpr hpos

theorem settledMetadata_of_error {settings : SgwSettings} {metadata : SgwCacheMetadataModel}
    (h : metadata.refreshState = .error) :
    (settledMetadata settings nowEpoch metadata).1 = false := by
  rw [settledMetadata, if_pos h]

@[simp] theorem settleTurn_stale (manager : SgwManager) (turn : SgwTurn) (error : Option String) :
    (manager.settleTurn turn error).1 = (settledMetadata manager.settings turn.nowEpoch
      (manager.turnEntry turn).metadata).1 := rfl

/-- The metadata of a turn's entry at the end of the turn. -/
def turnMetadata (manager : SgwManager) (turn : SgwTurn) : SgwCacheMetadataModel :=
  (settledMetadata manager.settings turn.nowEpoch (manager.turnEntry turn).metadata).2

theorem settleTurn_manager (manager : SgwManager) (turn : SgwTurn) (error : Option String) :
    ∃ refreshCounts, (manager.settleTurn turn error).2 = { manager with
      store := manager.store.upsertEntry
        ((manager.turnEntry turn).withMetadata (manager.turnMetadata turn))
      refreshCounts } := by
  simp only [settleTurn, incrementRefreshCounts]
  by_cases herror : error = some ""
  · rw [if_pos herror]
    exact ⟨_, rfl⟩
  · rw [if_neg herror]
    cases turn.refreshMode with
    | none => exact ⟨_, rfl⟩
    | heavy => exact ⟨_, rfl⟩
    | light => exact ⟨_, rfl⟩

theorem getEntry_settleTurn (manager : SgwManager) (turn : SgwTurn) (error : Option String)
    (a : ServiceGroupId) : (manager.settleTurn turn error).2.store.getEntry a =
      if a = turn.sgId then
        some ((manager.turnEntry turn).withMetadata (manager.turnMetadata turn))
      else manager.store.getEntry a := by
  obtain ⟨counts, hmanager⟩ := settleTurn_manager manager turn error
  rw [hmanager, SgwCacheStore.getEntry_upsertEntry, SgwCacheEntryModel.sgId_withMetadata,
    sgId_turnEntry]

end Rules
end SgwManager
end PypnmCmts
