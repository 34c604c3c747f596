import PypnmCmts.SgwWorld

/-! What the steps of the cache manager do to the metadata of the entries and to the pending
requests. -/
namespace PypnmCmts.SgwManager

def metadataOf (manager : SgwManager) (sgId : ServiceGroupId) : Option SgwCacheMetadataModel :=
  (manager.store.getEntry sgId).map SgwCacheEntryModel.metadata

/-- The metadata of an entry that a turn creates. -/
def newMetadata (nowEpoch : ℚ) : SgwCacheMetadataModel :=
  { snapshotTimeEpoch := nowEpoch, ageSeconds := 0 }

/-- What the poll of a turn can do to the metadata. -/
inductive PolledMetadata (pollers : SgwPollers) (turn : SgwTurn) (before : SgwCacheMetadataModel) :
    Option String → SgwCacheMetadataModel → Prop
  | skipped (hmode : turn.refreshMode = .none) : PolledMetadata pollers turn before none before
  | heavy (payload : SgwSnapshotPayloadModel) (hmode : turn.refreshMode = .heavy)
      (hanswer : pollers.heavy turn.sgId = .ok payload) :
      PolledMetadata pollers turn before none { before with
        snapshotTimeEpoch := turn.nowEpoch, ageSeconds := 0
        lastHeavyRefreshEpoch := some turn.nowEpoch, lastLightRefreshEpoch := some turn.nowEpoch
        refreshState := .ok, lastError := none }
  | light (modems : List SgwCableModemModel) (hmode : turn.refreshMode = .light)
      (hanswer : pollers.light turn.sgId turn.entry.snapshot.cableModems = .ok modems) :
      PolledMetadata pollers turn before none { before with
        snapshotTimeEpoch := turn.nowEpoch, ageSeconds := 0
        lastLightRefreshEpoch := some turn.nowEpoch, refreshState := .ok, lastError := none }
  | failed (exc : String) (hmode : turn.refreshMode ≠ .none)
      (hheavy : turn.refreshMode = .heavy → pollers.heavy turn.sgId = .error exc)
      (hlight : turn.refreshMode = .light →
        pollers.light turn.sgId turn.entry.snapshot.cableModems = .error exc) :
      PolledMetadata pollers turn before (some (normalizeErrorMessage exc)) { before with
        snapshotTimeEpoch := turn.nowEpoch, ageSeconds := 0, refreshState := .error
        lastError := some (normalizeErrorMessage (normalizeErrorMessage exc)) }

section Metadata
variable {manager : SgwManager} {pollers : SgwPollers} {turn : SgwTurn}
  {before : SgwCacheMetadataModel} {sgId a : ServiceGroupId} {nowEpoch : ℚ}

theorem metadata_ensureEntry (manager : SgwManager) (sgId : ServiceGroupId) (nowEpoch : ℚ) :
    (ensureEntry manager.store sgId nowEpoch).1.metadata =
      (manager.metadataOf sgId).getD (newMetadata nowEpoch) := by
  rw [metadataOf]
  cases h : manager.store.getEntry sgId with
  | none =>
    rw [ensureEntry_of_none h]
    rfl
  | some entry =>
    rw [ensureEntry_of_some _ h]
    rfl

theorem metadataOf_beginTurn (manager : SgwManager) (nowEpoch : ℚ) (sgId a : ServiceGroupId) :
    (manager.beginTurn nowEpoch sgId).2.metadataOf a =
      if a = sgId then some ((manager.metadataOf sgId).getD (newMetadata nowEpoch))
      else manager.metadataOf a := by
  obtain ⟨jitter, hmanager, -⟩ := beginTurn_manager manager nowEpoch sgId
  rw [metadataOf, hmanager, getEntry_ensureEntry]
  by_cases ha : a = sgId
  · rw [if_pos ha, if_pos ha, Option.map_some, metadata_ensureEntry]
  · rw [if_neg ha, if_neg ha, metadataOf]

/-- What a turn chooses. -/
theorem refreshMode_beginTurn (manager : SgwManager) (nowEpoch : ℚ) (sgId : ServiceGroupId) :
    (manager.beginTurn nowEpoch sgId).1.refreshMode = chooseMode manager.settings
      ((manager.metadataOf sgId).getD (newMetadata nowEpoch)) (manager.jitterSeconds sgId)
      (manager.refreshRequests.lookup sgId) nowEpoch := by
  rw [beginTurn_turn, ← metadata_ensureEntry]

theorem metadataOf_pollTurn_of_ne (ha : a ≠ turn.sgId) :
    (manager.pollTurn pollers turn).2.metadataOf a = manager.metadataOf a := by
  have hcase := pollTurn_case manager pollers turn
  generalize manager.pollTurn pollers turn = polled at hcase ⊢
  cases hcase with
  | skipped hmode => rfl
  | heavy payload hmode hanswer => rw [metadataOf, getEntry_refreshHeavy, if_neg ha, metadataOf]
  | light modems hmode hanswer => rw [metadataOf, getEntry_refreshLight, if_neg ha, metadataOf]
  | failed exc hmode hheavy hlight =>
    rw [metadataOf, SgwCacheStore.getEntry_markError, if_neg ha, metadataOf]

theorem metadataOf_pollTurn (pollers : SgwPollers)
    (h : manager.metadataOf turn.sgId = some before) :
    ∃ after, (manager.pollTurn pollers turn).2.metadataOf turn.sgId = some after ∧
      PolledMetadata pollers turn before (manager.pollTurn pollers turn).1 after := by
  obtain ⟨entry, hentry, rfl⟩ := Option.map_eq_some_iff.mp h
  have hensured := ensureEntry_of_some turn.nowEpoch hentry
  have hheld : manager.store.entryOrBlank turn.sgId = entry := by
    rw [SgwCacheStore.entryOrBlank, hentry, Option.getD_some]
  have hcase := pollTurn_case manager pollers turn
  generalize manager.pollTurn pollers turn = polled at hcase ⊢
  cases hcase with
  | skipped hmode => exact ⟨_, h, .skipped hmode⟩
  | heavy payload hmode hanswer =>
    refine ⟨_, ?_, .heavy payload hmode hanswer⟩
    rw [metadataOf, getEntry_refreshHeavy, if_pos rfl, hensured]
    rfl
  | light modems hmode hanswer =>
    refine ⟨_, ?_, .light modems hmode hanswer⟩
    rw [metadataOf, getEntry_refreshLight, if_pos rfl, hensured]
    rfl
  | failed exc hmode hheavy hlight =>
    refine ⟨_, ?_, .failed exc hmode hheavy hlight⟩
    rw [metadataOf, SgwCacheStore.getEntry_markError, if_pos rfl, hheld]
    rfl

theorem pollTurn_manager (manager : SgwManager) (pollers : SgwPollers) (turn : SgwTurn) :
    ∃ store, (manager.pollTurn pollers turn).2 = { manager with store } := by
  have hcase := pollTurn_case manager pollers turn
  generalize manager.pollTurn pollers turn = polled at hcase ⊢
  cases hcase with
  | skipped hmode => exact ⟨_, rfl⟩
  | heavy payload hmode hanswer => exact ⟨_, rfl⟩
  | light modems hmode hanswer => exact ⟨_, rfl⟩
  | failed exc hmode hheavy hlight => exact ⟨_, rfl⟩

theorem metadataOf_settleTurn (error : Option String)
    (h : manager.metadataOf turn.sgId = some before) :
    (manager.settleTurn turn error).2.metadataOf a =
      if a = turn.sgId then some (settledMetadata manager.settings turn.nowEpoch before).2
      else manager.metadataOf a := by
  obtain ⟨entry, hentry, rfl⟩ := Option.map_eq_some_iff.mp h
  rw [metadataOf, getEntry_settleTurn]
  by_cases ha : a = turn.sgId
  · rw [if_pos ha, if_pos ha, Option.map_some, SgwCacheEntryModel.metadata_withMetadata,
      turnMetadata, turnEntry, hentry, Option.getD_some]
  · rw [if_neg ha, if_neg ha, metadataOf]

/-- An evaluation at the end of a turn keeps the times and an error. -/
theorem settledMetadata_spec (settings : SgwSettings) (nowEpoch : ℚ)
    (before : SgwCacheMetadataModel) : ∃ refreshState,
      (settledMetadata settings nowEpoch before).2 = { before with
        ageSeconds := max 0 (nowEpoch-before.snapshotTimeEpoch), refreshState } ∧
      (refreshState = .ok →
        max 0 (nowEpoch-before.snapshotTimeEpoch) < settings.cacheMaxAgeSeconds) := by
  unfold settledMetadata
  by_cases herror : before.refreshState = .error
  · simp only [if_pos herror]
    refine ⟨.error, ?_, by intro h; cases h⟩
    rw [← herror]
  · simp only [if_neg herror, SgwCacheStore.computeStaleness, decide_eq_true_eq]
    by_cases hstale : (settings.cacheMaxAgeSeconds : ℚ) ≤ max 0 (nowEpoch-before.snapshotTimeEpoch)
    · rw [if_pos hstale]
      exact ⟨.stale, rfl, by intro h; cases h⟩
    · rw [if_neg hstale]
      exact ⟨.ok, rfl, fun _ => not_le.mp hstale⟩

end Metadata

/-- What a request does to the pending requests. -/
theorem requestRefresh_spec {manager : SgwManager} (sgId : ServiceGroupId)
    (mode : CacheRefreshMode) (nowEpoch : ℚ)
    (hpending : ∀ a, manager.refreshRequests.lookup a ≠ some .none) :
    ∃ refreshRequests, (manager.requestRefresh sgId mode nowEpoch).2 =
        { manager with refreshRequests } ∧
      (∀ a, refreshRequests.lookup a ≠ some .none) ∧
      (∀ a old, manager.refreshRequests.lookup a = some old →
        ∃ new, refreshRequests.lookup a = some new ∧ old.rank ≤ new.rank) ∧
      ((manager.requestRefresh sgId mode nowEpoch).1.1 = true →
        ∃ new, refreshRequests.lookup sgId = some new ∧ mode.rank ≤ new.rank) := by
  have hkept : ∀ a old, manager.refreshRequests.lookup a = some old →
      ∃ new, manager.refreshRequests.lookup a = some new ∧ old.rank ≤ new.rank :=
    fun a old hold => ⟨old, hold, le_refl _⟩
  unfold requestRefresh
  split
  next => exact ⟨_, rfl, hpending, hkept, by intro h; cases h⟩
  next hmode =>
  split
  next => exact ⟨_, rfl, hpending, hkept, by intro h; cases h⟩
  next =>
  split
  next => exact ⟨_, rfl, hpending, hkept, by intro h; cases h⟩
  next =>
  simp only
  split
  next hheavy =>
    refine ⟨_, rfl, hpending, hkept, fun _ => ⟨.heavy, hheavy, ?_⟩⟩
    cases mode <;> decide
  next hnot =>
  split
  next hnew =>
    refine ⟨_, rfl, ?_, ?_, ?_⟩
    · intro a
      rw [OrderedDict.lookup_insert]
      by_cases ha : a = sgId
      · rw [if_pos ha]
        exact fun h => hmode (Option.some.inj h)
      · rw [if_neg ha]
        exact hpending a
    · intro a old hold
      rw [OrderedDict.lookup_insert]
      by_cases ha : a = sgId
      · rw [if_pos ha]
        refine ⟨mode, rfl, ?_⟩
        rcases hnew with rfl | hnone
        · cases old <;> decide
        · rw [ha, hnone] at hold
          cases hold
      · rw [if_neg ha]
        exact hkept a old hold
    · intro _
      exact ⟨mode, by rw [OrderedDict.lookup_insert, if_pos rfl], le_refl _⟩
  next hold =>
    -- a LIGHT request is pending and another one joins it
    obtain ⟨hlight, hsome⟩ := not_or.mp hold
    obtain ⟨current, hcurrent⟩ := Option.ne_none_iff_exists'.mp hsome
    refine ⟨_, rfl, hpending, hkept, fun _ => ⟨current, hcurrent, ?_⟩⟩
    have hnone := hpending sgId
    rw [hcurrent] at hnone
    cases mode with
    | none => exact absurd rfl hmode
    | heavy => exact absurd rfl hlight
    | light =>
      cases current with
      | none => exact absurd rfl hnone
      | light => decide
      | heavy => decide

/-- Only the pending requests can change, whatever is pending. -/
theorem requestRefresh_manager (manager : SgwManager) (sgId : ServiceGroupId)
    (mode : CacheRefreshMode) (nowEpoch : ℚ) :
    ∃ refreshRequests, (manager.requestRefresh sgId mode nowEpoch).2 =
      { manager with refreshRequests } := by
  simp only [requestRefresh]
  split_ifs <;> exact ⟨_, rfl⟩

/-- The manager that a guard restart puts in place has no request pending. -/
theorem cloneForRestart_spec (manager : SgwManager) (store : SgwCacheStore) :
    ∃ jitterBySg refreshCounts, manager.cloneForRestart (some store) =
      { manager with store, jitterBySg, refreshCounts, refreshRequests := .empty } := by
  obtain ⟨jitter, counts, h⟩ :=
    create_spec manager.settings store manager.serviceGroups manager.jitterProvider
  exact ⟨jitter, counts, h⟩

/-! Requests, changes of the service groups and restarts write no entry. -/

@[simp] theorem metadataOf_requestRefresh (manager : SgwManager) (sgId : ServiceGroupId)
    (mode : CacheRefreshMode) (nowEpoch : ℚ) (a : ServiceGroupId) :
    (manager.requestRefresh sgId mode nowEpoch).2.metadataOf a = manager.metadataOf a := by
  obtain ⟨requests, hmanager⟩ := requestRefresh_manager manager sgId mode nowEpoch
  rw [metadataOf, hmanager, metadataOf]

@[simp] theorem metadataOf_setServiceGroups (manager : SgwManager)
    (serviceGroups : List ServiceGroupId) (a : ServiceGroupId) :
    (manager.setServiceGroups serviceGroups).metadataOf a = manager.metadataOf a := by
  obtain ⟨jitter, counts, hset⟩ := setServiceGroups_spec manager serviceGroups
  rw [metadataOf, hset, metadataOf]

@[simp] theorem metadataOf_cloneForRestart (manager : SgwManager) (a : ServiceGroupId) :
    (manager.cloneForRestart (some .empty)).metadataOf a = none := by
  obtain ⟨jitter, counts, hclone⟩ := cloneForRestart_spec manager .empty
  rw [metadataOf, hclone, SgwCacheStore.getEntry_empty, Option.map_none]

theorem metadataOf_create (settings : SgwSettings) (serviceGroups : List ServiceGroupId)
    (jitterProvider : ServiceGroupId → ℕ → ℤ) (a : ServiceGroupId) :
    (create settings .empty serviceGroups jitterProvider).metadataOf a = none := by
  rw [create, metadataOf_setServiceGroups]
  rfl

end PypnmCmts.SgwManager

namespace PypnmCmts.SgwWorld

/-- The group of a turn that is being taken has an entry. -/
def Held (w : SgwWorld) : Prop :=
  ∀ turn, w.pc.turn = some turn → ∃ d, w.manager.metadataOf turn.sgId = some d

theorem held_init (settings : SgwSettings) (serviceGroups : List ServiceGroupId)
    (jitterProvider : ServiceGroupId → ℕ → ℤ) :
      (init settings serviceGroups jitterProvider).Held := by
  intro turn hturn
  cases hturn

theorem held_step (w : SgwWorld) (a : SgwAction) (h : w.Held) : (w.step a).Held := by
  have hcase := step_case w a
  generalize w.step a = w' at hcase ⊢
  intro turn hturn
  cases hcase with
  | skip => exact h turn hturn
  | begin nowEpoch hpc hclock =>
    rw [turn_loopPc] at hturn
    cases hturn
  | take nowEpoch sgId rest hpc =>
    cases hturn
    have hid : (w.manager.beginTurn nowEpoch sgId).1.sgId = sgId := by
      rw [SgwManager.beginTurn_turn]
    refine ⟨(w.manager.metadataOf sgId).getD (SgwManager.newMetadata nowEpoch), ?_⟩
    rw [stepTake, SgwManager.metadataOf_beginTurn, if_pos hid]
  | poll pollers turn' rest hpc =>
    cases hturn
    obtain ⟨d, hd⟩ := h turn (by rw [hpc]; rfl)
    obtain ⟨after, hafter, -⟩ := SgwManager.metadataOf_pollTurn pollers hd
    exact ⟨after, hafter⟩
  | settle turn' error rest hpc =>
    rw [stepSettle, turn_loopPc] at hturn
    cases hturn
  | request sgId mode nowEpoch =>
    obtain ⟨d, hd⟩ := h turn hturn
    exact ⟨d, by rw [stepRequest, SgwManager.metadataOf_requestRefresh, hd]⟩
  | setServiceGroups serviceGroups =>
    obtain ⟨d, hd⟩ := h turn hturn
    exact ⟨d, by rw [SgwManager.metadataOf_setServiceGroups, hd]⟩
  | restart hpc =>
    rw [stepRestart, hpc] at hturn
    cases hturn

/-- The end of a turn leaves the snapshot times alone. -/
theorem snapshotTime_stepSettle {w : SgwWorld} {turn : SgwTurn} {error : Option String}
    {rest : List ServiceGroupId} (hheld : w.Held) (hpc : w.pc = .settling turn error rest)
    {sgId : ServiceGroupId} {d : SgwCacheMetadataModel}
    (hd : (w.stepSettle turn error rest).manager.metadataOf sgId = some d) :
    ∃ old, w.manager.metadataOf sgId = some old ∧
      old.snapshotTimeEpoch = d.snapshotTimeEpoch := by
  obtain ⟨before, hbefore⟩ := hheld turn (by rw [hpc]; rfl)
  rw [stepSettle, SgwManager.metadataOf_settleTurn error hbefore] at hd
  by_cases ha : sgId = turn.sgId
  · obtain ⟨state, hsettled, -⟩ :=
      SgwManager.settledMetadata_spec w.manager.settings turn.nowEpoch before
    rw [if_pos ha, Option.some.injEq, hsettled] at hd
    exact ⟨before, ha ▸ hbefore, by rw [← hd]⟩
  · rw [if_neg ha] at hd
    exact ⟨d, hd, rfl⟩

/-- The settings never change. -/
theorem settings_step (w : SgwWorld) (a : SgwAction) :
    (w.step a).manager.settings = w.manager.settings := by
  have hcase := step_case w a
  generalize w.step a = w' at hcase ⊢
  cases hcase with
  | skip => rfl
  | begin nowEpoch hpc hclock => rfl
  | take nowEpoch sgId rest hpc =>
    obtain ⟨jitter, hmanager, -⟩ := SgwManager.beginTurn_manager w.manager nowEpoch sgId
    rw [stepTake, hmanager]
  | poll pollers turn rest hpc =>
    obtain ⟨store, hmanager⟩ := SgwManager.pollTurn_manager w.manager pollers turn
    rw [stepPoll, hmanager]
  | settle turn error rest hpc =>
    obtain ⟨counts, hmanager⟩ := SgwManager.settleTurn_manager w.manager turn error
    rw [stepSettle, hmanager]
  | request sgId mode nowEpoch =>
    obtain ⟨requests, hmanager⟩ :=
      SgwManager.requestRefresh_manager w.manager sgId mode nowEpoch
    rw [stepRequest, hmanager]
  | setServiceGroups serviceGroups =>
    obtain ⟨jitter, counts, hset⟩ := SgwManager.setServiceGroups_spec w.manager serviceGroups
    rw [hset]
  | restart hpc =>
    obtain ⟨jitter, counts, hclone⟩ := SgwManager.cloneForRestart_spec w.manager .empty
    rw [stepRestart, hclone]

end PypnmCmts.SgwWorld
