import PypnmCmts.SnapshotHonesty

/-! The time stamps and the refresh counts of the cache along every run of cycles, requests,
changes of the service groups and resets of the counts, with a clock that does not go back. -/
namespace PypnmCmts

namespace SgwManager

/-- Reset refresh counters for the specified service group worker. -/
def resetRefreshCounts (manager : SgwManager) (sgId : ServiceGroupId) :
    (Bool × String) × SgwManager :=
  if sgId ∉ manager.serviceGroups then ((false, "sg_id not managed by sgw"), manager)
  else ((true, ""), { manager with refreshCounts := manager.refreshCounts.insert sgId {} })

theorem metadataOf_resetRefreshCounts (manager : SgwManager) (sgId a : ServiceGroupId) :
    (manager.resetRefreshCounts sgId).2.metadataOf a = manager.metadataOf a := by
  unfold resetRefreshCounts
  split
  · rfl
  · rfl

/-- No group has more heavy refreshes than light ones. -/
def CountsOrdered (manager : SgwManager) : Prop :=
  ∀ sgId counts, manager.refreshCounts.lookup sgId = some counts → counts.heavy ≤ counts.light

section Counts
variable {manager : SgwManager}

theorem CountsOrdered.getD (h : manager.CountsOrdered) (sgId : ServiceGroupId) :
    ((manager.refreshCounts.lookup sgId).getD {}).heavy ≤
      ((manager.refreshCounts.lookup sgId).getD {}).light := by
  cases hcounts : manager.refreshCounts.lookup sgId with
  | none => exact le_rfl
  | some counts => exact h sgId counts hcounts

theorem CountsOrdered.insert (h : manager.CountsOrdered) (sgId : ServiceGroupId)
    {counts : SgwRefreshCounts} (hcounts : counts.heavy ≤ counts.light) :
    ({ manager with refreshCounts := manager.refreshCounts.insert sgId counts } :
      SgwManager).CountsOrdered := by
  intro a found hfound
  dsimp only at hfound
  rw [OrderedDict.lookup_insert] at hfound
  split at hfound
  · rw [← Option.some.inj hfound]
    exact hcounts
  · exact h a found hfound

theorem CountsOrdered.setServiceGroups (h : manager.CountsOrdered)
    (serviceGroups : List ServiceGroupId) :
    (manager.setServiceGroups serviceGroups).CountsOrdered := by
  obtain ⟨jitter, hjitter⟩ := initializeJitter_spec { manager with serviceGroups } serviceGroups
  intro sgId counts hcounts
  rw [SgwManager.setServiceGroups, hjitter] at hcounts
  dsimp only [initializeWorkerState] at hcounts
  -- the count of a group that stays is carried over, that of a new one starts at zero
  rw [OrderedDict.lookup_foldl_insert] at hcounts
  split at hcounts
  · rw [← Option.some.inj hcounts]
    exact h.getD sgId
  · cases hcounts

theorem countsOrdered_create (settings : SgwSettings) (store : SgwCacheStore)
    (serviceGroups : List ServiceGroupId) (jitterProvider : ServiceGroupId → ℕ → ℤ) :
    (create settings store serviceGroups jitterProvider).CountsOrdered := by
  apply CountsOrdered.setServiceGroups
  intro sgId counts hcounts
  cases hcounts

/-- A heavy refresh counts as a light one too. -/
theorem CountsOrdered.incrementRefreshCounts (h : manager.CountsOrdered) (sgId : ServiceGroupId)
    (refreshMode : CacheRefreshMode) :
    (manager.incrementRefreshCounts sgId refreshMode).CountsOrdered := by
  have hold := h.getD sgId
  cases refreshMode with
  | none => exact h
  | heavy =>
    apply h.insert
    dsimp only
    omega
  | light =>
    apply h.insert
    dsimp only
    omega

theorem CountsOrdered.settleTurn (h : manager.CountsOrdered) (turn : SgwTurn)
    (error : Option String) : (manager.settleTurn turn error).2.CountsOrdered := by
  unfold SgwManager.settleTurn
  dsimp only
  split
  · exact h
  · apply CountsOrdered.incrementRefreshCounts
    exact h

theorem CountsOrdered.resetRefreshCounts (h : manager.CountsOrdered) (sgId : ServiceGroupId) :
    (manager.resetRefreshCounts sgId).2.CountsOrdered := by
  unfold SgwManager.resetRefreshCounts
  split
  · exact h
  · exact h.insert sgId le_rfl

end Counts
end SgwManager

/-- The stamps of an entry stand in their order: the last heavy refresh, the last light one, the
snapshot, and now; and its age is not negative. -/
structure TimesOrdered (now : ℚ) (d : SgwCacheMetadataModel) : Prop where
  heavy_le_light : ∀ heavy ∈ d.lastHeavyRefreshEpoch,
    ∃ light ∈ d.lastLightRefreshEpoch, heavy ≤ light
  light_le_snapshot : ∀ light ∈ d.lastLightRefreshEpoch, light ≤ d.snapshotTimeEpoch
  snapshot_le_now : d.snapshotTimeEpoch ≤ now
  age_nonneg : 0 ≤ d.ageSeconds

namespace TimesOrdered
variable {now now' : ℚ} {d : SgwCacheMetadataModel}

theorem mono (h : TimesOrdered now d) (hnow : now ≤ now') : TimesOrdered now' d :=
  { h with snapshot_le_now := h.snapshot_le_now.trans hnow }

theorem light_le_now (h : TimesOrdered now d) : ∀ light ∈ d.lastLightRefreshEpoch, light ≤ now :=
  fun light hlight => (h.light_le_snapshot light hlight).trans h.snapshot_le_now

theorem newMetadata (now : ℚ) : TimesOrdered now (SgwManager.newMetadata now) := by
  refine ⟨?_, ?_, le_rfl, le_rfl⟩
  · intro heavy hheavy
    cases hheavy
  · intro light hlight
    cases hlight

/-- Whatever the poll does, it is as of now. -/
theorem polled {pollers : SgwPollers} {turn : SgwTurn} {error : Option String}
    {after : SgwCacheMetadataModel} (h : TimesOrdered now d) (hnow : turn.nowEpoch = now)
    (hpolled : SgwManager.PolledMetadata pollers turn d error after) : TimesOrdered now after := by
  cases hpolled with
  | skipped hmode => exact h
  | heavy payload hmode hanswer =>
    refine ⟨?_, ?_, hnow.le, le_rfl⟩
    · intro heavy hheavy
      exact ⟨turn.nowEpoch, rfl, (Option.some.inj hheavy).ge⟩
    · intro light hlight
      exact (Option.some.inj hlight).ge
  | light modems hmode hanswer =>
    refine ⟨?_, ?_, hnow.le, le_rfl⟩
    · intro heavy hheavy
      -- the older light refresh was no later than now
      obtain ⟨light, hlight, hle⟩ := h.heavy_le_light heavy hheavy
      have hlight_now := h.light_le_now light hlight
      exact ⟨turn.nowEpoch, rfl, by linarith⟩
    · intro light hlight
      exact (Option.some.inj hlight).ge
  | failed exc hmode hheavy hlight =>
    refine ⟨h.heavy_le_light, ?_, hnow.le, le_rfl⟩
    intro light hlight
    have hlight_now := h.light_le_now light hlight
    dsimp only
    linarith

theorem settled (h : TimesOrdered now d) (settings : SgwSettings) (nowEpoch : ℚ) :
    TimesOrdered now (SgwManager.settledMetadata settings nowEpoch d).2 := by
  obtain ⟨refreshState, hsettled, -⟩ := SgwManager.settledMetadata_spec settings nowEpoch d
  rw [hsettled]
  exact ⟨h.heavy_le_light, h.light_le_snapshot, h.snapshot_le_now, le_max_left _ _⟩

end TimesOrdered

/-- A step of the cache manager, or a reset of the counts by an operator. -/
inductive SgwCall
  | act (a : SgwAction)
  | resetRefreshCounts (sgId : ServiceGroupId)

namespace SgwWorld

def stepCall (w : SgwWorld) : SgwCall → SgwWorld
  | .act a => w.step a
  | .resetRefreshCounts sgId => { w with manager := (w.manager.resetRefreshCounts sgId).2 }

/-- The clock does not go back. -/
def CallForward (w : SgwWorld) : SgwCall → Prop
  | .act a => w.ClockForward a
  | .resetRefreshCounts _ => True

/-- What the runs keep: the stamps of every entry and the counts of every group. -/
structure StampsOrdered (w : SgwWorld) : Prop where
  held : w.Held
  turn : w.TurnKept
  times : ∀ sgId d, w.manager.metadataOf sgId = some d → TimesOrdered (lastBegan w.log) d
  counts : w.manager.CountsOrdered

section Steps
variable {w : SgwWorld}

theorem times_take {nowEpoch : ℚ} (sgId : ServiceGroupId) (rest : List ServiceGroupId)
    (hnow : nowEpoch = lastBegan w.log)
    (h : ∀ sgId d, w.manager.metadataOf sgId = some d → TimesOrdered (lastBegan w.log) d) :
    ∀ a d, (w.stepTake nowEpoch sgId rest).manager.metadataOf a = some d →
      TimesOrdered (lastBegan w.log) d := by
  intro a d hd
  rw [stepTake, SgwManager.metadataOf_beginTurn] at hd
  split at hd
  · rw [← Option.some.inj hd]
    cases hold : w.manager.metadataOf sgId with
    | none =>
      rw [Option.getD_none, ← hnow]
      exact TimesOrdered.newMetadata nowEpoch
    | some old => exact h sgId old hold
  · exact h a d hd

theorem times_poll (pollers : SgwPollers) {turn : SgwTurn} (rest : List ServiceGroupId)
    (hturn : turn.nowEpoch = lastBegan w.log) {before : SgwCacheMetadataModel}
    (hbefore : w.manager.metadataOf turn.sgId = some before)
    (h : ∀ sgId d, w.manager.metadataOf sgId = some d → TimesOrdered (lastBegan w.log) d) :
    ∀ a d, (w.stepPoll pollers turn rest).manager.metadataOf a = some d →
      TimesOrdered (lastBegan w.log) d := by
  intro a d hd
  by_cases ha : a = turn.sgId
  · obtain ⟨after, hafter, hpolled⟩ := SgwManager.metadataOf_pollTurn pollers hbefore
    have hsame : some after = some d := by
      rw [← hafter, ← ha]
      exact hd
    rw [← Option.some.inj hsame]
    exact (h _ before hbefore).polled hturn hpolled
  · have hframe : (w.stepPoll pollers turn rest).manager.metadataOf a = w.manager.metadataOf a :=
      SgwManager.metadataOf_pollTurn_of_ne ha
    rw [hframe] at hd
    exact h a d hd

theorem times_settle {turn : SgwTurn} (error : Option String) (rest : List ServiceGroupId)
    {before : SgwCacheMetadataModel} (hbefore : w.manager.metadataOf turn.sgId = some before)
    (h : ∀ sgId d, w.manager.metadataOf sgId = some d → TimesOrdered (lastBegan w.log) d) :
    ∀ a d, (w.stepSettle turn error rest).manager.metadataOf a = some d →
      TimesOrdered (lastBegan w.log) d := by
  intro a d hd
  rw [stepSettle, SgwManager.metadataOf_settleTurn error hbefore] at hd
  split at hd
  · rw [← Option.some.inj hd]
    exact (h _ before hbefore).settled _ _
  · exact h a d hd

theorem stamps_step {a : SgwAction} (hclock : w.ClockForward a) (h : w.StampsOrdered) :
    (∀ sgId d, (w.step a).manager.metadataOf sgId = some d →
      TimesOrdered (lastBegan (w.step a).log) d) ∧ (w.step a).manager.CountsOrdered := by
  have hcase := step_case w a
  generalize w.step a = w' at hcase ⊢
  cases hcase with
  | skip => exact ⟨h.times, h.counts⟩
  | begin nowEpoch hpc hpositive =>
    refine ⟨?_, h.counts⟩
    intro sgId d hd
    exact (h.times sgId d hd).mono hclock
  | take nowEpoch sgId rest hpc =>
    obtain ⟨jitter, hmanager, -⟩ := SgwManager.beginTurn_manager w.manager nowEpoch sgId
    refine ⟨times_take sgId rest (h.turn.top nowEpoch _ hpc) h.times, ?_⟩
    rw [stepTake, hmanager]
    exact h.counts
  | poll pollers turn rest hpc =>
    obtain ⟨before, hbefore⟩ := h.held turn (by rw [hpc]; rfl)
    obtain ⟨store, hmanager⟩ := SgwManager.pollTurn_manager w.manager pollers turn
    have hturn := h.turn.time turn (by rw [hpc]; rfl)
    have htimes := times_poll pollers rest hturn hbefore h.times
    refine ⟨?_, ?_⟩
    · intro sgId d hd
      rw [stepPoll, lastBegan_pollEvents]
      exact htimes sgId d hd
    · rw [stepPoll, hmanager]
      exact h.counts
  | settle turn error rest hpc =>
    obtain ⟨before, hbefore⟩ := h.held turn (by rw [hpc]; rfl)
    exact ⟨times_settle error rest hbefore h.times, h.counts.settleTurn turn error⟩
  | request sgId mode nowEpoch =>
    obtain ⟨requests, hmanager⟩ := SgwManager.requestRefresh_manager w.manager sgId mode nowEpoch
    have hlog : lastBegan (w.stepRequest sgId mode nowEpoch).log = lastBegan w.log := by
      rw [stepRequest]
      dsimp only
      split
      · rfl
      · rfl
    refine ⟨?_, ?_⟩
    · intro a d hd
      rw [stepRequest, SgwManager.metadataOf_requestRefresh] at hd
      rw [hlog]
      exact h.times a d hd
    · rw [stepRequest, hmanager]
      exact h.counts
  | setServiceGroups serviceGroups =>
    refine ⟨?_, h.counts.setServiceGroups serviceGroups⟩
    intro sgId d hd
    rw [SgwManager.metadataOf_setServiceGroups] at hd
    exact h.times sgId d hd
  | restart hpc =>
    refine ⟨?_, SgwManager.countsOrdered_create _ _ _ _⟩
    intro sgId d hd
    rw [stepRestart, SgwManager.metadataOf_cloneForRestart] at hd
    cases hd

theorem stampsOrdered_step {a : SgwAction} (hclock : w.ClockForward a) (h : w.StampsOrdered) :
    (w.step a).StampsOrdered := by
  obtain ⟨htimes, hcounts⟩ := stamps_step hclock h
  exact ⟨held_step w a h.held, turnKept_step a h.turn, htimes, hcounts⟩

theorem stampsOrdered_stepCall {c : SgwCall} (hclock : w.CallForward c) (h : w.StampsOrdered) :
    (w.stepCall c).StampsOrdered := by
  cases c with
  | act a => exact stampsOrdered_step hclock h
  | resetRefreshCounts sgId =>
    -- only the counts of one group change
    have hframe (a : ServiceGroupId) :
        (w.stepCall (.resetRefreshCounts sgId)).manager.metadataOf a = w.manager.metadataOf a :=
      SgwManager.metadataOf_resetRefreshCounts w.manager sgId a
    refine ⟨?_, ⟨h.turn.top, h.turn.time, ?_⟩, ?_, h.counts.resetRefreshCounts sgId⟩
    · intro turn hturn
      rw [hframe]
      exact h.held turn hturn
    · intro turn rest hpolling
      rw [hframe]
      exact h.turn.entry turn rest hpolling
    · intro a d hd
      rw [hframe] at hd
      exact h.times a d hd

theorem stampsOrdered_init (settings : SgwSettings) (serviceGroups : List ServiceGroupId)
    (jitterProvider : ServiceGroupId → ℕ → ℤ) :
    (init settings serviceGroups jitterProvider).StampsOrdered := by
  have hkept := kept_init settings serviceGroups jitterProvider
  refine ⟨hkept.held, hkept.turn, ?_, SgwManager.countsOrdered_create _ _ _ _⟩
  intro sgId d hd
  have hnone : (init settings serviceGroups jitterProvider).manager.metadataOf sgId = none :=
    SgwManager.metadataOf_create _ _ _ _
  rw [hnone] at hd
  cases hd

end Steps

/-- In every reachable state of a run whose clock does not go back, the last heavy refresh of an
entry is no later than its last light one, that no later than the snapshot, and the snapshot no
later than now; a heavy refresh comes with a light one, the age is not negative, and no group
counts more heavy refreshes than light ones. -/
theorem metadata_times_ordered (settings : SgwSettings) (serviceGroups : List ServiceGroupId)
    (jitterProvider : ServiceGroupId → ℕ → ℤ) (calls : List SgwCall)
    (hclock : LabelledRun.Guarded stepCall CallForward
      (init settings serviceGroups jitterProvider) calls) :
    let w := LabelledRun.exec stepCall (init settings serviceGroups jitterProvider) calls
    (∀ sgId entry, w.manager.store.getEntry sgId = some entry →
      TimesOrdered (lastBegan w.log) entry.metadata) ∧
    ∀ sgId counts, w.manager.refreshCounts.lookup sgId = some counts →
      counts.heavy ≤ counts.light := by
  intro w
  have hkept : w.StampsOrdered := LabelledRun.invariant_of_guarded
    (fun _ _ hforward h => stampsOrdered_stepCall hforward h) hclock
    (stampsOrdered_init settings serviceGroups jitterProvider)
  refine ⟨?_, hkept.counts⟩
  intro sgId entry hentry
  apply hkept.times sgId
  rw [SgwManager.metadataOf, hentry, Option.map_some]

/-- A cycle that fails, a reset of the counts, a refresh on request and a later cycle. -/
theorem metadata_times_ordered_recovered :
    let calls : List SgwCall :=
      [.act (.begin 100), .act .take, .act (.poll heavyRaises), .act .settle,
       .resetRefreshCounts 1, .act (.request 1 .heavy 150), .act (.begin 200), .act .take,
       .act (.poll heavyAnswers), .act .settle, .act (.setServiceGroups [1, 2])]
    let w := LabelledRun.exec stepCall oneGroup calls
    (w.manager.metadataOf 1).map (fun d => (d.lastHeavyRefreshEpoch, d.lastLightRefreshEpoch)) =
      some (some 200, some 200) ∧
    (∀ sgId entry, w.manager.store.getEntry sgId = some entry →
      TimesOrdered (lastBegan w.log) entry.metadata) ∧
    ∀ sgId counts, w.manager.refreshCounts.lookup sgId = some counts →
      counts.heavy ≤ counts.light := by
  intro calls w
  have hbegin (w : SgwWorld) (nowEpoch : ℚ) (h : lastBegan w.log ≤ nowEpoch) :
      w.CallForward (.act (.begin nowEpoch)) := h
  have hclock : LabelledRun.Guarded stepCall CallForward oneGroup calls :=
    ⟨hbegin _ _ (by decide +kernel), trivial, trivial, trivial, trivial, trivial,
      hbegin _ _ (by decide +kernel), trivial, trivial, trivial, trivial, trivial⟩
  refine ⟨by decide +kernel, ?_⟩
  exact metadata_times_ordered .default [1] (fun _ _ => 0) calls hclock

end SgwWorld
end PypnmCmts
