import PypnmCmts.KeyedLoop
import PypnmCmts.SgwManager

/-! What a refresh cycle does for one service group depends on that group alone. -/
namespace PypnmCmts.SgwManager

/-- What the result of a cycle says of one service group. -/
structure GroupReport where
  heavyRefreshed : Bool
  lightRefreshed : Bool
  stale : Bool
  errors : List SgwRefreshErrorModel
deriving DecidableEq

/-- A heavy refresh is a light one too, an error excludes the rest, and what has been refreshed is
not stale. -/
structure GroupReport.Consistent (report : GroupReport) : Prop where
  light_of_heavy : report.heavyRefreshed = true → report.lightRefreshed = true
  errors_of_light : report.lightRefreshed = true → report.errors = []
  errors_of_stale : report.stale = true → report.errors = []
  stale_of_light : report.lightRefreshed = true → report.stale = false

def reportFor (result : SgwRefreshResultModel) (sgId : ServiceGroupId) : GroupReport where
  heavyRefreshed := sgId ∈ result.heavyRefreshedSgIds
  lightRefreshed := sgId ∈ result.lightRefreshedSgIds
  stale := sgId ∈ result.staleSgIds
  errors := result.errors.filter fun error => error.sgId = sgId

/-- Two managers, with their pollers, that hold the same for one service group. -/
structure AgreeOn (sgId : ServiceGroupId) (manager : SgwManager) (pollers : SgwPollers)
    (manager' : SgwManager) (pollers' : SgwPollers) : Prop where
  settings : manager.settings = manager'.settings
  jitter : manager.jitterSeconds sgId = manager'.jitterSeconds sgId
  entry : manager.store.getEntry sgId = manager'.store.getEntry sgId
  request : manager.refreshRequests.lookup sgId = manager'.refreshRequests.lookup sgId
  heavy : pollers.heavy sgId = pollers'.heavy sgId
  light : pollers.light sgId = pollers'.light sgId

/-- The part of a manager that a turn of a service group reads. -/
structure SgwCell where
  settings : SgwSettings
  jitter : ℕ
  request : Option CacheRefreshMode
  entry : Option SgwCacheEntryModel

def cell (manager : SgwManager) (sgId : ServiceGroupId) : SgwCell where
  settings := manager.settings
  jitter := manager.jitterSeconds sgId
  request := manager.refreshRequests.lookup sgId
  entry := manager.store.getEntry sgId

section Turn
variable {manager manager' : SgwManager} {pollers pollers' : SgwPollers} {turn : SgwTurn}
  {error : Option String} {sgId a : ServiceGroupId} {nowEpoch : ℚ}

/-! A turn leaves the cells of the other groups alone. -/

theorem cell_beginTurn_of_ne (ha : a ≠ sgId) :
    (manager.beginTurn nowEpoch sgId).2.cell a = manager.cell a := by
  obtain ⟨d, hd, hlookup⟩ := beginTurn_manager manager nowEpoch sgId
  have hjitter : (manager.beginTurn nowEpoch sgId).2.jitterSeconds a = manager.jitterSeconds a := by
    apply jitterSeconds_congr
    · rw [hd]
    · rw [hd]
    · rw [hd, hlookup, if_neg ha]
  rw [cell, hjitter, hd, cell]
  simp only [OrderedDict.lookup_erase, getEntry_ensureEntry, if_neg ha]

/-- The jitter does not depend on the store. -/
theorem cell_withStore (store : SgwCacheStore) :
    ({ manager with store } : SgwManager).cell a =
      { manager.cell a with entry := store.getEntry a } := by
  have hjitter : ({ manager with store } : SgwManager).jitterSeconds a = manager.jitterSeconds a :=
    jitterSeconds_congr rfl rfl rfl
  rw [cell, hjitter, cell]

theorem cell_pollTurn_of_ne (ha : a ≠ turn.sgId) :
    (manager.pollTurn pollers turn).2.cell a = manager.cell a := by
  have hcase := pollTurn_case manager pollers turn
  generalize manager.pollTurn pollers turn = polled at hcase ⊢
  cases hcase with
  | skipped hmode => rfl
  | heavy payload hmode hanswer =>
    rw [cell_withStore, getEntry_refreshHeavy, if_neg ha]
    rfl
  | light modems hmode hanswer =>
    rw [cell_withStore, getEntry_refreshLight, if_neg ha]
    rfl
  | failed exc hmode hheavy hlight =>
    rw [cell_withStore, SgwCacheStore.getEntry_markError, if_neg ha]
    rfl

theorem cell_settleTurn_of_ne (ha : a ≠ turn.sgId) :
    (manager.settleTurn turn error).2.cell a = manager.cell a := by
  have hentry := getEntry_settleTurn manager turn error a
  obtain ⟨counts, hmanager⟩ := settleTurn_manager manager turn error
  have hjitter : (manager.settleTurn turn error).2.jitterSeconds a = manager.jitterSeconds a :=
    jitterSeconds_congr (by rw [hmanager]) (by rw [hmanager]) (by rw [hmanager])
  rw [cell, hentry, if_neg ha, hjitter, hmanager, cell]

/-! A turn of the group itself depends on its cell and on the answers for it. -/

theorem cell_beginTurn (manager : SgwManager) (nowEpoch : ℚ) (sgId : ServiceGroupId) :
    (manager.beginTurn nowEpoch sgId).2.cell sgId = { manager.cell sgId with
      request := none, entry := some (ensureEntry manager.store sgId nowEpoch).1 } := by
  obtain ⟨d, hd, hlookup⟩ := beginTurn_manager manager nowEpoch sgId
  have hjitter : (manager.beginTurn nowEpoch sgId).2.jitterSeconds sgId =
      manager.jitterSeconds sgId := by
    have hdrawn : (manager.beginTurn nowEpoch sgId).2.jitterBySg.lookup sgId =
        some (manager.jitterSeconds sgId) := by rw [hd, hlookup, if_pos rfl]
    rw [jitterSeconds, resolveJitterSeconds, hdrawn]
  rw [cell, hjitter, hd, cell]
  simp only [OrderedDict.lookup_erase, getEntry_ensureEntry, ↓reduceIte]

theorem beginTurn_congr (nowEpoch : ℚ) (h : manager.cell sgId = manager'.cell sgId) :
    (manager.beginTurn nowEpoch sgId).1 = (manager'.beginTurn nowEpoch sgId).1 ∧
      (manager.beginTurn nowEpoch sgId).2.cell sgId =
        (manager'.beginTurn nowEpoch sgId).2.cell sgId := by
  obtain ⟨hsettings, hjitter, hrequest, hentry⟩ := SgwCell.mk.inj h
  have hensured := ensureEntry_congr nowEpoch hentry
  constructor
  · simp only [beginTurn_turn, hsettings, hjitter, hrequest, hensured]
  · rw [cell_beginTurn, cell_beginTurn, h, hensured]

theorem pollTurn_congr (turn : SgwTurn) (h : manager.cell turn.sgId = manager'.cell turn.sgId)
    (hheavy : pollers.heavy turn.sgId = pollers'.heavy turn.sgId)
    (hlight : pollers.light turn.sgId = pollers'.light turn.sgId) :
    (manager.pollTurn pollers turn).1 = (manager'.pollTurn pollers' turn).1 ∧
      (manager.pollTurn pollers turn).2.cell turn.sgId =
        (manager'.pollTurn pollers' turn).2.cell turn.sgId := by
  obtain ⟨-, -, -, hentry⟩ := SgwCell.mk.inj h
  have hensured := ensureEntry_congr turn.nowEpoch hentry
  have hblank : manager.store.entryOrBlank turn.sgId = manager'.store.entryOrBlank turn.sgId := by
    rw [SgwCacheStore.entryOrBlank, hentry, SgwCacheStore.entryOrBlank]
  unfold pollTurn
  rw [hheavy, hlight]
  cases turn.refreshMode with
  | none => exact ⟨rfl, h⟩
  | heavy =>
    cases pollers'.heavy turn.sgId with
    | ok payload =>
      refine ⟨rfl, ?_⟩
      simp only [cell_withStore, getEntry_refreshHeavy, h, hensured, ↓reduceIte]
    | error exc =>
      refine ⟨rfl, ?_⟩
      simp only [pollTurn.raised, cell_withStore, SgwCacheStore.getEntry_markError, h, hblank,
        ↓reduceIte]
  | light =>
    cases pollers'.light turn.sgId turn.entry.snapshot.cableModems with
    | ok modems =>
      refine ⟨rfl, ?_⟩
      simp only [cell_withStore, getEntry_refreshLight, h, hensured, ↓reduceIte]
    | error exc =>
      refine ⟨rfl, ?_⟩
      simp only [pollTurn.raised, cell_withStore, SgwCacheStore.getEntry_markError, h, hblank,
        ↓reduceIte]

theorem cell_settleTurn (manager : SgwManager) (turn : SgwTurn) (error : Option String) :
    (manager.settleTurn turn error).2.cell turn.sgId = { manager.cell turn.sgId with
      entry := some ((manager.turnEntry turn).withMetadata (manager.turnMetadata turn)) } := by
  have hentry := getEntry_settleTurn manager turn error turn.sgId
  obtain ⟨counts, hmanager⟩ := settleTurn_manager manager turn error
  have hjitter : (manager.settleTurn turn error).2.jitterSeconds turn.sgId =
      manager.jitterSeconds turn.sgId :=
    jitterSeconds_congr (by rw [hmanager]) (by rw [hmanager]) (by rw [hmanager])
  rw [cell, hentry, if_pos rfl, hjitter, hmanager, cell]

theorem settleTurn_congr (h : manager.cell turn.sgId = manager'.cell turn.sgId) :
    (manager.settleTurn turn error).1 = (manager'.settleTurn turn error).1 ∧
      (manager.settleTurn turn error).2.cell turn.sgId =
        (manager'.settleTurn turn error).2.cell turn.sgId := by
  obtain ⟨hsettings, -, -, hentry⟩ := SgwCell.mk.inj h
  have hturn : manager.turnEntry turn = manager'.turnEntry turn := by
    rw [turnEntry, hentry, turnEntry]
  constructor
  · rw [settleTurn_stale, settleTurn_stale, hsettings, hturn]
  · rw [cell_settleTurn, cell_settleTurn, h, turnMetadata, turnMetadata, hsettings, hturn]

theorem mem_append_ite {α : Type*} {l : List α} {p : Prop} [Decidable p] {x y : α} :
    x ∈ l ++ (if p then [y] else []) ↔ x ∈ l ∨ p ∧ x = y := by
  by_cases hp : p <;> simp [hp]

theorem sgId_of_mem_turnErrors {e : SgwRefreshErrorModel} (he : e ∈ turnErrors turn error) :
    e.sgId = turn.sgId := by
  obtain ⟨message, -, rfl⟩ := List.mem_map.mp he
  rfl

theorem reportFor_reportTurn_of_ne {result : SgwRefreshResultModel} {stale : Bool}
    (ha : a ≠ turn.sgId) :
      reportFor (reportTurn result turn error stale) a = reportFor result a := by
  have herrors : (turnErrors turn error).filter (fun e => e.sgId = a) = [] := by
    rw [List.filter_eq_nil_iff]
    intro e he
    rw [sgId_of_mem_turnErrors he, decide_eq_true_eq]
    exact Ne.symm ha
  simp only [reportFor, reportTurn, mem_append_ite, ha, and_false, or_false, List.filter_append,
    herrors, List.append_nil]

theorem reportFor_reportTurn (result : SgwRefreshResultModel) (turn : SgwTurn)
    (error : Option String) (stale : Bool) :
    reportFor (reportTurn result turn error stale) turn.sgId =
      let before := reportFor result turn.sgId
      { heavyRefreshed := before.heavyRefreshed || decide (turn.refreshMode = .heavy ∧ error = none)
        lightRefreshed := before.lightRefreshed || decide (turn.refreshMode ≠ .none ∧ error = none)
        stale := before.stale || stale
        errors := before.errors ++ turnErrors turn error } := by
  have herrors : (turnErrors turn error).filter (fun e => e.sgId = turn.sgId) =
      turnErrors turn error := by
    rw [List.filter_eq_self]
    intro e he
    exact decide_eq_true (sgId_of_mem_turnErrors he)
  simp only [reportFor, reportTurn, mem_append_ite, and_true, List.filter_append, herrors,
    Bool.decide_or, Bool.decide_eq_true]

end Turn

/-! The loop over the service groups. -/

/-- What the loop holds for a service group: the manager's cell and the report so far. -/
def loopCell (s : SgwManager × SgwRefreshResultModel) (sgId : ServiceGroupId) :
    SgwCell × GroupReport := (s.1.cell sgId, reportFor s.2 sgId)

section Loop
variable {manager : SgwManager} {pollers pollers' : SgwPollers} {nowEpoch : ℚ}
  {sgId : ServiceGroupId} {sgIds : List ServiceGroupId}

theorem refreshGroup_framed (pollers : SgwPollers) (nowEpoch : ℚ) :
    KeyedLoop.Framed loopCell (refreshGroup pollers nowEpoch) := by
  intro s j k hk
  have hturn : k ≠ (s.1.beginTurn nowEpoch j).1.sgId := by rwa [beginTurn_turn]
  have hcell : (refreshGroup pollers nowEpoch s j).1.cell k = s.1.cell k :=
    (cell_settleTurn_of_ne hturn).trans
      ((cell_pollTurn_of_ne hturn).trans (cell_beginTurn_of_ne hk))
  exact Prod.ext hcell (reportFor_reportTurn_of_ne hturn)

theorem refreshGroup_congr {s s' : SgwManager × SgwRefreshResultModel}
    (hheavy : pollers.heavy sgId = pollers'.heavy sgId)
    (hlight : pollers.light sgId = pollers'.light sgId)
    (h : loopCell s sgId = loopCell s' sgId) :
    loopCell (refreshGroup pollers nowEpoch s sgId) sgId =
      loopCell (refreshGroup pollers' nowEpoch s' sgId) sgId := by
  obtain ⟨hcell, hreport⟩ := Prod.mk.inj h
  obtain ⟨hturn, hbegun⟩ := beginTurn_congr nowEpoch hcell
  have hid : (s'.1.beginTurn nowEpoch sgId).1.sgId = sgId := by rw [beginTurn_turn]
  simp only [refreshGroup, hturn, finishTurn, loopCell]
  generalize (s'.1.beginTurn nowEpoch sgId).1 = turn at hid ⊢
  subst hid
  obtain ⟨herror, hpolled⟩ := pollTurn_congr turn hbegun hheavy hlight
  rw [herror]
  obtain ⟨hstale, hsettled⟩ := settleTurn_congr hpolled
  rw [hstale, hsettled, reportFor_reportTurn, reportFor_reportTurn, hreport]

/-- The poll of a turn leaves fetched data, an error, or what was there. -/
theorem pollTurn_report (manager : SgwManager) (pollers : SgwPollers) (turn : SgwTurn) :
    let polled := manager.pollTurn pollers turn
    (polled.1 = none ∧ turn.refreshMode ≠ .none →
      (polled.2.turnEntry turn).metadata.snapshotTimeEpoch = turn.nowEpoch) ∧
    (polled.1 ≠ none → (polled.2.turnEntry turn).metadata.refreshState = .error) := by
  have hcase := pollTurn_case manager pollers turn
  generalize manager.pollTurn pollers turn = polled at hcase ⊢
  cases hcase with
  | skipped hmode => exact ⟨fun h => absurd hmode h.2, fun h => absurd rfl h⟩
  | heavy payload hmode hanswer =>
    refine ⟨fun _ => ?_, fun h => absurd rfl h⟩
    rw [turnEntry, getEntry_refreshHeavy, if_pos rfl]
    rfl
  | light modems hmode hanswer =>
    refine ⟨fun _ => ?_, fun h => absurd rfl h⟩
    rw [turnEntry, getEntry_refreshLight, if_pos rfl]
    rfl
  | failed exc hmode hheavy hlight =>
    refine ⟨fun h => absurd h.1 (Option.some_ne_none _), fun _ => ?_⟩
    rw [turnEntry, SgwCacheStore.getEntry_markError, if_pos rfl]
    rfl

theorem consistent_refreshGroup {s : SgwManager × SgwRefreshResultModel}
    (h : reportFor s.2 sgId = ⟨false, false, false, []⟩) :
    (reportFor (refreshGroup pollers nowEpoch s sgId).2 sgId).Consistent := by
  have hid : (s.1.beginTurn nowEpoch sgId).1.sgId = sgId := by rw [beginTurn_turn]
  rw [refreshGroup]
  generalize s.1.beginTurn nowEpoch sgId = begun at hid ⊢
  obtain ⟨turn, begun⟩ := begun
  subst hid
  rw [finishTurn]
  obtain ⟨hfetched, hraised⟩ := pollTurn_report begun pollers turn
  simp only [reportFor_reportTurn, h, Bool.false_or, List.nil_append, settleTurn_stale]
  constructor
  · simp only [decide_eq_true_eq]
    intro hheavy
    refine ⟨?_, hheavy.2⟩
    rw [hheavy.1]
    decide
  · simp only [decide_eq_true_eq]
    intro hlight
    rw [hlight.2, turnErrors, Option.toList_none, List.map_nil]
  · intro hstale
    by_cases herror : (begun.pollTurn pollers turn).1 = none
    · rw [herror, turnErrors, Option.toList_none, List.map_nil]
    · rw [settledMetadata_of_error (hraised herror)] at hstale
      cases hstale
  · simp only [decide_eq_true_eq]
    intro hlight
    exact settledMetadata_of_fetched (hfetched ⟨hlight.2, hlight.1⟩)

/-- Every group that a cycle covers has a consistent report, and no other group has any. -/
theorem consistent_foldl (hgroups : sgIds.Nodup) (manager : SgwManager) (pollers : SgwPollers)
    (nowEpoch : ℚ) (sgId : ServiceGroupId) :
    (reportFor (sgIds.foldl (refreshGroup pollers nowEpoch)
      (manager, { snapshotTimeEpoch := nowEpoch })).2 sgId).Consistent := by
  have hframed := refreshGroup_framed pollers nowEpoch
  by_cases hmem : sgId ∈ sgIds
  · obtain ⟨t, ht, hend⟩ := hframed.exists_turn hgroups hmem
      (manager, { snapshotTimeEpoch := nowEpoch })
    rw [(Prod.mk.inj hend).2]
    exact consistent_refreshGroup (Prod.mk.inj ht).2
  · rw [(Prod.mk.inj (hframed.cell_foldl hmem _)).2]
    exact ⟨fun h => h, fun _ => rfl, fun _ => rfl, fun _ => rfl⟩

/-- What a cycle runs. -/
theorem refreshOnce_eq_ok {result : SgwRefreshResultModel} {after : SgwManager}
    (henabled : manager.settings.enabled = true)
    (h : manager.refreshOnce nowEpoch pollers = .ok (result, after)) :
    manager.serviceGroups.foldl (refreshGroup pollers nowEpoch)
      (manager, { snapshotTimeEpoch := nowEpoch }) = (after, result) := by
  unfold refreshOnce at h
  split at h
  · cases h
  · rw [if_neg (by rw [henabled]; decide)] at h
    obtain ⟨hresult, hafter⟩ := Prod.mk.inj (Except.ok.inj h)
    exact Prod.ext hafter hresult

end Loop

/-- Refresh isolation: the entry and the report of a group are those of any other cycle that
agrees on this group, whatever the order of the groups and the fate of the others. -/
theorem refresh_once_isolated (manager after : SgwManager) (pollers : SgwPollers) (nowEpoch : ℚ)
    (result : SgwRefreshResultModel) (henabled : manager.settings.enabled = true)
    (hgroups : manager.serviceGroups.Nodup)
    (h : manager.refreshOnce nowEpoch pollers = .ok (result, after)) :
    (∀ sgId ∈ manager.serviceGroups, ∀ manager' after' pollers' result',
      AgreeOn sgId manager pollers manager' pollers' → manager'.serviceGroups.Nodup →
      sgId ∈ manager'.serviceGroups →
      manager'.refreshOnce nowEpoch pollers' = .ok (result', after') →
      after.store.getEntry sgId = after'.store.getEntry sgId ∧
        reportFor result sgId = reportFor result' sgId) ∧
    result.heavyRefreshedSgIds ⊆ result.lightRefreshedSgIds ∧
    (∀ error ∈ result.errors, error.sgId ∉ result.lightRefreshedSgIds) ∧
    (∀ error ∈ result.errors, error.sgId ∉ result.staleSgIds) ∧
    (∀ sgId ∈ result.lightRefreshedSgIds, sgId ∉ result.staleSgIds) := by
  have hloop := refreshOnce_eq_ok henabled h
  have hconsistent (sgId : ServiceGroupId) : (reportFor result sgId).Consistent := by
    have hfold := consistent_foldl hgroups manager pollers nowEpoch sgId
    rwa [hloop] at hfold
  have herrors : ∀ error ∈ result.errors, (reportFor result error.sgId).errors ≠ [] := by
    intro error herror
    exact List.ne_nil_of_mem (List.mem_filter.mpr ⟨herror, decide_eq_true rfl⟩)
  refine ⟨?_, ?_, ?_, ?_, ?_⟩
  · intro sgId hmem manager' after' pollers' result' hagree hgroups' hmem' h'
    have hloop' := refreshOnce_eq_ok (hagree.settings ▸ henabled) h'
    have hcell : loopCell (manager, { snapshotTimeEpoch := nowEpoch }) sgId =
        loopCell (manager', { snapshotTimeEpoch := nowEpoch }) sgId := by
      simp only [loopCell, cell, hagree.settings, hagree.jitter, hagree.entry, hagree.request]
    have hend := (refreshGroup_framed pollers nowEpoch).cell_foldl_congr
      (refreshGroup_framed pollers' nowEpoch)
      (fun s s' => refreshGroup_congr hagree.heavy hagree.light) hgroups hgroups' hmem hmem' hcell
    rw [hloop, hloop'] at hend
    obtain ⟨hafter, hreport⟩ := Prod.mk.inj hend
    exact ⟨congrArg SgwCell.entry hafter, hreport⟩
  · intro sgId hheavy
    exact of_decide_eq_true ((hconsistent sgId).light_of_heavy (decide_eq_true hheavy))
  · intro error herror hlight
    exact herrors error herror ((hconsistent error.sgId).errors_of_light (decide_eq_true hlight))
  · intro error herror hstale
    exact herrors error herror ((hconsistent error.sgId).errors_of_stale (decide_eq_true hstale))
  · intro sgId hlight hstale
    have hfresh := (hconsistent sgId).stale_of_light (decide_eq_true hlight)
    exact absurd hstale (of_decide_eq_false hfresh)

/-- A manager of two service groups with nothing cached. -/
def groupsManager (serviceGroups : List ServiceGroupId) : SgwManager :=
  create .default .empty serviceGroups fun _ _ => 0

def allAnswer : SgwPollers := ⟨fun _ => .ok {}, fun _ modems => .ok modems⟩

/-- The second group's polls raise. -/
def secondGroupRaises : SgwPollers where
  heavy sgId := if sgId = 2 then .error "timeout" else .ok {}
  light sgId modems := if sgId = 2 then .error "timeout" else .ok modems

theorem groupsManager_refreshOnce (serviceGroups : List ServiceGroupId) (pollers : SgwPollers) :
    ∃ result after, (groupsManager serviceGroups).refreshOnce 100 pollers =
      .ok (result, after) := by
  obtain ⟨jitter, counts, hcreated⟩ := create_spec .default .empty serviceGroups fun _ _ => 0
  have hclock : ¬ (100 : ℚ) < 0 := by decide +kernel
  rw [groupsManager, hcreated, refreshOnce, if_neg hclock]
  exact ⟨_, _, rfl⟩

/-- The first group comes out alike when the groups are swapped and the second one answers. -/
theorem refresh_once_isolated_pair : ∃ result after result' after',
    (groupsManager [1, 2]).refreshOnce 100 secondGroupRaises = .ok (result, after) ∧
    (groupsManager [2, 1]).refreshOnce 100 allAnswer = .ok (result', after') ∧
    after.store.getEntry 1 = after'.store.getEntry 1 ∧
    result.heavyRefreshedSgIds ⊆ result.lightRefreshedSgIds := by
  obtain ⟨result, after, hrun⟩ := groupsManager_refreshOnce [1, 2] secondGroupRaises
  obtain ⟨result', after', hrun'⟩ := groupsManager_refreshOnce [2, 1] allAnswer
  obtain ⟨halone, hheavy, -⟩ :=
    refresh_once_isolated _ after _ 100 result (by decide) (by decide) hrun
  have hagree : AgreeOn 1 (groupsManager [1, 2]) secondGroupRaises (groupsManager [2, 1])
      allAnswer := ⟨rfl, by decide, by decide, by decide, rfl, rfl⟩
  have hfirst := halone 1 (by decide) _ after' _ result' hagree (by decide) (by decide) hrun'
  exact ⟨result, after, result', after', hrun, hrun', hfirst.1, hheavy⟩

end PypnmCmts.SgwManager
