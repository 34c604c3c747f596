import PypnmCmts.InventoryChanges
import PypnmCmts.LauncherRun
import PypnmCmts.WorkRunner

/-! The work of a tick: `_run_worker_tests` behind the lease pass, in the ticks of `run_forever` and
in `run_once`. -/
namespace PypnmCmts

open LabelledRun CallTree

/-- A call of `run_pnm_tests`. -/
structure WorkCall where
  sgId : ServiceGroupId
  pnmTests : List String
  runId : String
deriving DecidableEq

namespace WorkCall

def items (call : WorkCall) : List WorkItemModel :=
  call.pnmTests.map fun name => ⟨call.sgId, name, call.runId⟩

end WorkCall

/-- What a tick has done: the held set behind its lease pass, its calls of `run_pnm_tests`, the
result files before and after it, and the result that it has passed on with its work results. -/
structure WorkTick where
  held : HeldLeases
  calls : List WorkCall
  before : ResultTree
  after : ResultTree
  emitted : Option (OrchestratorRunResultModel × List WorkResultModel)

/-- Where behind the lease pass an exception comes from, if one does: amid the work it comes when
so many tests are done. -/
inductive TickRaise
  | nowhere
  | beforeWork
  | amidWork (testsDone : ℕ)
  | afterWork
  | inCallback
deriving DecidableEq

structure WorkAnswers where
  raise : TickRaise
  tests : ℕ → TestAnswers

/-- What the surroundings answer to `run_once`. A controller builds its inventory again after the
tick, as the leader or not. -/
structure OnceAnswers where
  first : InventoryAnswers
  isLeader : Bool
  second : InventoryAnswers
  tick : TickAnswers
  work : WorkAnswers

structure WorkSettings where
  stateDir : PosixPath
  defaultTests : List String

/-- The run of a launcher, the result files, and its ticks so far. -/
structure WorkState where
  launcher : LauncherState
  files : ResultTree
  ticks : List WorkTick

namespace WorkTick

/-- A tick that has not come to its work. -/
def idle (held : HeldLeases) (files : ResultTree) : WorkTick := ⟨held, [], files, files, none⟩

/-- The tests are run and their results written for a single group that is held behind the lease
pass, if for any, and a result that is passed on has a run id just if they were. -/
structure LeaseGated (stateDir : PosixPath) (t : WorkTick) : Prop where
  held : ∀ call ∈ t.calls, call.sgId ∈ t.held
  single : t.calls.length ≤ 1
  persisted : ∀ path, t.after path ≠ t.before path →
    ∃ call ∈ t.calls, ∃ item ∈ call.items, path = WorkRunner.resultPath stateDir item
  results : ∀ result ∈ t.emitted, ∀ r ∈ result.2, ∃ call ∈ t.calls, r.sgId = call.sgId
  runId : ∀ result ∈ t.emitted, result.1.runId ≠ "" ↔ t.calls ≠ []

theorem leaseGated_idle (stateDir : PosixPath) (held : HeldLeases) (files : ResultTree) :
    (idle held files).LeaseGated stateDir where
  held _ hcall := absurd hcall List.not_mem_nil
  single := Nat.zero_le _
  persisted _ h := absurd rfl h
  results _ hresult := absurd hresult (Option.not_mem_none _)
  runId _ hresult := absurd hresult (Option.not_mem_none _)

end WorkTick

namespace CmtsOrchestratorLauncher
variable (launcher : CmtsOrchestratorLauncher) (work : WorkSettings)
  (sha256 : List UInt8 → List UInt8) (onTick : Bool)

/-- `_run_worker_tests`, with the calls that it makes. -/
def runWorkerTests (tickIndex : ℕ) (acquiredSgIds : List ServiceGroupId) (leaseHeld : Bool)
    (tests : ℕ → TestAnswers) (files : ResultTree) :
    List WorkCall × List WorkResultModel × ResultTree :=
  if !launcher.mode.isWorkerEnabled then ([], [], files)
  else if !leaseHeld then ([], [], files)
  else
    match CoordinationManager.sortedServiceGroups acquiredSgIds with
    | [] => ([], [], files)
    | sgId :: _ =>
      let runId := buildRunIdForSg sgId tickIndex
      ([⟨sgId, work.defaultTests, runId⟩],
        WorkRunner.runPnmTests work.stateDir sgId runId work.defaultTests tests files)

/-- The part of a tick behind its lease pass. -/
def workTick (plan : InventoryPlan) (tickIndex : ℕ) (held : HeldLeases)
    (tick : CoordinationTickResultModel) (answers : TickAnswers) (workAnswers : WorkAnswers)
    (files : ResultTree) : WorkTick :=
  let result := launcher.emittedResult plan tickIndex held tick answers
  let workSgIds := selectWorkSgIds (CoordinationManager.sortedServiceGroups tick.acquiredSgIds)
    result.leasedSgIds
  let (calls, results, after) := launcher.runWorkerTests work tickIndex workSgIds result.leaseHeld
    workAnswers.tests files
  match workAnswers.raise with
  | .beforeWork => .idle held files
  | .amidWork testsDone =>
    let (_, _, reached) := launcher.runWorkerTests
      { work with defaultTests := work.defaultTests.take testsDone } tickIndex workSgIds
      result.leaseHeld workAnswers.tests files
    ⟨held, calls, files, reached, none⟩
  | .afterWork => ⟨held, calls, files, after, none⟩
  | .nowhere => ⟨held, calls, files, after, some (result, results)⟩
  | .inCallback => ⟨held, calls, files, after, some (result, results)⟩

/-- A tick of `run_forever`. Without a callback nothing is done behind the refresh. -/
def forWorkTick (s : WorkState) (answers : TickAnswers) (workAnswers : WorkAnswers) : WorkTick :=
  match CoordinationManager.answered (launcher.tickProgram sha256 s.launcher) answers.replies with
  | (held, .tick tick) =>
    match launcher.refreshedPlan s.launcher answers with
    | .error _ => .idle held s.files
    | .ok plan =>
      if onTick then
        launcher.workTick work plan (s.launcher.ticks+1) held tick answers workAnswers s.files
      else .idle held s.files
  | (held, _) => .idle held s.files

def workStep (s : WorkState) (a : TickAnswers × WorkAnswers) : WorkState :=
  if !s.launcher.running then s
  else
    let t := launcher.forWorkTick work sha256 onTick s a.1 a.2
    { launcher := launcher.step sha256 onTick s.launcher
        { a.1 with raises := a.2.raise ≠ .nowhere }
      files := t.after
      ticks := s.ticks ++ [t] }

/-- The tick of `run_once`, unless the inventory cannot be built. -/
def runOnce (manager : CoordinationManager) (answers : OnceAnswers) (files : ResultTree) :
    Option WorkTick :=
  match launcher.buildInventoryAndPlan answers.first false with
  | .error _ => none
  | .ok plan =>
    match CoordinationManager.answered
      (launcher.tickProgram sha256 (launcher.startState manager plan)) answers.tick.replies with
    | (held, .tick tick) =>
      match (if launcher.mode = .controller then
          launcher.buildInventoryAndPlan answers.second answers.isLeader
        else .ok plan) with
      | .error _ => some (.idle held files)
      | .ok plan => some (launcher.workTick work plan 1 held tick answers.tick answers.work files)
    | (held, _) => some (.idle held files)

end CmtsOrchestratorLauncher

namespace CoordinationManager
variable (m : CoordinationManager) (sha256 : List UInt8 → List UInt8)

/-- What is acquired in a tick is held at its end. -/
def EndsHolding (held : HeldLeases) : CoordinationOutcome → Prop
  | .tick result => ∀ sgId ∈ result.acquiredSgIds, sgId ∈ held
  | _ => True

def HoldsAcquired (p : TickProgress) : Prop := ∀ sgId ∈ p.acquired, sgId ∈ p.held

theorem holdsAcquired_addAcquired {p : TickProgress} (sgId : ServiceGroupId)
    (h : HoldsAcquired p) : HoldsAcquired (p.addAcquired sgId) := by
  intro x hx
  rcases List.mem_append.mp hx with hx | hx
  · exact Finset.mem_insert_of_mem (h x hx)
  · rw [List.mem_singleton.mp hx]
    exact Finset.mem_insert_self _ _

/-- Nothing has been acquired while groups are still renewed and released, and nothing is given up
afterwards. -/
theorem ends_tick_holding (groups : List ServiceGroupId) (held : HeldLeases) :
    (m.tick sha256 groups held).Ends EndsHolding := by
  refine m.ends_leaderPass trivial ?_
  intro isLeader leaderId
  rw [leasePass_eq]
  have hcall : ∀ v c k, leaseOp c ≠ none → (∀ r, (k r).Ends EndsHolding) →
      (CallTree.call v c k : CoordinationProgram).Ends EndsHolding := by
    intro v c k _ hk
    exact hk
  refine renewPass_ends hcall (K := fun _ p => p.acquired = []) (fun _ _ _ h => h)
    (fun _ _ _ h => h) ?_ _ _ rfl
  intro p hp
  refine m.shedPass_ends hcall (J := fun p => p.acquired = []) (fun _ _ h => h) (fun _ _ h => h)
    ?_ _ p hp
  intro p hp
  have hacquire : FollowsAcquire fun _ _ p => HoldsAcquired p :=
    ⟨fun _ _ _ _ h => h, fun sgId _ _ _ _ h => holdsAcquired_addAcquired sgId h,
      fun _ _ _ _ _ h => h⟩
  have hsweep : ∀ attempted, FollowsSweep attempted fun _ p => HoldsAcquired p := fun _ =>
    ⟨fun _ _ _ h => h, fun sgId _ _ _ _ h => holdsAcquired_addAcquired sgId h,
      fun _ _ _ _ _ h => h⟩
  have hnone : HoldsAcquired p := by
    intro x hx
    rw [hp] at hx
    cases hx
  refine m.refillPass_ends sha256 hcall hacquire hsweep (J := HoldsAcquired) (E := HoldsAcquired)
    (fun _ h => h) (fun _ _ _ h => h) (fun _ _ _ h => h) (fun _ h => h) ?_ p hnone
  intro q hq
  exact hq

theorem ends_tickLeaderOnly_holding (held : HeldLeases) :
    (m.tickLeaderOnly held).Ends EndsHolding := by
  refine m.ends_leaderPass trivial ?_
  intro isLeader leaderId x hx
  cases hx

end CoordinationManager

namespace CmtsOrchestratorLauncher
variable {launcher : CmtsOrchestratorLauncher} {work : WorkSettings}
  {sha256 : List UInt8 → List UInt8} {onTick : Bool}

theorem buildRunIdForSg_ne_empty (sgId : ServiceGroupId) (tickIndex : ℕ) :
    buildRunIdForSg sgId tickIndex ≠ "" := by
  intro h
  have hlength := congrArg String.length h
  simp [buildRunIdForSg, String.length_append] at hlength

/-- The first of the sorted list is on the list. -/
theorem mem_of_sorted_cons {sgIds rest : List ServiceGroupId} {sgId : ServiceGroupId}
    (h : CoordinationManager.sortedServiceGroups sgIds = sgId :: rest) : sgId ∈ sgIds := by
  rw [← (CoordinationManager.sortedServiceGroups_perm sgIds).mem_iff, h]
  exact List.mem_cons_self

/-- The work of a tick is for a group that was acquired, or else for one that is held. -/
theorem mem_of_mem_selectWorkSgIds {acquiredSgIds heldSgIds : List ServiceGroupId}
    {sgId : ServiceGroupId} (h : sgId ∈ selectWorkSgIds acquiredSgIds heldSgIds) :
    sgId ∈ acquiredSgIds ∨ sgId ∈ heldSgIds := by
  unfold selectWorkSgIds at h
  split at h
  · exact Or.inl ((CoordinationManager.sortedServiceGroups_perm _).mem_iff.mp
      (List.mem_of_mem_take h))
  · exact Or.inr ((CoordinationManager.sortedServiceGroups_perm _).mem_iff.mp
      (List.mem_of_mem_take h))

/-- The two chains of conditions, for the run id and for the work: both come to one group and its
run id, or to nothing. -/
theorem runWorkerTests_cases (launcher : CmtsOrchestratorLauncher) (tickIndex : ℕ)
    (sgIds : List ServiceGroupId) (leaseHeld : Bool) (tests : ℕ → TestAnswers)
    (files : ResultTree) :
    (launcher.buildRunId sgIds tickIndex leaseHeld = "" ∧
      ∀ work, launcher.runWorkerTests work tickIndex sgIds leaseHeld tests files =
        ([], [], files)) ∨
    ∃ sgId ∈ sgIds, launcher.buildRunId sgIds tickIndex leaseHeld =
        buildRunIdForSg sgId tickIndex ∧
      ∀ work : WorkSettings, launcher.runWorkerTests work tickIndex sgIds leaseHeld tests files =
        ([⟨sgId, work.defaultTests, buildRunIdForSg sgId tickIndex⟩],
          WorkRunner.runPnmTests work.stateDir sgId (buildRunIdForSg sgId tickIndex)
            work.defaultTests tests files) := by
  simp only [buildRunId, runWorkerTests]
  cases hworker : launcher.mode.isWorkerEnabled with
  | false => exact Or.inl ⟨rfl, fun _ => rfl⟩
  | true =>
    cases leaseHeld with
    | false => exact Or.inl ⟨rfl, fun _ => rfl⟩
    | true =>
      cases hsorted : CoordinationManager.sortedServiceGroups sgIds with
      | nil => exact Or.inl ⟨rfl, fun _ => rfl⟩
      | cons sgId rest => exact Or.inr ⟨sgId, mem_of_sorted_cons hsorted, rfl, fun _ => rfl⟩

/-- The work on a result, of which some tests are `done`, whether that is passed on or not. -/
theorem leaseGated_work (launcher : CmtsOrchestratorLauncher) (work : WorkSettings)
    {sgIds : List ServiceGroupId} {held : HeldLeases}
    (hheld : ∀ sgId ∈ sgIds, sgId ∈ held) (tests : ℕ → TestAnswers) (files : ResultTree)
    {result : OrchestratorRunResultModel}
    (hrunId : result.runId = launcher.buildRunId sgIds result.tickIndex result.leaseHeld)
    {done : List String} (hdone : done ⊆ work.defaultTests)
    (emitted : Option (OrchestratorRunResultModel × List WorkResultModel))
    (hemitted : ∀ r ∈ emitted, r = (result,
      (launcher.runWorkerTests work result.tickIndex sgIds result.leaseHeld tests files).2.1)) :
    (⟨held, (launcher.runWorkerTests work result.tickIndex sgIds result.leaseHeld tests files).1,
      files, (launcher.runWorkerTests { work with defaultTests := done } result.tickIndex sgIds
        result.leaseHeld tests files).2.2, emitted⟩ : WorkTick).LeaseGated work.stateDir := by
  rcases runWorkerTests_cases launcher result.tickIndex sgIds result.leaseHeld tests files with
    ⟨hempty, hwork⟩ | ⟨sgId, hmem, hid, hwork⟩
  · -- no group is selected, and nothing runs
    rw [hwork] at hemitted
    rw [hwork, hwork]
    refine ⟨fun call hcall => absurd hcall List.not_mem_nil, Nat.zero_le _,
      fun path h => absurd rfl h, ?_, ?_⟩
    · intro r hr x hx
      rw [hemitted r hr] at hx
      cases hx
    · intro r hr
      rw [hemitted r hr, hrunId, hempty]
      simp
  · rw [hwork] at hemitted
    rw [hwork, hwork]
    refine ⟨?_, Nat.le_refl _, ?_, ?_, ?_⟩
    · intro call hcall
      rw [List.mem_singleton.mp hcall]
      exact hheld sgId hmem
    · intro path hpath
      obtain ⟨name, hname, rfl⟩ := WorkRunner.files_runPnmTests _ _ _ hpath
      exact ⟨_, List.mem_singleton_self _, _, List.mem_map.mpr ⟨name, hdone hname, rfl⟩, rfl⟩
    · intro r hr x hx
      rw [hemitted r hr] at hx
      have hresult := List.mem_map_of_mem (f := fun r : WorkResultModel => (r.sgId, r.testName)) hx
      rw [WorkRunner.results_runPnmTests] at hresult
      obtain ⟨name, -, hname⟩ := List.mem_map.mp hresult
      exact ⟨_, List.mem_singleton_self _, (congrArg Prod.fst hname).symm⟩
    · intro r hr
      rw [hemitted r hr, hrunId, hid]
      simp [buildRunIdForSg_ne_empty]

/-- Behind a lease pass that holds what it acquired, the work is for a group that is held. -/
theorem leaseGated_workTick (plan : InventoryPlan) (tickIndex : ℕ) {held : HeldLeases}
    {tick : CoordinationTickResultModel} (hholds : ∀ sgId ∈ tick.acquiredSgIds, sgId ∈ held)
    (answers : TickAnswers) (workAnswers : WorkAnswers) (files : ResultTree) :
    (launcher.workTick work plan tickIndex held tick answers workAnswers files).LeaseGated
      work.stateDir := by
  let result := launcher.emittedResult plan tickIndex held tick answers
  let workSgIds := selectWorkSgIds (CoordinationManager.sortedServiceGroups tick.acquiredSgIds)
    result.leasedSgIds
  have hheld : ∀ sgId ∈ workSgIds, sgId ∈ held := by
    intro sgId hmem
    rcases mem_of_mem_selectWorkSgIds hmem with h | h
    · exact hholds sgId ((CoordinationManager.sortedServiceGroups_perm _).mem_iff.mp h)
    · change sgId ∈ if launcher.mode = .controller then [] else _ at h
      split at h
      · cases h
      · exact CoordinationManager.mem_sortedHeldLeases.mp h
  have hrunId : result.runId = launcher.buildRunId workSgIds result.tickIndex
      result.leaseHeld := rfl
  have hreached (done : List String) (hdone : done ⊆ work.defaultTests) :=
    leaseGated_work launcher work hheld workAnswers.tests files hrunId hdone
  have hgated := hreached work.defaultTests (List.Subset.refl _)
  rw [workTick]
  cases workAnswers.raise with
  | beforeWork => exact WorkTick.leaseGated_idle _ _ _
  | amidWork testsDone =>
    exact hreached _ (List.take_subset _ _) none fun r hr => absurd hr (Option.not_mem_none _)
  | afterWork => exact hgated none fun r hr => absurd hr (Option.not_mem_none _)
  | nowhere => exact hgated _ fun r hr => (Option.mem_some.mp hr).symm
  | inCallback => exact hgated _ fun r hr => (Option.mem_some.mp hr).symm

theorem ends_tickProgram (s : LauncherState) :
    (launcher.tickProgram sha256 s).Ends CoordinationManager.EndsHolding := by
  rw [tickProgram]
  split
  · exact s.manager.ends_tickLeaderOnly_holding s.held
  · exact s.manager.ends_tick_holding sha256 s.serviceGroups s.held

/-- Whatever the calls of a tick are answered, it holds what it says to have acquired. -/
theorem holds_of_answered {s : LauncherState} {replies : ℕ → (c : CoordinationCall) → c.Reply}
    {held : HeldLeases} {tick : CoordinationTickResultModel}
    (h : CoordinationManager.answered (launcher.tickProgram sha256 s) replies =
      (held, .tick tick)) : ∀ sgId ∈ tick.acquiredSgIds, sgId ∈ held := by
  have hends : CoordinationManager.EndsHolding
      (CoordinationManager.answered (launcher.tickProgram sha256 s) replies).1
      (CoordinationManager.answered (launcher.tickProgram sha256 s) replies).2 :=
    (ends_tickProgram s).run _ _
  rwa [h] at hends

/-- A tick of `run_forever` comes to its work behind a lease pass and a refresh, or not at all. -/
theorem forWorkTick_cases (launcher : CmtsOrchestratorLauncher) (work : WorkSettings)
    (sha256 : List UInt8 → List UInt8) (onTick : Bool) (s : WorkState) (answers : TickAnswers)
    (workAnswers : WorkAnswers) :
    (∃ held, launcher.forWorkTick work sha256 onTick s answers workAnswers =
      .idle held s.files) ∨
    ∃ held tick plan, CoordinationManager.answered (launcher.tickProgram sha256 s.launcher)
        answers.replies = (held, .tick tick) ∧
      launcher.refreshedPlan s.launcher answers = .ok plan ∧
      launcher.forWorkTick work sha256 onTick s answers workAnswers =
        launcher.workTick work plan (s.launcher.ticks+1) held tick answers workAnswers s.files := by
  rw [forWorkTick]
  split
  · next held tick hanswered =>
    split
    · exact Or.inl ⟨held, rfl⟩
    · next plan hplan =>
      split
      · exact Or.inr ⟨held, tick, plan, hanswered, hplan, rfl⟩
      · exact Or.inl ⟨held, rfl⟩
  · exact Or.inl ⟨_, rfl⟩

theorem runOnce_cases {manager : CoordinationManager} {answers : OnceAnswers}
    {files : ResultTree} {t : WorkTick}
    (h : launcher.runOnce work sha256 manager answers files = some t) :
    (∃ held, t = .idle held files) ∨
    ∃ s held tick plan, CoordinationManager.answered (launcher.tickProgram sha256 s)
        answers.tick.replies = (held, .tick tick) ∧
      t = launcher.workTick work plan 1 held tick answers.tick answers.work files := by
  rw [runOnce] at h
  split at h
  · cases h
  · split at h
    · next held tick hanswered =>
      split at h
      · exact Or.inl ⟨held, (Option.some.inj h).symm⟩
      · exact Or.inr ⟨_, held, tick, _, hanswered, (Option.some.inj h).symm⟩
    · exact Or.inl ⟨_, (Option.some.inj h).symm⟩

theorem leaseGated_forWorkTick (s : WorkState) (answers : TickAnswers)
    (workAnswers : WorkAnswers) :
    (launcher.forWorkTick work sha256 onTick s answers workAnswers).LeaseGated work.stateDir := by
  rcases forWorkTick_cases launcher work sha256 onTick s answers workAnswers with
    ⟨held, hidle⟩ | ⟨held, tick, plan, hanswered, -, hwork⟩
  · rw [hidle]
    exact WorkTick.leaseGated_idle _ _ _
  · rw [hwork]
    exact leaseGated_workTick _ _ (holds_of_answered hanswered) _ _ _

theorem leaseGated_runOnce {manager : CoordinationManager} {answers : OnceAnswers}
    {files : ResultTree} {t : WorkTick}
    (h : launcher.runOnce work sha256 manager answers files = some t) :
    t.LeaseGated work.stateDir := by
  rcases runOnce_cases h with ⟨held, rfl⟩ | ⟨s, held, tick, plan, hanswered, rfl⟩
  · exact WorkTick.leaseGated_idle _ _ _
  · exact leaseGated_workTick _ _ (holds_of_answered hanswered) _ _ _

theorem before_forWorkTick (s : WorkState) (answers : TickAnswers) (workAnswers : WorkAnswers) :
    (launcher.forWorkTick work sha256 onTick s answers workAnswers).before = s.files := by
  rcases forWorkTick_cases launcher work sha256 onTick s answers workAnswers with
    ⟨held, hidle⟩ | ⟨held, tick, plan, -, -, hwork⟩
  · rw [hidle, WorkTick.idle]
  · rw [hwork, workTick]
    cases workAnswers.raise <;> rfl

/-- All ticks so far are lease gated, and together they account for the result files. -/
def GatedSoFar (stateDir : PosixPath) (files : ResultTree) (s : WorkState) : Prop :=
  (∀ t ∈ s.ticks, t.LeaseGated stateDir) ∧
    ∀ path, s.files path ≠ files path → ∃ t ∈ s.ticks, t.after path ≠ t.before path

theorem gatedSoFar_workStep {files : ResultTree} {s : WorkState}
    (h : GatedSoFar work.stateDir files s) (a : TickAnswers × WorkAnswers) :
    GatedSoFar work.stateDir files (launcher.workStep work sha256 onTick s a) := by
  rw [workStep]
  split
  · exact h
  · obtain ⟨hgated, hfiles⟩ := h
    refine ⟨?_, ?_⟩
    · intro t ht
      rcases List.mem_append.mp ht with ht | ht
      · exact hgated t ht
      · rw [List.mem_singleton.mp ht]
        exact leaseGated_forWorkTick s a.1 a.2
    · intro path hpath
      by_cases hsame : s.files path = files path
      -- the path has been written to in this tick, or before
      · refine ⟨_, List.mem_append_right _ (List.mem_singleton_self _), ?_⟩
        rw [before_forWorkTick, hsame]
        exact hpath
      · obtain ⟨t, ht, hchanged⟩ := hfiles path hsame
        exact ⟨t, List.mem_append_left _ ht, hchanged⟩

/-- In every tick of every run the tests are run and their results written for one group at most,
one that is held behind the lease pass; the run id that is passed on is not empty just if they
were; and no other results are ever written. -/
theorem work_lease_gated (launcher : CmtsOrchestratorLauncher) (work : WorkSettings)
    (sha256 : List UInt8 → List UInt8) (onTick : Bool) (manager : CoordinationManager)
    (plan : InventoryPlan) (files : ResultTree) (answers : List (TickAnswers × WorkAnswers))
    (once : OnceAnswers) :
    (∀ t ∈ (exec (launcher.workStep work sha256 onTick)
        ⟨launcher.startState manager plan, files, []⟩ answers).ticks,
      t.LeaseGated work.stateDir) ∧
    (∀ path, (exec (launcher.workStep work sha256 onTick)
        ⟨launcher.startState manager plan, files, []⟩ answers).files path ≠ files path →
      ∃ t ∈ (exec (launcher.workStep work sha256 onTick)
          ⟨launcher.startState manager plan, files, []⟩ answers).ticks,
        ∃ call ∈ t.calls, call.sgId ∈ t.held ∧
          ∃ item ∈ call.items, path = WorkRunner.resultPath work.stateDir item) ∧
    ∀ t, launcher.runOnce work sha256 manager once files = some t → t.LeaseGated work.stateDir := by
  have hrun : GatedSoFar work.stateDir files (exec (launcher.workStep work sha256 onTick)
      ⟨launcher.startState manager plan, files, []⟩ answers) := by
    refine invariant_of_step (I := GatedSoFar work.stateDir files) ?_ answers ?_
    · intro s a h
      exact gatedSoFar_workStep h a
    · exact ⟨fun t ht => absurd ht List.not_mem_nil, fun path h => absurd rfl h⟩
  refine ⟨hrun.1, ?_, fun t => leaseGated_runOnce⟩
  intro path hpath
  obtain ⟨t, ht, hchanged⟩ := hrun.2 path hpath
  obtain ⟨call, hcall, hitem⟩ := (hrun.1 t ht).persisted path hchanged
  exact ⟨t, ht, call, hcall, (hrun.1 t ht).held call hcall, hitem⟩

end CmtsOrchestratorLauncher
end PypnmCmts
