import PypnmCmts.LabelledRun
import PypnmCmts.OrchestratorLauncher
import PypnmCmts.TickRules

/-! `CmtsOrchestratorLauncher.run_forever`: the ticks of the runtime and the results that are
emitted after each. -/
namespace PypnmCmts

open LabelledRun CallTree

structure ServiceGroupInventoryModel where
  sgIds : List ServiceGroupId
  count : ℕ
  source : InventorySource
deriving DecidableEq

structure CoordinationStatusModel where
  isLeader : Bool
  leaderId : LeaderId
  heldSgIds : List ServiceGroupId
  message : String
deriving DecidableEq

structure ServiceGroupLeaseConflictModel where
  sgId : ServiceGroupId
  ownerId : OwnerId
  reason : String
deriving DecidableEq

structure OrchestratorRunResultModel where
  mode : OrchestratorMode
  tickIndex : ℕ
  runId : String
  leaseHeld : Bool
  inventory : ServiceGroupInventoryModel
  coordinationTick : CoordinationTickResultModel
  enabledSgIds : List ServiceGroupId
  desiredSgIds : List ServiceGroupId
  leasedSgIds : List ServiceGroupId
  conflicts : List ServiceGroupLeaseConflictModel
  workerCount : ℕ
  coordinationStatus : CoordinationStatusModel
  leaderStatus : LeaderElectionStatusModel
  targetServiceGroups : ℕ
deriving DecidableEq

/-- What the surroundings answer in one tick: each call of the manager in turn, the two status
queries of the election, the status of any lease (its owner and message), an inventory, should one
be built, and whether the work on the result raises. -/
structure TickAnswers where
  replies : ℕ → (c : CoordinationCall) → c.Reply
  status : LeaderElectionStatusModel
  leaderStatus : LeaderElectionStatusModel
  leaseStatus : ServiceGroupId → OwnerId × String
  inventory : InventoryAnswers
  raises : Bool

/-- A result, and the target of the manager in the lease pass of its tick. -/
structure EmittedResult where
  result : OrchestratorRunResultModel
  enforced : ℕ
deriving DecidableEq

/-- The variables of `run_forever`, of its runtime and of its manager. It is no longer `running`
once an exception has come out of a tick or of its callback. -/
structure LauncherState where
  manager : CoordinationManager
  held : HeldLeases
  plan : InventoryPlan
  serviceGroups : List ServiceGroupId
  controllerInventoryInitialized : Bool
  ticks : ℕ
  emitted : List EmittedResult
  running : Bool

namespace CoordinationManager
variable (m : CoordinationManager)

/-- `status`, from what the election answers. -/
def statusOf (held : HeldLeases) (status : LeaderElectionStatusModel) : CoordinationStatusModel :=
  ⟨status.isLeader, status.leaderId, sortedHeldLeases held, status.message⟩

/-- The program, with each of its calls answered in turn. -/
def answered (program : CoordinationProgram) (replies : ℕ → (c : CoordinationCall) → c.Reply) :
    HeldLeases × CoordinationOutcome :=
  (run (fun c (rest : ℕ → (c : CoordinationCall) → c.Reply) => (rest 0 c, fun n => rest (n+1)))
    program replies).1

end CoordinationManager

namespace CmtsOrchestratorLauncher
variable (launcher : CmtsOrchestratorLauncher) (sha256 : List UInt8 → List UInt8) (onTick : Bool)

def defaultConflictReason : String := "Lease not acquired."

/-- `_build_run_id_for_sg`; the number is padded to six digits. -/
def buildRunIdForSg (sgId : ServiceGroupId) (tickIndex : ℕ) : String :=
  let digits := toString tickIndex
  "sg" ++ toString sgId ++ "_tick" ++ String.ofList (List.replicate (6-digits.length) '0') ++ digits

def buildRunId (sgIds : List ServiceGroupId) (tickIndex : ℕ) (leaseHeld : Bool) : String :=
  if !launcher.mode.isWorkerEnabled || !leaseHeld then ""
  else
    match CoordinationManager.sortedServiceGroups sgIds with
    | [] => ""
    | sgId :: _ => buildRunIdForSg sgId tickIndex

def selectWorkSgIds (acquiredSgIds heldSgIds : List ServiceGroupId) : List ServiceGroupId :=
  if acquiredSgIds ≠ [] then (CoordinationManager.sortedServiceGroups acquiredSgIds).take 1
  else (CoordinationManager.sortedServiceGroups heldSgIds).take 1

def buildConflicts (desiredSgIds leasedSgIds : List ServiceGroupId)
    (leaseStatus : ServiceGroupId → OwnerId × String) : List ServiceGroupLeaseConflictModel :=
  ((CoordinationManager.sortedServiceGroups desiredSgIds).filter (· ∉ leasedSgIds)).map fun sgId =>
    let (ownerId, message) := leaseStatus sgId
    ⟨sgId, ownerId, if message ≠ "" then message else defaultConflictReason⟩

/-- What `_emit_result` passes on, with the plan as it is then. -/
def emittedResult (plan : InventoryPlan) (tickIndex : ℕ) (held : HeldLeases)
    (tick : CoordinationTickResultModel) (answers : TickAnswers) : OrchestratorRunResultModel :=
  let coordinationStatus := CoordinationManager.statusOf held answers.status
  let acquiredSgIds := CoordinationManager.sortedServiceGroups tick.acquiredSgIds
  let heldSgIds := if launcher.mode = .controller then [] else coordinationStatus.heldSgIds
  let workSgIds := selectWorkSgIds acquiredSgIds heldSgIds
  let leaseHeld := launcher.mode.isWorkerEnabled && heldSgIds ≠ []
  { mode := launcher.mode
    tickIndex := tickIndex
    runId := launcher.buildRunId workSgIds tickIndex leaseHeld
    leaseHeld := leaseHeld
    inventory := ⟨plan.serviceGroups, plan.serviceGroups.length, plan.source⟩
    coordinationTick := tick
    enabledSgIds := CoordinationManager.sortedServiceGroups plan.serviceGroups
    desiredSgIds := CoordinationManager.sortedServiceGroups plan.desiredSgIds
    leasedSgIds := heldSgIds
    conflicts := buildConflicts plan.desiredSgIds heldSgIds answers.leaseStatus
    workerCount := plan.workerCount
    coordinationStatus := coordinationStatus
    leaderStatus := answers.leaderStatus
    targetServiceGroups := plan.effectiveTarget }

/-- The manager is built once, with the target of the first inventory. -/
def startState (manager : CoordinationManager) (plan : InventoryPlan) : LauncherState where
  manager :=
    { manager with
      targetServiceGroups := plan.effectiveTarget
      leaderEnabled := launcher.mode.isControllerEnabled }
  held := ∅
  plan := plan
  serviceGroups := plan.serviceGroups
  controllerInventoryInitialized := false
  ticks := 0
  emitted := []
  running := true

def tickProgram (s : LauncherState) : CoordinationProgram :=
  if launcher.mode = .controller then s.manager.tickLeaderOnly s.held
  else s.manager.tick sha256 s.serviceGroups s.held

/-- Whether `_emit_result` refreshes the inventory. -/
def refreshes (s : LauncherState) (answers : TickAnswers) : Bool :=
  answers.status.isLeader && !s.controllerInventoryInitialized &&
    launcher.shouldRefreshLeaderInventory

/-- The plan after the refresh of a tick, if it makes one. -/
def refreshedPlan (s : LauncherState) (answers : TickAnswers) : Except String InventoryPlan :=
  if launcher.refreshes s answers then launcher.buildInventoryAndPlan answers.inventory true
  else .ok s.plan

/-- One tick and its callback. -/
def step (s : LauncherState) (answers : TickAnswers) : LauncherState :=
  if !s.running then s
  else
    match CoordinationManager.answered (launcher.tickProgram sha256 s) answers.replies with
    | (held, .tick tick) =>
      match launcher.refreshedPlan s answers with
      | .error _ => { s with held := held, running := false }
      | .ok plan =>
        { s with
          held := held
          plan := plan
          serviceGroups :=
            if launcher.refreshes s answers then plan.serviceGroups else s.serviceGroups
          controllerInventoryInitialized :=
            s.controllerInventoryInitialized || launcher.refreshes s answers
          ticks := s.ticks+1
          emitted :=
            if onTick && !answers.raises then
              s.emitted ++ [⟨launcher.emittedResult plan (s.ticks+1) held tick answers,
                s.manager.targetServiceGroups⟩]
            else s.emitted
          -- without a callback nothing is done about a result
          running := !(onTick && answers.raises) }
    | (held, _) => { s with held := held, running := false }

/-- Every result reports the target that the manager had. -/
def ReportsEnforced (s : LauncherState) : Prop :=
  ∀ e ∈ s.emitted, e.result.targetServiceGroups = e.enforced

instance (s : LauncherState) : Decidable (ReportsEnforced s) :=
  inferInstanceAs (Decidable (∀ e ∈ s.emitted, e.result.targetServiceGroups = e.enforced))

/-- The tick, its refresh and the work on its result raise nothing, and the result is emitted. -/
def Emits (s : LauncherState) (answers : TickAnswers) : Prop :=
  onTick = true ∧ answers.raises = false ∧ s.running = true ∧
    (∃ held tick, CoordinationManager.answered (launcher.tickProgram sha256 s) answers.replies =
      (held, .tick tick)) ∧
    ∃ plan, launcher.refreshedPlan s answers = .ok plan

/-- If a result is emitted after a refresh, the inventory found leads to the same target as one of
`count` groups. -/
def RefreshKeepsTarget (count : ℕ) (s : LauncherState) (answers : TickAnswers) : Prop :=
  launcher.Emits sha256 onTick s answers → launcher.refreshes s answers = true →
    ∀ plan, launcher.buildInventoryAndPlan answers.inventory true = .ok plan →
      launcher.targetOf plan.serviceGroups.length = launcher.targetOf count

/-- The plan and the manager have the target of an inventory of `count` groups. -/
def OnTarget (count : ℕ) (s : LauncherState) : Prop :=
  s.plan.effectiveTarget = launcher.targetOf count ∧
    s.manager.targetServiceGroups = launcher.targetOf count

/-- Nothing will be emitted any more. -/
def Quiet (s : LauncherState) : Prop := onTick = false ∨ s.running = false

/-- A state from which the results to come are compared with the target of `count` groups. -/
def Steady (count : ℕ) (s : LauncherState) : Prop :=
  launcher.OnTarget count s ∨ Quiet onTick s

variable {launcher sha256 onTick}

theorem step_of_emits {s : LauncherState} {answers : TickAnswers}
    (h : launcher.Emits sha256 onTick s answers) :
    ∃ held tick plan, launcher.refreshedPlan s answers = .ok plan ∧
      (launcher.step sha256 onTick s answers).emitted = s.emitted ++
        [⟨launcher.emittedResult plan (s.ticks+1) held tick answers,
          s.manager.targetServiceGroups⟩] ∧
      (launcher.step sha256 onTick s answers).manager = s.manager ∧
      (launcher.step sha256 onTick s answers).plan = plan := by
  obtain ⟨htick, hraises, hrunning, ⟨held, tick, hreturns⟩, plan, hplan⟩ := h
  refine ⟨held, tick, plan, hplan, ?_⟩
  simp [step, hrunning, hreturns, hplan, htick, hraises]

theorem step_of_not_emits {s : LauncherState} {answers : TickAnswers}
    (h : ¬launcher.Emits sha256 onTick s answers) :
    (launcher.step sha256 onTick s answers).emitted = s.emitted ∧
    (launcher.step sha256 onTick s answers).manager = s.manager ∧
    (onTick = false ∨ (launcher.step sha256 onTick s answers).running = false) := by
  cases htick : onTick with
  | false =>
    refine ⟨?_, ?_, Or.inl rfl⟩
    · simp only [step]
      split
      · rfl
      · split
        · split
          · rfl
          · simp
        · rfl
    · simp only [step]
      split
      · rfl
      · split
        · split <;> rfl
        · rfl
  | true =>
    cases hrunning : s.running with
    | false => simp [step, hrunning]
    | true =>
      rcases hreturns : CoordinationManager.answered (launcher.tickProgram sha256 s)
        answers.replies with ⟨held, tick | all | _⟩
      · cases hplan : launcher.refreshedPlan s answers with
        | error e => simp [step, hrunning, hreturns, hplan]
        | ok plan =>
          have hraises : answers.raises = true := by
            by_contra hno
            exact h ⟨htick, Bool.eq_false_of_not_eq_true hno, hrunning, ⟨held, tick, hreturns⟩,
              plan, hplan⟩
          simp [step, hrunning, hreturns, hplan, hraises]
      · simp [step, hrunning, hreturns]
      · simp [step, hrunning, hreturns]

theorem reportsEnforced_concat {s s' : LauncherState} {e : EmittedResult}
    (h : s'.emitted = s.emitted ++ [e]) :
    ReportsEnforced s' ↔ ReportsEnforced s ∧ e.result.targetServiceGroups = e.enforced := by
  simp only [ReportsEnforced, h, List.forall_mem_append, List.forall_mem_singleton]

theorem Steady.onTarget_of_emits {count : ℕ} {s : LauncherState} {answers : TickAnswers}
    (h : launcher.Steady onTick count s) (hemits : launcher.Emits sha256 onTick s answers) :
    launcher.OnTarget count s := by
  refine h.resolve_right ?_
  rintro (hq | hq)
  · exact absurd (hemits.1.symm.trans hq) Bool.false_ne_true.symm
  · exact absurd (hemits.2.2.1.symm.trans hq) Bool.false_ne_true.symm

/-- A tick whose refresh keeps the target leaves all reports as good as they were. -/
theorem steady_step {count : ℕ} {s : LauncherState} {answers : TickAnswers}
    (h : launcher.Steady onTick count s)
    (hkeeps : launcher.RefreshKeepsTarget sha256 onTick count s answers) :
    launcher.Steady onTick count (launcher.step sha256 onTick s answers) ∧
      (ReportsEnforced (launcher.step sha256 onTick s answers) ↔ ReportsEnforced s) := by
  by_cases hemits : launcher.Emits sha256 onTick s answers
  · have htarget := h.onTarget_of_emits hemits
    obtain ⟨held, tick, plan, hplan, hemitted, hmanager, hnew⟩ := step_of_emits hemits
    have hsame : plan.effectiveTarget = launcher.targetOf count := by
      rw [refreshedPlan] at hplan
      split at hplan
      · next hrefresh =>
        rw [launcher.effectiveTarget_of_plan _ _ hplan]
        exact hkeeps hemits hrefresh plan hplan
      · cases hplan
        exact htarget.1
    refine ⟨Or.inl ⟨hnew ▸ hsame, hmanager ▸ htarget.2⟩, ?_⟩
    rw [reportsEnforced_concat hemitted]
    exact and_iff_left (hsame.trans htarget.2.symm)
  · obtain ⟨hemitted, hmanager, hquiet⟩ := step_of_not_emits hemits
    refine ⟨Or.inr hquiet, ?_⟩
    rw [ReportsEnforced, ReportsEnforced, hemitted]

/-- Any other refresh makes the launcher report what the manager does not enforce. -/
theorem not_reportsEnforced_step {count : ℕ} {s : LauncherState} {answers : TickAnswers}
    (h : launcher.Steady onTick count s)
    (hkeeps : ¬launcher.RefreshKeepsTarget sha256 onTick count s answers) :
    ¬ReportsEnforced (launcher.step sha256 onTick s answers) := by
  simp only [RefreshKeepsTarget, not_forall] at hkeeps
  obtain ⟨hemits, hrefresh, plan, hplan, hother⟩ := hkeeps
  have htarget := h.onTarget_of_emits hemits
  obtain ⟨held, tick, plan', hplan', hemitted, -, -⟩ := step_of_emits hemits
  rw [refreshedPlan, if_pos hrefresh, hplan] at hplan'
  cases hplan'
  intro hreports
  have hlast := ((reportsEnforced_concat hemitted).mp hreports).2
  rw [launcher.effectiveTarget_of_plan _ _ hplan |>.symm] at hother
  exact hother (hlast.trans htarget.2)

theorem reportsEnforced_of_step {s : LauncherState} {answers : TickAnswers}
    (h : ReportsEnforced (launcher.step sha256 onTick s answers)) : ReportsEnforced s := by
  by_cases hemits : launcher.Emits sha256 onTick s answers
  · obtain ⟨held, tick, plan, -, hemitted, -, -⟩ := step_of_emits hemits
    exact ((reportsEnforced_concat hemitted).mp h).1
  · rwa [ReportsEnforced, (step_of_not_emits hemits).1] at h

theorem reportsEnforced_of_exec {s : LauncherState} {ticks : List TickAnswers}
    (h : ReportsEnforced (exec (launcher.step sha256 onTick) s ticks)) : ReportsEnforced s := by
  induction ticks generalizing s with
  | nil => exact h
  | cons answers rest ih => exact reportsEnforced_of_step (ih h)

theorem reportsEnforced_iff {count : ℕ} {s : LauncherState} (h : launcher.Steady onTick count s)
    (ticks : List TickAnswers) :
    ReportsEnforced (exec (launcher.step sha256 onTick) s ticks) ↔
      ReportsEnforced s ∧ Guarded (launcher.step sha256 onTick)
        (launcher.RefreshKeepsTarget sha256 onTick count) s ticks := by
  induction ticks generalizing s with
  | nil => exact (and_iff_left trivial).symm
  | cons answers rest ih =>
    by_cases hkeeps : launcher.RefreshKeepsTarget sha256 onTick count s answers
    · obtain ⟨hsteady, hsame⟩ := steady_step h hkeeps
      rw [exec_cons, ih hsteady, hsame]
      exact and_congr_right fun _ => (and_iff_right hkeeps).symm
    · constructor
      · intro hreports
        rw [exec_cons] at hreports
        exact absurd (reportsEnforced_of_exec hreports) (not_reportsEnforced_step h hkeeps)
      · intro hall
        exact absurd hall.2.1 hkeeps

/-- In a mode with the lease pass all results of a run report the target that the manager enforces
just when every refresh of the run finds an inventory with the target of the first one. -/
theorem reported_target_enforced_iff (launcher : CmtsOrchestratorLauncher)
    (sha256 : List UInt8 → List UInt8) (onTick : Bool) (manager : CoordinationManager)
    (answers : InventoryAnswers) (plan : InventoryPlan)
    (hplan : launcher.buildInventoryAndPlan answers false = .ok plan) (ticks : List TickAnswers) :
    ReportsEnforced
        (exec (launcher.step sha256 onTick) (launcher.startState manager plan) ticks) ↔
      Guarded (launcher.step sha256 onTick)
        (launcher.RefreshKeepsTarget sha256 onTick plan.serviceGroups.length)
        (launcher.startState manager plan) ticks := by
  have htarget := launcher.effectiveTarget_of_plan _ _ hplan
  rw [reportsEnforced_iff (Or.inl ⟨htarget, htarget⟩)]
  refine and_iff_right ?_
  intro e he
  exact absurd he List.not_mem_nil

/-- The groups 1 and 2 are configured, and all of them are wanted. -/
def configuredLauncher : CmtsOrchestratorLauncher where
  mode := .combined
  sgId := none
  settings := ⟨[⟨1, true⟩, ⟨2, true⟩], false, "", 0, .sequential, 0⟩

/-- Two groups are wanted of those that the CMTS turns out to have. -/
def discoveringLauncher : CmtsOrchestratorLauncher where
  mode := .combined
  sgId := none
  settings := ⟨[], true, "cmts", 2, .sequential, 0⟩

def soloManager : CoordinationManager where
  stateDir := "state"
  electionName := "net"
  ownerId := "a"
  leaseTtlSeconds := 10
  targetServiceGroups := 0
  shardMode := .sequential
  leaderEnabled := true
  leaderElection := ⟨"state", "net", "a", 10, none, CoordinationManager.net_nonempty,
    CoordinationManager.a_nonempty, CoordinationManager.one_le_ten⟩
  electionName_nonempty := CoordinationManager.strip_net_nonempty
  ownerId_nonempty := CoordinationManager.strip_a_nonempty
  leaseTtlSeconds_pos := CoordinationManager.one_le_ten

def leaderStatus : LeaderElectionStatusModel :=
  ⟨"net", true, "a", 0, 10, 10, "state/net.json", "Leader record present."⟩

/-- The election makes the caller the leader, all leases are granted and the CMTS has the groups
1 and 2. -/
def leaderAnswers : TickAnswers where
  replies
    | _, .leaderTryAcquire => some ⟨true, true, "a", 0, 10, 10, "Leadership acquired."⟩
    | _, .leaderRenew => some ⟨true, true, "a", 0, 10, 10, "Leadership renewed."⟩
    | _, .leaderRelease => ⟨true, false, "", "Leadership released."⟩
    | _, .leaderStatus => leaderStatus
    | _, .leaseTryAcquire sgId => ⟨true, true, sgId, "a", 0, 10, 10, "Lease acquired."⟩
    | _, .leaseRenew sgId => ⟨true, true, sgId, "a", 0, 10, 10, "Lease renewed."⟩
    | _, .leaseRelease sgId => ⟨true, false, sgId, "", "Lease released."⟩
  status := leaderStatus
  leaderStatus := leaderStatus
  leaseStatus _ := ("", "No active lease.")
  inventory := ⟨.absent, .ok [1, 2], .ok ()⟩
  raises := false

/-- With configured groups the refresh changes nothing. -/
theorem reported_target_enforced_configured :
    ReportsEnforced (exec (configuredLauncher.step id true)
      (configuredLauncher.startState soloManager ⟨[1, 2], .config, [1, 2], 2, 2⟩)
      [leaderAnswers, leaderAnswers]) :=
  (reported_target_enforced_iff configuredLauncher id true soloManager leaderAnswers.inventory _
    (by rfl) _).mpr (guarded_true (fun _ _ _ _ _ _ => rfl) _ _)

/-- Nothing is known of the groups at the start, so that the manager is to hold none. The leader
finds two, reports a target of two and holds none. -/
theorem discovered_target_not_enforced :
    discoveringLauncher.buildInventoryAndPlan leaderAnswers.inventory false =
      .ok ⟨[], .config, [], 0, 0⟩ ∧
    (exec (discoveringLauncher.step id true)
      (discoveringLauncher.startState soloManager ⟨[], .config, [], 0, 0⟩)
      [leaderAnswers, leaderAnswers]).emitted.map
        (fun e => (e.result.targetServiceGroups, e.enforced, e.result.leasedSgIds)) =
      [(2, 0, []), (2, 0, [])] ∧
    ¬ReportsEnforced (exec (discoveringLauncher.step id true)
      (discoveringLauncher.startState soloManager ⟨[], .config, [], 0, 0⟩)
      [leaderAnswers, leaderAnswers]) := by
  refine ⟨by decide +kernel, by decide +kernel, by decide +kernel⟩

end CmtsOrchestratorLauncher
end PypnmCmts
