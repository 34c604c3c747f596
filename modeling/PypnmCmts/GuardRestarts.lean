import PypnmCmts.LabelledRun
import PypnmCmts.SgwManager
import PypnmCmts.WorkerGuard

/-! The guard restarts of the background refresh loop in `sgw/runtime_state.py`. The loop builds
its guard controller anew after each restart, so no restart is ever held back by an earlier
one. -/
namespace PypnmCmts

/-- Runtime startup status for SGW discovery and priming. -/
structure SgwStartupStatusModel where
  startupCompleted : Bool := false
  discoveryOk : Bool := false
  discoveredSgIds : List ServiceGroupId := []
  lastRefreshEpoch : Option TimestampSec := none
  errorMessage : String := ""
  primeFailed : Bool := false
  guardRestartCount : ℕ := 0
  lastGuardReason : String := ""
  lastGuardRestartEpoch : Option TimestampSec := none
deriving DecidableEq

/-- What the loop sees after a cycle: the cycle's result, the memory sample, the readings of the
monotonic clock and whether the manager could be cloned. -/
structure CycleSample where
  result : SgwRefreshResultModel := {}
  rssBytes : Option ℕ := none
  evaluatedAt : ℚ
  recordedAt : ℚ
  cloned : Bool := true

/-- The loop's own variables, the status it writes and the times of its restarts. -/
structure GuardedLoop where
  status : SgwStartupStatusModel
  guardController : Option WorkerGuardController
  consecutiveErrorCycles : ℕ := 0
  restartTimes : List ℚ := []

namespace GuardedLoop

/-- Normalize epoch-like values to whole seconds. -/
def normalizeEpochSeconds (value : ℚ) : TimestampSec := value.floor.toNat

def buildGuardController (settings : SgwWorkerGuardSettings) : Option WorkerGuardController :=
  if settings.enabled = false then none
  else some (.create settings.minRestartIntervalSeconds settings.maxRestartsPerHour 3600)

def rssThresholdBytes (settings : SgwWorkerGuardSettings) : Option ℕ :=
  if 0 < settings.rssRestartThresholdMb then some (settings.rssRestartThresholdMb*1024*1024)
  else none

/-- What the guard is shown of a cycle. -/
def observation (sample : CycleSample) (consecutiveErrorCycles : ℕ) :
    WorkerGuardObservationModel where
  workerName := "sgw-refresh"
  nowEpoch := normalizeEpochSeconds sample.result.snapshotTimeEpoch
  rssBytes := sample.rssBytes
  consecutiveErrorCycles := consecutiveErrorCycles

def evaluateGuardDecision (settings : SgwWorkerGuardSettings)
    (controller : Option WorkerGuardController) (sample : CycleSample)
    (consecutiveErrorCycles : ℕ) :
    Option WorkerGuardDecisionModel × Option WorkerGuardController :=
  match controller with
  | none => (none, none)
  | some controller =>
    if settings.enabled = false then (none, some controller)
    else
      let (decision, controller) := controller.evaluate (observation sample consecutiveErrorCycles)
        (rssThresholdBytes settings) (some settings.maxConsecutiveErrorCycles) sample.evaluatedAt
      (if decision.restartRequired = false then none else some decision, some controller)

/-- The status after a restart. -/
def restartSgwRuntimeManager (status : SgwStartupStatusModel) (nowEpoch : TimestampSec)
    (reason : String) : SgwStartupStatusModel :=
  { status with
    lastRefreshEpoch := some nowEpoch
    guardRestartCount := status.guardRestartCount+1
    lastGuardReason := String.ofList ((PyText.strip reason).toList.take sgwLastErrorMaxLength)
    lastGuardRestartEpoch := some nowEpoch }

def countErrors (sample : CycleSample) (consecutiveErrorCycles : ℕ) : ℕ :=
  if sample.result.errors = [] then 0 else consecutiveErrorCycles+1

/-- What the loop does after each cycle. The new manager has the settings of the old one. -/
def afterCycle (settings : SgwWorkerGuardSettings) (loop : GuardedLoop) (sample : CycleSample) :
    GuardedLoop :=
  let nowEpoch := normalizeEpochSeconds sample.result.snapshotTimeEpoch
  let status := { loop.status with lastRefreshEpoch := some nowEpoch }
  let consecutiveErrorCycles := countErrors sample loop.consecutiveErrorCycles
  match evaluateGuardDecision settings loop.guardController sample consecutiveErrorCycles with
  | (none, guardController) => { loop with status, guardController, consecutiveErrorCycles }
  | (some decision, guardController) =>
    if sample.cloned = false then { loop with status, guardController, consecutiveErrorCycles }
    else
      -- `record_restart` goes to the controller that the next line replaces
      let _recorded := guardController.map fun c => c.recordRestart sample.recordedAt
      { status := restartSgwRuntimeManager status nowEpoch ("; ".intercalate decision.reasons)
        guardController := buildGuardController settings
        consecutiveErrorCycles := 0
        restartTimes := loop.restartTimes ++ [sample.recordedAt] }

def start (settings : SgwWorkerGuardSettings) (status : SgwStartupStatusModel) : GuardedLoop where
  status := status
  guardController := buildGuardController settings

/-- The loop after a run of cycles. -/
def run (settings : SgwWorkerGuardSettings) (status : SgwStartupStatusModel)
    (samples : List CycleSample) : GuardedLoop :=
  LabelledRun.exec (afterCycle settings) (start settings status) samples

/-- The guard is on and a threshold is crossed. -/
def crosses (settings : SgwWorkerGuardSettings) (sample : CycleSample)
    (consecutiveErrorCycles : ℕ) : Bool :=
  settings.enabled &&
    WorkerGuardController.thresholdReasons (observation sample consecutiveErrorCycles)
      (rssThresholdBytes settings) (some settings.maxConsecutiveErrorCycles) ≠ []

/-- The times at which a threshold is crossed, when the errors are counted from the last
crossing on. -/
def crossings (settings : SgwWorkerGuardSettings) : ℕ → List CycleSample → List ℚ
  | _, [] => []
  | n, sample :: samples =>
    let errors := countErrors sample n
    if crosses settings sample errors = true ∧ sample.cloned = true then
      sample.recordedAt :: crossings settings 0 samples
    else crossings settings errors samples

/-- Consecutive times keep the minimal interval, and no window of an hour holds too many. -/
def RateLimited (settings : SgwWorkerGuardSettings) (times : List ℚ) : Prop :=
  times.IsChain (fun t t' => (settings.minRestartIntervalSeconds : ℚ) ≤ t'-t) ∧
    ∀ start : ℚ, (times.filter fun t => start ≤ t ∧ t ≤ start+3600).length ≤
      settings.maxRestartsPerHour

section Run
variable {settings : SgwWorkerGuardSettings} {loop : GuardedLoop}

/-- A decision of a fresh controller is about the thresholds alone. -/
theorem evaluateGuardDecision_fresh (settings : SgwWorkerGuardSettings) (sample : CycleSample)
    (n : ℕ) :
    ∃ decision, evaluateGuardDecision settings (buildGuardController settings) sample n =
      (decision, buildGuardController settings) ∧
      (decision.isSome = crosses settings sample n) := by
  unfold evaluateGuardDecision buildGuardController crosses
  by_cases henabled : settings.enabled = false
  · rw [if_pos henabled]
    exact ⟨none, rfl, by simp [henabled]⟩
  · rw [if_neg henabled]
    simp only [if_neg henabled, Bool.not_eq_false] at henabled ⊢
    have hmax : 0 < (WorkerGuardController.create settings.minRestartIntervalSeconds
        settings.maxRestartsPerHour 3600).maxRestartsPerWindow := by
      have hpos := settings.restarts_pos
      simp only [WorkerGuardController.create]
      omega
    have hgate := WorkerGuardController.gateReason_of_fresh sample.evaluatedAt rfl hmax
    simp only [WorkerGuardController.evaluate, hgate]
    by_cases hreasons : WorkerGuardController.thresholdReasons (observation sample n)
        (rssThresholdBytes settings) (some settings.maxConsecutiveErrorCycles) = []
    · exact ⟨none, by simp [hreasons], by simp [hreasons]⟩
    · exact ⟨some _, by simp only [if_neg hreasons]; rfl, by simp [hreasons, henabled]⟩

/-- After each cycle the controller is as good as new, and a crossing has been a restart. -/
theorem afterCycle_spec (hfresh : loop.guardController = buildGuardController settings)
    (sample : CycleSample) :
    let after := afterCycle settings loop sample
    let n := countErrors sample loop.consecutiveErrorCycles
    after.guardController = buildGuardController settings ∧
      if crosses settings sample n = true ∧ sample.cloned = true then
        after.restartTimes = loop.restartTimes ++ [sample.recordedAt] ∧
          after.consecutiveErrorCycles = 0
      else after.restartTimes = loop.restartTimes ∧ after.consecutiveErrorCycles = n := by
  obtain ⟨decision, hdecision, hcross⟩ := evaluateGuardDecision_fresh settings sample
    (countErrors sample loop.consecutiveErrorCycles)
  simp only [afterCycle, hfresh, hdecision, ← hcross]
  cases decision with
  | none => simp
  | some decision =>
    by_cases hcloned : sample.cloned = false
    · simp [hcloned]
    · simp [hcloned]

theorem restartTimes_exec (hfresh : loop.guardController = buildGuardController settings)
    (samples : List CycleSample) :
    (LabelledRun.exec (afterCycle settings) loop samples).restartTimes =
      loop.restartTimes ++ crossings settings loop.consecutiveErrorCycles samples := by
  induction samples generalizing loop with
  | nil => rw [LabelledRun.exec_nil, crossings, List.append_nil]
  | cons sample samples ih =>
    obtain ⟨hfresh', hspec⟩ := afterCycle_spec hfresh sample
    rw [LabelledRun.exec_cons, ih hfresh', crossings]
    split at hspec
    next hcross =>
      rw [hspec.1, hspec.2, if_pos hcross, List.append_assoc, List.singleton_append]
    next hcross => rw [hspec.1, hspec.2, if_neg hcross]

end Run

/-- The restarts keep the limits exactly if the crossings of the thresholds do so by
themselves: nothing limits their rate. -/
theorem guard_restarts_limited_iff (settings : SgwWorkerGuardSettings)
    (status : SgwStartupStatusModel) (samples : List CycleSample) :
    RateLimited settings (run settings status samples).restartTimes ↔
      RateLimited settings (crossings settings 0 samples) := by
  have htimes : (run settings status samples).restartTimes = crossings settings 0 samples :=
    restartTimes_exec rfl samples
  rw [htimes]

/-- The memory stays above the threshold over two cycles, one second apart. -/
theorem guard_restarts_one_second_apart :
    ¬ RateLimited .default (run .default {}
      [{ rssBytes := some 2000000000, evaluatedAt := 100, recordedAt := 100 },
       { rssBytes := some 2000000000, evaluatedAt := 101, recordedAt := 101 }]).restartTimes := by
  have htimes : (run .default {}
      [{ rssBytes := some 2000000000, evaluatedAt := 100, recordedAt := 100 },
       { rssBytes := some 2000000000, evaluatedAt := 101, recordedAt := 101 }]).restartTimes =
      [100, 101] := by decide +kernel
  rw [htimes]
  rintro ⟨hchain, -⟩
  have hinterval := (List.isChain_cons_cons.mp hchain).1
  exact absurd hinterval (by decide +kernel)

end GuardedLoop
end PypnmCmts
