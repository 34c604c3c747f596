import Mathlib.Algebra.Field.Rat

/-! `support/worker_guard.py`: the restart governor of long-running workers. -/
namespace PypnmCmts

/-- Runtime facts used to decide whether a worker should be restarted. -/
structure WorkerGuardObservationModel where
  workerName : String := ""
  nowEpoch : ℚ := 0
  rssBytes : Option ℕ := none
  consecutiveErrorCycles : ℕ := 0

structure WorkerGuardDecisionModel where
  restartRequired : Bool := false
  reasons : List String := []
deriving DecidableEq

structure WorkerGuardController where
  minRestartIntervalSeconds : ℕ
  maxRestartsPerWindow : ℕ
  restartWindowSeconds : ℕ
  /-- The times of the restarts on the monotonic clock, the oldest first. -/
  restartTimes : List ℚ

namespace WorkerGuardController

/-- The constructor, with its bounds on the limits. -/
def create (minRestartIntervalSeconds maxRestartsPerWindow : ℤ)
    (restartWindowSeconds : ℤ) : WorkerGuardController where
  minRestartIntervalSeconds := (max 0 minRestartIntervalSeconds).toNat
  maxRestartsPerWindow := (max 1 maxRestartsPerWindow).toNat
  restartWindowSeconds := (max 1 restartWindowSeconds).toNat
  restartTimes := []

def pruneRestartTimes (controller : WorkerGuardController) (nowMonotonic : ℚ) :
    WorkerGuardController :=
  let windowStart := nowMonotonic-controller.restartWindowSeconds
  { controller with restartTimes := controller.restartTimes.dropWhile fun t => t < windowStart }

/-- Why a restart is suppressed now, if it is. -/
def gateReason (controller : WorkerGuardController) (nowMonotonic : ℚ) :
    Option String × WorkerGuardController :=
  let controller := controller.pruneRestartTimes nowMonotonic
  let tooSoon := match controller.restartTimes.getLast? with
    | some last => decide (nowMonotonic-last < controller.minRestartIntervalSeconds)
    | none => false
  let reason :=
    if tooSoon then some ("restart suppressed by min_restart_interval_seconds=" ++
      toString controller.minRestartIntervalSeconds)
    else if controller.maxRestartsPerWindow ≤ controller.restartTimes.length then
      some ("restart suppressed by max_restarts_per_window=" ++
        toString controller.maxRestartsPerWindow ++ " over " ++
        toString controller.restartWindowSeconds ++ "s")
    else none
  (reason, controller)

/-- The thresholds that an observation crosses. -/
def thresholdReasons (observation : WorkerGuardObservationModel)
    (rssRestartThresholdBytes maxConsecutiveErrorCycles : Option ℕ) : List String :=
  (match rssRestartThresholdBytes, observation.rssBytes with
    | some threshold, some rssBytes =>
      if 0 < threshold ∧ threshold ≤ rssBytes then
        ["rss_bytes=" ++ toString rssBytes ++ " exceeded threshold_bytes=" ++ toString threshold]
      else []
    | _, _ => []) ++
  (match maxConsecutiveErrorCycles with
    | some limit =>
      if 0 < limit ∧ limit ≤ observation.consecutiveErrorCycles then
        ["consecutive_error_cycles=" ++ toString observation.consecutiveErrorCycles ++
          " exceeded limit=" ++ toString limit]
      else []
    | none => [])

/-- Return whether the current worker should be restarted. -/
def evaluate (controller : WorkerGuardController) (observation : WorkerGuardObservationModel)
    (rssRestartThresholdBytes maxConsecutiveErrorCycles : Option ℕ) (nowMonotonic : ℚ) :
    WorkerGuardDecisionModel × WorkerGuardController :=
  let reasons := thresholdReasons observation rssRestartThresholdBytes maxConsecutiveErrorCycles
  if reasons = [] then ({}, controller)
  else match controller.gateReason nowMonotonic with
    | (some gate, controller) => ({ restartRequired := false, reasons := reasons ++ [gate] },
        controller)
    | (none, controller) => ({ restartRequired := true, reasons }, controller)

/-- Record a restart event for future rate-limiting decisions. -/
def recordRestart (controller : WorkerGuardController) (nowMonotonic : ℚ) :
    WorkerGuardController :=
  let controller := controller.pruneRestartTimes nowMonotonic
  { controller with restartTimes := controller.restartTimes ++ [nowMonotonic] }

theorem pruneRestartTimes_suffix (controller : WorkerGuardController) (nowMonotonic : ℚ) :
    (controller.pruneRestartTimes nowMonotonic).restartTimes <:+ controller.restartTimes :=
  List.dropWhile_suffix _

/-- A controller that has seen no restart suppresses none. -/
theorem gateReason_of_fresh {controller : WorkerGuardController} (nowMonotonic : ℚ)
    (hfresh : controller.restartTimes = []) (hmax : 0 < controller.maxRestartsPerWindow) :
    controller.gateReason nowMonotonic = (none, controller) := by
  have hprune : controller.pruneRestartTimes nowMonotonic = controller := by
    rw [pruneRestartTimes, hfresh, List.dropWhile_nil, ← hfresh]
  simp only [gateReason, hprune, hfresh, List.getLast?_nil, List.length_nil]
  rw [if_neg Bool.false_ne_true, if_neg (Nat.not_le.mpr hmax)]

theorem gateReason_snd (controller : WorkerGuardController) (nowMonotonic : ℚ) :
    (controller.gateReason nowMonotonic).2 = controller.pruneRestartTimes nowMonotonic := rfl

/-- A restart is allowed that is no sooner after the last one that is remembered than the interval,
while fewer than the maximum are remembered. -/
theorem gateReason_eq_none_iff {controller : WorkerGuardController} {nowMonotonic : ℚ} :
    (controller.gateReason nowMonotonic).1 = none ↔
      (controller.pruneRestartTimes nowMonotonic).restartTimes.length <
        controller.maxRestartsPerWindow ∧
      ∀ last ∈ (controller.pruneRestartTimes nowMonotonic).restartTimes.getLast?,
        (controller.minRestartIntervalSeconds : ℚ) ≤ nowMonotonic-last := by
  dsimp only [gateReason]
  cases hlast : (controller.pruneRestartTimes nowMonotonic).restartTimes.getLast? with
  | none =>
    rw [if_neg Bool.false_ne_true, ite_eq_right_iff]
    simp [pruneRestartTimes]
  | some last =>
    by_cases hsoon : nowMonotonic-last < controller.minRestartIntervalSeconds
    · simp [pruneRestartTimes, hsoon]
    · simp [pruneRestartTimes, hsoon, not_lt.mp hsoon]

/-- What a call remembers afterwards: it prunes the times, or it reads no clock. -/
theorem evaluate_snd (controller : WorkerGuardController)
    (observation : WorkerGuardObservationModel)
    (rssRestartThresholdBytes maxConsecutiveErrorCycles : Option ℕ) (nowMonotonic : ℚ) :
    (controller.evaluate observation rssRestartThresholdBytes maxConsecutiveErrorCycles
      nowMonotonic).2 = controller ∨
    (controller.evaluate observation rssRestartThresholdBytes maxConsecutiveErrorCycles
      nowMonotonic).2 = controller.pruneRestartTimes nowMonotonic := by
  rw [evaluate]
  split
  · exact Or.inl rfl
  · split <;> next hgate => exact Or.inr (by rw [← gateReason_snd, hgate])

theorem evaluate_restartRequired_iff {controller : WorkerGuardController}
    {observation : WorkerGuardObservationModel}
    {rssRestartThresholdBytes maxConsecutiveErrorCycles : Option ℕ} {nowMonotonic : ℚ} :
    (controller.evaluate observation rssRestartThresholdBytes maxConsecutiveErrorCycles
      nowMonotonic).1.restartRequired = true ↔
    thresholdReasons observation rssRestartThresholdBytes maxConsecutiveErrorCycles ≠ [] ∧
      (controller.gateReason nowMonotonic).1 = none := by
  rw [evaluate]
  split
  · next hreasons => simp [hreasons]
  · next hreasons => split <;> next hgate => simp [hreasons, hgate]

end WorkerGuardController
end PypnmCmts
