import Mathlib.Data.List.Sort
import PypnmCmts.OperationStore

/-! `api/common/operations/runner.py`: the functions the runner's loop is built from. -/
namespace PypnmCmts

/-- Result payload returned by the per-modem worker. -/
structure OperationWorkerResultModel where
  ipAddress : Option InetAddressStr := none
  stages : List OperationStageResultModel := []
deriving DecidableEq

structure OperationWorkItemModel where
  operationId : PnmCaptureOperationId
  sgId : ServiceGroupId
  macAddress : MacAddressStr
  attempt : ℕ := 0
deriving DecidableEq

namespace OperationRunner

def defaultOverallTimeoutMessage : String := "overall timeout exceeded"
def defaultPerModemTimeoutMessage : String := "per-modem timeout exceeded"

def findStage (result : OperationWorkerResultModel) (stage : OperationStage) :
    Option OperationStageResultModel :=
  result.stages.find? fun stageResult => stageResult.stage = stage

def finalStatusCode (result : OperationWorkerResultModel) : ServiceStatusCode :=
  match findStage result .capture with
  | some capture => capture.statusCode
  | none =>
    match findStage result .precheck with
    | some precheck => precheck.statusCode
    | none =>
      match findStage result .eligibility with
      | some eligibility => eligibility.statusCode
      | none => .failure

/-- `stage is not None and stage.status_code == SUCCESS`. -/
def stagePassed (result : OperationWorkerResultModel) (stage : OperationStage) : Bool :=
  (findStage result stage).any fun stageResult => stageResult.statusCode = .success

def updateCounters (state : OperationStateModel) (result : OperationWorkerResultModel) :
    OperationStateModel :=
  let counters := state.counters
  let counters := if stagePassed result .eligibility then
    { counters with eligibleModems := counters.eligibleModems+1 } else counters
  let counters := if stagePassed result .precheck then
    { counters with precheckPassed := counters.precheckPassed+1 } else counters
  let counters := if (findStage result .capture).isSome then
    { counters with captureStarted := counters.captureStarted+1 } else counters
  let counters := { counters with completed := counters.completed+1 }
  let counters := if finalStatusCode result = .success then
    { counters with success := counters.success+1 }
    else { counters with failed := counters.failed+1 }
  { state with counters := counters }

def buildStageResults (statusCode : ServiceStatusCode) (message : String)
    (startedEpoch finishedEpoch : TimestampSec) (captureOnly : Bool)
    (failureReason : Option PnmCaptureFailureReason) : List OperationStageResultModel :=
  let captureResult : OperationStageResultModel :=
    { stage := .capture, statusCode, failureReason, message, startedEpoch, finishedEpoch }
  if captureOnly then
    [{ stage := .eligibility, statusCode := .success, startedEpoch, finishedEpoch },
      { stage := .precheck, statusCode := .success, startedEpoch, finishedEpoch },
      captureResult]
  else
    [{ stage := .eligibility, statusCode, failureReason, message, startedEpoch, finishedEpoch },
      { stage := .precheck, statusCode, failureReason, message, startedEpoch, finishedEpoch },
      captureResult]

/-- `measurementTimeout` is the member MEASUREMENT_TIMEOUT of the package's enumeration, where
it has one. -/
def timeoutResult (measurementTimeout : Option ServiceStatusCode) (nowEpoch : TimestampSec) :
    OperationWorkerResultModel where
  stages := buildStageResults (measurementTimeout.getD .failure) defaultPerModemTimeoutMessage
    nowEpoch nowEpoch true (some .perModemTimeout)

def failureResult (message : String) (nowEpoch : TimestampSec) : OperationWorkerResultModel where
  stages := buildStageResults .failure message nowEpoch nowEpoch true (some .unknown)

def finishTimestamps (nowEpoch : TimestampSec) (timestamps : OperationTimestampsModel) :
    OperationTimestampsModel :=
  { timestamps with updatedEpoch := nowEpoch, finishedEpoch := nowEpoch }

def touchTimestamp (nowEpoch : TimestampSec) (timestamps : OperationTimestampsModel) :
    OperationTimestampsModel :=
  { timestamps with updatedEpoch := nowEpoch }

def touched (nowEpoch : TimestampSec) (state : OperationStateModel) : OperationStateModel :=
  { state with timestamps := touchTimestamp nowEpoch state.timestamps }

def transitionToRunning (nowEpoch : TimestampSec) (state : OperationStateModel) :
    OperationStateModel :=
  let timestamps := state.timestamps
  let timestamps := if timestamps.startedEpoch = 0 then
    { timestamps with startedEpoch := nowEpoch } else timestamps
  { state with state := .running, timestamps := touchTimestamp nowEpoch timestamps }

/-- The copy that `_mark_completed` saves. -/
def markCompleted (nowEpoch : TimestampSec) (state : OperationStateModel) (countersTotal : ℕ) :
    OperationStateModel :=
  { state with
    state := .completed
    counters := { state.counters with totalModems := countersTotal }
    timestamps := finishTimestamps nowEpoch state.timestamps
    errorSummary := none }

/-- The copy that `_mark_cancelled` saves. -/
def markCancelled (nowEpoch : TimestampSec) (state : OperationStateModel) : OperationStateModel :=
  { state with
    state := .cancelled
    timestamps := finishTimestamps nowEpoch state.timestamps
    errorSummary := none }

/-- The copy that `_mark_failed` saves. -/
def markFailed (nowEpoch : TimestampSec) (message : String) (state : OperationStateModel) :
    OperationStateModel :=
  { state with
    state := .failed
    timestamps := finishTimestamps nowEpoch state.timestamps
    errorSummary := some { message, detail := "" } }

/-- The copy saved once the loop has ended. -/
def terminalCopy (nowEpoch : TimestampSec) (state : OperationStateModel) : OperationStateModel :=
  { state with
    state := if 0 < state.counters.failed then .failed else .completed
    timestamps := finishTimestamps nowEpoch state.timestamps
    errorSummary := none }

def withTotalModems (totalModems : ℕ) (state : OperationStateModel) : OperationStateModel :=
  { state with counters := { state.counters with totalModems } }

/-- The record of one stage that `_persist_stage_records` appends. -/
def stageRecord (operationId : PnmCaptureOperationId) (item : OperationWorkItemModel)
    (ipAddress : Option InetAddressStr) (stageResult : OperationStageResultModel) :
    PerModemLinkageRecordModel where
  pnmCaptureOperationId := operationId
  sgId := item.sgId
  macAddress := item.macAddress
  ipAddress := ipAddress
  stage := stageResult.stage
  statusCode := stageResult.statusCode
  failureReason := stageResult.failureReason
  channelId := stageResult.channelId
  transactionIds := stageResult.transactionIds
  filenames := stageResult.filenames
  startedEpoch := stageResult.startedEpoch
  finishedEpoch := stageResult.finishedEpoch
  message := stageResult.message

/-- Round robin: the work item of a MAC address takes the group at its index, modulo the
number of groups. -/
def buildWorkItems (operationId : PnmCaptureOperationId) (macs : List MacAddressStr)
    (sgIds : List ServiceGroupId) : List OperationWorkItemModel :=
  macs.mapIdx fun index mac =>
    { operationId, sgId := sgIds.getD (index%sgIds.length) 0, macAddress := mac, attempt := 0 }

@[simp] theorem length_buildWorkItems (operationId : PnmCaptureOperationId)
    (macs : List MacAddressStr) (sgIds : List ServiceGroupId) :
    (buildWorkItems operationId macs sgIds).length = macs.length := List.length_mapIdx

/-- What `_update_counters` does to the three counters that tell how many items are done. -/
theorem updateCounters_tally (state : OperationStateModel) (result : OperationWorkerResultModel) :
    (updateCounters state result).counters.completed = state.counters.completed+1 ∧
    (updateCounters state result).counters.success =
      state.counters.success+(if finalStatusCode result = .success then 1 else 0) ∧
    (updateCounters state result).counters.failed =
      state.counters.failed+(if finalStatusCode result = .success then 0 else 1) ∧
    (updateCounters state result).counters.totalModems = state.counters.totalModems := by
  unfold updateCounters
  dsimp only
  -- the first three updates leave the four counters alone
  split_ifs <;> exact ⟨rfl, rfl, rfl, rfl⟩

theorem terminalCopy_isTerminal (nowEpoch : TimestampSec) (state : OperationStateModel) :
    OperationStore.isTerminalState (terminalCopy nowEpoch state).state = true := by
  rw [OperationStore.isTerminalState_iff, terminalCopy]
  dsimp only
  split
  · exact .inr (.inl rfl)
  · exact .inl rfl

/-- Results the runner makes itself carry all three stages, so they count as captures. -/
theorem finalStatusCode_buildStageResults (statusCode : ServiceStatusCode) (message : String)
    (startedEpoch finishedEpoch : TimestampSec) (captureOnly : Bool)
    (failureReason : Option PnmCaptureFailureReason) (ipAddress : Option InetAddressStr) :
    finalStatusCode ⟨ipAddress, buildStageResults statusCode message startedEpoch finishedEpoch
      captureOnly failureReason⟩ = statusCode := by
  cases captureOnly <;> rfl

end OperationRunner
end PypnmCmts
