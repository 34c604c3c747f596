import Mathlib.Algebra.Field.Rat
import PypnmCmts.ServiceGroupLease

/-! `api/common/operations/models.py` and the enumerations of `lib/constants.py` that its
models use. Second-valued floats are rationals. -/
namespace PypnmCmts

abbrev PnmCaptureOperationId := String
abbrev MacAddressStr := String
abbrev InetAddressStr := String
abbrev FileNameStr := String
abbrev TransactionId := String
abbrev ChannelId := ℕ
abbrev TimestampSec := ℕ

inductive OperationState
  | queued | running | completed | failed | cancelling | cancelled
deriving DecidableEq, Repr

inductive OperationStage
  | eligibility | precheck | capture
deriving DecidableEq

inductive PnmCaptureFailureReason
  | perModemTimeout | overallTimeout | httpError | pypnmError | requestError | unknown
deriving DecidableEq

/-- The status codes of the PyPNM package: the two members the runner names, and the rest. -/
inductive ServiceStatusCode
  | success | failure | other (code : ℕ)
deriving DecidableEq

structure OperationCountersModel where
  totalModems : ℕ := 0
  eligibleModems : ℕ := 0
  precheckPassed : ℕ := 0
  captureStarted : ℕ := 0
  completed : ℕ := 0
  success : ℕ := 0
  failed : ℕ := 0
  skipped : ℕ := 0
deriving DecidableEq

structure OperationTimestampsModel where
  createdEpoch : TimestampSec := 0
  startedEpoch : TimestampSec := 0
  updatedEpoch : TimestampSec := 0
  finishedEpoch : TimestampSec := 0
deriving DecidableEq

structure OperationExecutionModel where
  maxWorkers : ℕ := 0
  retryCount : ℕ := 0
  retryDelaySeconds : ℚ := 0
  perModemTimeoutSeconds : ℚ := 1
  overallTimeoutSeconds : ℚ := 1
deriving DecidableEq

structure OperationRequestSummaryModel where
  servingGroupIds : List ServiceGroupId := []
  macAddresses : List MacAddressStr := []
  channelIds : List ChannelId := []
  execution : OperationExecutionModel := {}
deriving DecidableEq

structure OperationErrorSummaryModel where
  message : String := ""
  detail : String := ""
deriving DecidableEq

structure OperationStageResultModel where
  stage : OperationStage
  statusCode : ServiceStatusCode := .success
  failureReason : Option PnmCaptureFailureReason := none
  channelId : Option ChannelId := none
  transactionIds : List TransactionId := []
  filenames : List FileNameStr := []
  message : String := ""
  startedEpoch : TimestampSec := 0
  finishedEpoch : TimestampSec := 0
deriving DecidableEq

structure OperationStateModel where
  operationId : PnmCaptureOperationId
  state : OperationState := .queued
  counters : OperationCountersModel := {}
  timestamps : OperationTimestampsModel := {}
  requestSummary : OperationRequestSummaryModel := {}
  errorSummary : Option OperationErrorSummaryModel := none
deriving DecidableEq

structure PerModemLinkageRecordModel where
  pnmCaptureOperationId : PnmCaptureOperationId
  sgId : ServiceGroupId
  macAddress : MacAddressStr
  ipAddress : Option InetAddressStr := none
  stage : OperationStage := .eligibility
  statusCode : ServiceStatusCode := .success
  failureReason : Option PnmCaptureFailureReason := none
  channelId : Option ChannelId := none
  transactionIds : List TransactionId := []
  filenames : List FileNameStr := []
  startedEpoch : TimestampSec := 0
  finishedEpoch : TimestampSec := 0
  message : String := ""
deriving DecidableEq

end PypnmCmts
